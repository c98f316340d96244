/-!
# UTF-8 with damaged spots

A byte string is read as a sequence of spots, each a character or a damaged one. A damaged spot is
the longest run of bytes that starts a character and cannot go on, or a byte that starts none. So a
text has damaged spots only where the bytes are no UTF-8, and reading starts afresh behind each.
-/

namespace MeshScenes.Utf8

/-- A character that has begun: the bits so far, the range of its next byte, and how many bytes
follow that one. -/
structure Begun where
  bits : Nat
  low : Nat
  high : Nat
  after : Nat
  deriving DecidableEq, Repr

/-- A character, or a damaged spot. -/
abbrev Spot := Option Char

/-- The first byte of a character fixes its length and the range of its second byte, which rules out
overlong forms, surrogates and values past the last character. -/
def start (b : Nat) : List Spot × Option Begun :=
  if b < 0x80 then ([some (Char.ofNat b)], none)
  else if b < 0xC2 then ([none], none)
  else if b < 0xE0 then ([], some ⟨b - 0xC0, 0x80, 0xBF, 0⟩)
  else if b = 0xE0 then ([], some ⟨0, 0xA0, 0xBF, 1⟩)
  else if b = 0xED then ([], some ⟨0xD, 0x80, 0x9F, 1⟩)
  else if b < 0xF0 then ([], some ⟨b - 0xE0, 0x80, 0xBF, 1⟩)
  else if b = 0xF0 then ([], some ⟨0, 0x90, 0xBF, 2⟩)
  else if b < 0xF4 then ([], some ⟨b - 0xF0, 0x80, 0xBF, 2⟩)
  else if b = 0xF4 then ([], some ⟨4, 0x80, 0x8F, 2⟩)
  else ([none], none)

/-- Reads one more byte; one that cannot go on with the character begun leaves a damaged spot and
starts afresh. -/
def step (begun : Option Begun) (b : Nat) : List Spot × Option Begun :=
  match begun with
  | none => start b
  | some c =>
    if c.low ≤ b ∧ b ≤ c.high then
      let bits := 64 * c.bits + (b - 0x80)
      match c.after with
      | 0 => ([some (Char.ofNat bits)], none)
      | n + 1 => ([], some ⟨bits, 0x80, 0xBF, n⟩)
    else
      let (spots, next) := start b
      (none :: spots, next)

def read (begun : Option Begun) : List UInt8 → List Spot
  | [] => if begun.isSome then [none] else []
  | b :: bs =>
    let (spots, next) := step begun b.toNat
    spots ++ read next bs

/-- The characters and damaged spots of a byte string. -/
def spots (bytes : List UInt8) : List Spot := read none bytes

/-- The text of bytes that hold no damaged spot. -/
def strict? (bytes : List UInt8) : Option String := (spots bytes).mapM id |>.map String.ofList

/-- The text of any bytes: a damaged spot becomes the replacement character. -/
def lossy (bytes : List UInt8) : String :=
  String.ofList ((spots bytes).map fun s => s.getD (Char.ofNat 0xFFFD))

def encode (s : String) : List UInt8 := s.toList.flatMap String.utf8EncodeChar

end MeshScenes.Utf8
