import MeshScenes.Json.Value
import MeshScenes.Text.Utf8

/-!
# JSON tokens

The lexer is a machine that takes one spot of the text after the other, so reading a text in two
pieces is reading it whole. A damaged spot is allowed inside quotes only, and makes the text
damaged.
-/

namespace MeshScenes.Json

inductive Token where
  | openArray
  | closeArray
  | openObject
  | closeObject
  | comma
  | colon
  | scalar (v : JsonValue)

/-- A part of a quoted text: a character, a damaged spot, or half of a surrogate pair. -/
inductive Piece where
  | char (c : Char)
  | damaged
  | half (unit : Nat)

/-- The text of its pieces, if they are a text: halves must come in pairs. -/
def assemble : List Piece → Option (List Char)
  | [] => some []
  | .char c :: rest => (assemble rest).map (c :: ·)
  | .half high :: .half low :: rest =>
    if high < 0xDC00 ∧ 0xDC00 ≤ low then
      (assemble rest).map (Char.ofNat (0x10000 + 0x400 * (high - 0xD800) + (low - 0xDC00)) :: ·)
    else none
  | .half _ :: _ => none
  | .damaged :: _ => none

/-- Where a number stands; the parts behind the integer need no value. -/
inductive NumberPart where
  | sign
  | zero (negative : Bool)
  | digits (negative : Bool) (value : Nat)
  | point
  | fraction
  | exponent
  | exponentSign
  | exponentDigits

/-- The number that has been read so far, if it is one. -/
def NumberPart.value? : NumberPart → Option JsonValue
  | zero false => some (.natural 0)
  | digits false n => some (.natural n)
  | zero true | digits true _ | fraction | exponentDigits => some .otherNumber
  | sign | point | exponent | exponentSign => none

/-- The part after one more character, if the number goes on with it. -/
def NumberPart.next? (p : NumberPart) (c : Char) : Option NumberPart :=
  let digit := c.toNat - '0'.toNat
  match p with
  | sign =>
    if c = '0' then some (zero true) else if c.isDigit then some (digits true digit) else none
  | zero _ => if c = '.' then some point else if c = 'e' ∨ c = 'E' then some exponent else none
  | digits negative n =>
    if c.isDigit then some (digits negative (10 * n + digit))
    else if c = '.' then some point
    else if c = 'e' ∨ c = 'E' then some exponent
    else none
  | point => if c.isDigit then some fraction else none
  | fraction =>
    if c.isDigit then some fraction else if c = 'e' ∨ c = 'E' then some exponent else none
  | exponent =>
    if c.isDigit then some exponentDigits else if c = '+' ∨ c = '-' then some exponentSign else none
  | exponentSign | exponentDigits => if c.isDigit then some exponentDigits else none

inductive Mode where
  | outside
  /-- In a literal, of which these characters are still to come. -/
  | word (rest : List Char) (v : JsonValue)
  | number (part : NumberPart)
  /-- Between quotes; the pieces are kept last one first. -/
  | quoted (pieces : List Piece)
  | escape (pieces : List Piece)
  /-- In the number of a character, of which so many digits are still to come. -/
  | code (pieces : List Piece) (value : Nat) (missing : Nat)

def hexValue? (c : Char) : Option Nat :=
  if c.isDigit then some (c.toNat - '0'.toNat)
  else if 'a' ≤ c ∧ c ≤ 'f' then some (c.toNat - 'a'.toNat + 10)
  else if 'A' ≤ c ∧ c ≤ 'F' then some (c.toNat - 'A'.toNat + 10)
  else none

def Piece.ofUnit (unit : Nat) : Piece :=
  if 0xD800 ≤ unit ∧ unit < 0xE000 then .half unit else .char (Char.ofNat unit)

/-- The piece that a one-letter escape stands for. -/
def Piece.ofEscape? (c : Char) : Option Piece :=
  if c = '"' ∨ c = '\\' ∨ c = '/' then some (.char c)
  else if c = 'b' then some (.char (Char.ofNat 8))
  else if c = 'f' then some (.char (Char.ofNat 12))
  else if c = 'n' then some (.char (Char.ofNat 10))
  else if c = 'r' then some (.char (Char.ofNat 13))
  else if c = 't' then some (.char (Char.ofNat 9))
  else none

def closeQuote (pieces : List Piece) : Token :=
  match assemble pieces.reverse with
  | some cs => .scalar (.text (String.ofList cs))
  | none => .scalar .damagedText

/-- What a character between tokens begins. -/
def Mode.enter (c : Char) : Option (List Token × Mode) :=
  if c = ' ' ∨ c = '\t' ∨ c = '\n' ∨ c = '\r' then some ([], .outside)
  else if c = '[' then some ([.openArray], .outside)
  else if c = ']' then some ([.closeArray], .outside)
  else if c = '\x7b' then some ([.openObject], .outside)
  else if c = '\x7d' then some ([.closeObject], .outside)
  else if c = ',' then some ([.comma], .outside)
  else if c = ':' then some ([.colon], .outside)
  else if c = '"' then some ([], .quoted [])
  else if c = 't' then some ([], .word ['r', 'u', 'e'] (.bool true))
  else if c = 'f' then some ([], .word ['a', 'l', 's', 'e'] (.bool false))
  else if c = 'n' then some ([], .word ['u', 'l', 'l'] .null)
  else if c = '-' then some ([], .number .sign)
  else if c = '0' then some ([], .number (.zero false))
  else if c.isDigit then some ([], .number (.digits false (c.toNat - '0'.toNat)))
  else none

def Mode.step (mode : Mode) (spot : Utf8.Spot) : Option (List Token × Mode) :=
  match mode, spot with
  | .quoted pieces, none => some ([], .quoted (.damaged :: pieces))
  | _, none => none
  | .outside, some c => enter c
  | .word rest v, some c =>
    match rest with
    | [] => none
    | [d] => if c = d then some ([.scalar v], .outside) else none
    | d :: rest => if c = d then some ([], .word rest v) else none
  | .number part, some c =>
    match part.next? c with
    | some part => some ([], .number part)
    | none => do
      let v ← part.value?
      let (tokens, mode) ← enter c
      return (.scalar v :: tokens, mode)
  | .quoted pieces, some c =>
    if c = '"' then some ([closeQuote pieces], .outside)
    else if c = '\\' then some ([], .escape pieces)
    else if c.toNat < 32 then none
    else some ([], .quoted (.char c :: pieces))
  | .escape pieces, some c =>
    if c = 'u' then some ([], .code pieces 0 3)
    else (Piece.ofEscape? c).map fun p => ([], .quoted (p :: pieces))
  | .code pieces value missing, some c => do
    let d ← hexValue? c
    match missing with
    | 0 => return ([], .quoted (.ofUnit (16 * value + d) :: pieces))
    | n + 1 => return ([], .code pieces (16 * value + d) n)

/-- What the end of the text completes. -/
def Mode.finish : Mode → Option (List Token)
  | .outside => some []
  | .number part => part.value?.map fun v => [.scalar v]
  | _ => none

def tokensFrom (mode : Mode) : List Utf8.Spot → Option (List Token)
  | [] => mode.finish
  | spot :: rest => do
    let (tokens, mode) ← mode.step spot
    let more ← tokensFrom mode rest
    return tokens ++ more

def tokens (text : List Utf8.Spot) : Option (List Token) := tokensFrom .outside text

end MeshScenes.Json
