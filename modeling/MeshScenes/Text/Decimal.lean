/-!
# Decimal numbers of one byte

The reader of a byte written in decimal, with the cause of each refusal, and the digits that the
printers share. Only the ASCII digits count as digits.
-/

namespace MeshScenes

/-- Why a text is no decimal byte. -/
inductive NumberError where
  | empty
  | invalidDigit
  | tooLarge
  deriving DecidableEq, Repr

def NumberError.message : NumberError → String
  | .empty => "cannot parse integer from empty string"
  | .invalidDigit => "invalid digit found in string"
  | .tooLarge => "number too large to fit in target type"

namespace Decimal

def digit? (c : Char) : Option Nat :=
  if '0' ≤ c ∧ c ≤ '9' then some (c.toNat - '0'.toNat) else none

/-- Reads digits from the left; the first one that is no digit, or too many, ends the reading. -/
def readByte (value : Nat) : List Char → Except NumberError UInt8
  | [] => .ok (UInt8.ofNat value)
  | c :: cs =>
    match digit? c with
    | none => .error .invalidDigit
    | some d => if 255 < 10 * value + d then .error .tooLarge else readByte (10 * value + d) cs

/-- A byte in decimal, with at most one plus sign before the digits. -/
def parseByte (text : String) : Except NumberError UInt8 :=
  match text.toList with
  | [] => .error .empty
  | ['+'] => .error .invalidDigit
  | '+' :: digits => readByte 0 digits
  | digits => readByte 0 digits

def value (digits : List Char) : Nat :=
  digits.foldl (fun n c => 10 * n + (c.toNat - '0'.toNat)) 0

/-- The number that is written as a one and `n` zeros. -/
def tenTo (n : Nat) : Nat := Nat.pow 10 n

/-- A number in at least `width` digits. -/
def padded (width n : Nat) : String :=
  let digits := toString n
  String.ofList (List.replicate (width - digits.length) '0') ++ digits

end Decimal

end MeshScenes
