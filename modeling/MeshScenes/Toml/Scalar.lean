import MeshScenes.Text.Decimal
import MeshScenes.Text.Reading
import MeshScenes.Timestamp.Basic
import MeshScenes.Toml.Item

/-!
# Numbers and moments in TOML

Readers for the words that are written without quotes. Digits may have single underscores between
them. Integers have 64 bits, and a float must not be too large for 64 bits either.
-/

namespace MeshScenes.Toml

open Reading

/-- The digits of a run of digits with single underscores between them. -/
def ungroup (isDigit : Char → Bool) : List Char → Option (List Char)
  | [] => none
  | [c] => if isDigit c then some [c] else none
  | c :: '_' :: rest => if isDigit c then (ungroup isDigit rest).map (c :: ·) else none
  | c :: rest => if isDigit c then (ungroup isDigit rest).map (c :: ·) else none

/-- The digits of a decimal number, which has no needless zero in front. -/
def decimalDigits? (word : List Char) : Option (List Char) := do
  let digits ← ungroup Char.isDigit word
  if digits.head? = some '0' ∧ digits ≠ ['0'] then none else some digits

/-- The sign in front of a word, if there is one, and the word behind it. -/
def splitSign : List Char → Bool × List Char
  | '+' :: rest => (false, rest)
  | '-' :: rest => (true, rest)
  | word => (false, word)

/-! ## Integers -/

def digitValue (c : Char) : Nat :=
  if c.isDigit then c.toNat - '0'.toNat
  else if 'a' ≤ c ∧ c ≤ 'f' then c.toNat - 'a'.toNat + 10
  else c.toNat - 'A'.toNat + 10

def isHexDigit (c : Char) : Bool := c.isDigit || ('a' ≤ c && c ≤ 'f') || ('A' ≤ c && c ≤ 'F')

def valueInBase (base : Nat) (digits : List Char) : Nat :=
  digits.foldl (fun n c => base * n + digitValue c) 0

def integer? (word : List Char) : Option Int := do
  let inBase (base : Nat) (isDigit : Char → Bool) (rest : List Char) : Option Int :=
    (ungroup isDigit rest).map fun digits => (valueInBase base digits : Int)
  let n ← match word with
    | '0' :: 'x' :: rest => inBase 16 isHexDigit rest
    | '0' :: 'o' :: rest => inBase 8 (fun c => '0' ≤ c && c ≤ '7') rest
    | '0' :: 'b' :: rest => inBase 2 (fun c => c = '0' || c = '1') rest
    | _ =>
      let (negative, rest) := splitSign word
      (decimalDigits? rest).map fun digits =>
        if negative then -(Decimal.value digits : Int) else (Decimal.value digits : Int)
  if Int64.minValue.toInt ≤ n ∧ n ≤ Int64.maxValue.toInt then some n else none

/-! ## Floats -/

/-- Whether `digits · 10 ^ exponent` is rounded beyond the largest 64-bit float. -/
def isTooLarge (digits : Nat) (exponent : Int) : Bool :=
  let bound := 1 <<< 1024 - 1 <<< 970
  let size : Int := (toString digits).length
  if digits = 0 ∨ size + exponent < 300 then false
  else if 320 < size + exponent then true
  else if 0 ≤ exponent then bound ≤ digits * Decimal.tenTo exponent.toNat
  else bound * Decimal.tenTo (-exponent).toNat ≤ digits

def exponent? (word : List Char) : Option Int := do
  let (negative, rest) := splitSign word
  let digits ← ungroup Char.isDigit rest
  return if negative then -(Decimal.value digits : Int) else (Decimal.value digits : Int)

def isFloat (word : List Char) : Bool :=
  let (negative, rest) := splitSign word
  if rest = ['i', 'n', 'f'] ∨ rest = ['n', 'a', 'n'] then true
  else
    let isMark (c : Char) : Bool := c = 'e' || c = 'E'
    let mantissa := rest.takeWhile (!isMark ·)
    let behind := rest.dropWhile (!isMark ·)
    let whole := mantissa.takeWhile (· ≠ '.')
    let parts : Option (List Char × List Char × Int) := do
      let digits ← decimalDigits? whole
      let fraction ← match mantissa.dropWhile (· ≠ '.') with
        | [] => some []
        | _ :: fraction => ungroup Char.isDigit fraction
      let e ← match behind with
        | [] => if fraction.isEmpty then none else some 0
        | _ :: e => exponent? e
      return (digits, fraction, e)
    match parts with
    | none => false
    | some (digits, fraction, e) =>
      negative || !isTooLarge (Decimal.value (digits ++ fraction)) (e - fraction.length)

/-! ## Moments -/

/-- Exactly so many digits. -/
def fixedDigits (width : Nat) : Reading Nat := do
  let digits ← (List.replicate width ()).mapM fun _ => satisfying Char.isDigit
  return Decimal.value digits

def dateWord : Reading Unit := do
  let year ← fixedDigits 4
  literal '-'
  let month ← fixedDigits 2
  literal '-'
  let day ← fixedDigits 2
  if 1 ≤ month ∧ month ≤ 12 ∧ 1 ≤ day ∧ day ≤ daysInMonth year month then return else failure

def clockWord : Reading Unit := do
  let hour ← fixedDigits 2
  literal ':'
  let minute ← fixedDigits 2
  literal ':'
  let second ← fixedDigits 2
  let _ ← maybe do
    literal '.'
    let _ ← satisfying Char.isDigit
    run Char.isDigit
  if hour < 24 ∧ minute < 60 ∧ second ≤ 60 then return else failure

def offsetWord : Reading Unit := fun
  | 'Z' :: cs | 'z' :: cs => some ((), cs)
  | cs => (do
      let _ ← satisfying fun c => c = '+' || c = '-'
      let hour ← fixedDigits 2
      literal ':'
      let minute ← fixedDigits 2
      if hour < 24 ∧ minute < 60 then return else failure : Reading Unit) cs

def isDate (word : List Char) : Bool := (dateWord.all? word).isSome

/-- A time of day with an offset, or without. -/
def isClock (word : List Char) : Bool :=
  ((do clockWord; let _ ← maybe offsetWord; return : Reading Unit).all? word).isSome

def isMoment (word : List Char) : Bool :=
  let dated : Reading Unit := do
    dateWord
    let _ ← maybe do
      let _ ← satisfying fun c => c = 'T' || c = 't'
      clockWord
      maybe offsetWord
  (dated.all? word).isSome || (clockWord.all? word).isSome

/-! ## Words -/

/-- What a word without quotes stands for. -/
def scalar? (word : List Char) : Option Item :=
  if word = "true".toList then some (.boolean true)
  else if word = "false".toList then some (.boolean false)
  else if isMoment word then some .moment
  else if isFloat word then some .float
  else (integer? word).map .integer

end MeshScenes.Toml
