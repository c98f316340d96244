import MeshScenes.Text.Blank
import MeshScenes.Text.Reading
import MeshScenes.Timestamp.Basic

/-!
# Reading instants

The reader takes RFC 3339 and is lenient about it: blanks may stand before and between the numbers,
numbers may be short, a signed year may be long, and the offset may be `UTC` or have any colons and
blanks between its hours and minutes.
-/

namespace MeshScenes.Timestamp.Reader

open Reading

def blanks : Reading Unit := modify skipBlanks

/-- A number of one digit at least, and of `width` digits at most where there is a limit. -/
def number (width : Option Nat) : Reading Nat := fun cs =>
  let run := cs.takeWhile Char.isDigit
  let digits := match width with
    | some w => run.take w
    | none => run
  if digits.isEmpty then none else some (Decimal.value digits, cs.drop digits.length)

def year : Reading Int := do
  blanks
  match ← get with
  | '-' :: cs => set cs; return -(← number none)
  | '+' :: cs => set cs; return (← number none)
  | _ => return (← number (some 4))

def twoDigits : Reading Nat := do
  blanks
  number (some 2)

/-- Blanks, and then the mark between two numbers. -/
def separator (c : Char) : Reading Unit := do
  blanks
  literal c

def date : Reading Date := do
  let y ← year
  separator '-'
  let m ← twoDigits
  separator '-'
  let d ← twoDigits
  of (Date.ofFields? y m d)

/-- The mark between day and time. -/
def dayEnd : Reading Unit := fun
  | c :: cs => if c = 'T' ∨ c = 't' ∨ c = ' ' then some ((), cs) else none
  | [] => none

/-- Nanoseconds of a fraction; digits behind the ninth are dropped. -/
def fraction : Reading Nat := fun
  | '.' :: cs =>
    let run := cs.takeWhile Char.isDigit
    let digits := run.take 9
    if digits.isEmpty then none
    else some (Decimal.value digits * Decimal.tenTo (9 - digits.length), cs.drop run.length)
  | cs => some (0, cs)

def time : Reading TimeOfDay := do
  let h ← twoDigits
  separator ':'
  let m ← twoDigits
  separator ':'
  let s ← twoDigits
  let n ← fraction
  of (TimeOfDay.ofFields? h m s n)

/-- Two digits, of which the first is not above `most`. -/
def exactDigits (most : Char) : Reading Nat := fun
  | a :: b :: cs =>
    if a.isDigit ∧ a ≤ most ∧ b.isDigit then some (Decimal.value [a, b], cs) else none
  | _ => none

/-- Hours and minutes after a sign; the day must be longer than the offset. -/
def offsetDigits : Reading Int := do
  let h ← exactDigits '9'
  modify (·.dropWhile fun c => c = ':' || isBlank c)
  let m ← exactDigits '5'
  if h < 24 then return (60 * h + m : Nat) else failure

/-- How many minutes the clock is ahead of UTC. -/
def offset : Reading Int := fun cs =>
  match cs with
  | [] => none
  | c :: rest =>
    if (cs.take 3).map Char.toUpper = ['U', 'T', 'C'] then some (0, cs.drop 3)
    else if c = 'Z' ∨ c = 'z' then some (0, rest)
    else if c = '+' then offsetDigits rest
    else if c = '-' ∨ c = Char.ofNat 0x2212 then (offsetDigits rest).map fun r => (-r.1, r.2)
    else none

def instant : Reading Timestamp := do
  let d ← date
  dayEnd
  let t ← time
  blanks
  let ahead ← offset
  blanks
  of (ofLocal? d t ahead)

end MeshScenes.Timestamp.Reader

namespace MeshScenes

def Timestamp.parse? (text : String) : Option Timestamp := Timestamp.Reader.instant.all? text.toList

end MeshScenes
