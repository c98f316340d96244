import MeshScenes.Text.Decimal

/-!
# Instants

A UTC instant is a day of the proleptic Gregorian calendar and a time of that day to the nanosecond.
A minute may have a leap second, its second number 60.
-/

namespace MeshScenes

def isLeapYear (year : Int) : Bool :=
  year.emod 4 = 0 && (year.emod 100 ≠ 0 || year.emod 400 = 0)

def daysInMonth (year : Int) (month : Nat) : Nat :=
  if month = 2 then (if isLeapYear year then 29 else 28)
  else if month = 4 ∨ month = 6 ∨ month = 9 ∨ month = 11 then 30 else 31

def firstYear : Int := -262143

def lastYear : Int := 262142

def IsDate (year : Int) (month day : Nat) : Prop :=
  firstYear ≤ year ∧ year ≤ lastYear ∧ 1 ≤ month ∧ month ≤ 12 ∧ 1 ≤ day ∧
    day ≤ daysInMonth year month

instance (year : Int) (month day : Nat) : Decidable (IsDate year month day) := by
  unfold IsDate; exact inferInstance

structure Date where
  year : Int
  month : Nat
  day : Nat
  isDate : IsDate year month day
  deriving DecidableEq

namespace Date

def ofFields? (year : Int) (month day : Nat) : Option Date :=
  if h : IsDate year month day then some ⟨year, month, day, h⟩ else none

def next? (d : Date) : Option Date :=
  if d.day < daysInMonth d.year d.month then ofFields? d.year d.month (d.day + 1)
  else if d.month < 12 then ofFields? d.year (d.month + 1) 1
  else ofFields? (d.year + 1) 1 1

def previous? (d : Date) : Option Date :=
  if 1 < d.day then ofFields? d.year d.month (d.day - 1)
  else if 1 < d.month then ofFields? d.year (d.month - 1) (daysInMonth d.year (d.month - 1))
  else ofFields? (d.year - 1) 12 31

end Date

def IsTime (hour minute second nanosecond : Nat) : Prop :=
  hour < 24 ∧ minute < 60 ∧ second ≤ 60 ∧ nanosecond < 1000000000

instance (hour minute second nanosecond : Nat) :
    Decidable (IsTime hour minute second nanosecond) := by
  unfold IsTime; exact inferInstance

structure TimeOfDay where
  hour : Nat
  minute : Nat
  second : Nat
  nanosecond : Nat
  isTime : IsTime hour minute second nanosecond
  deriving DecidableEq

def TimeOfDay.ofFields? (hour minute second nanosecond : Nat) : Option TimeOfDay :=
  if h : IsTime hour minute second nanosecond then some ⟨hour, minute, second, nanosecond, h⟩
    else none

structure Timestamp where
  date : Date
  time : TimeOfDay
  deriving DecidableEq

namespace Timestamp

/-- The instant that a clock shows so many minutes ahead of UTC, less than a day. -/
def ofLocal? (date : Date) (time : TimeOfDay) (aheadMinutes : Int) : Option Timestamp := do
  let minutes : Int := 60 * time.hour + time.minute - aheadMinutes
  let day ← if minutes < 0 then date.previous? else if minutes < 1440 then some date else date.next?
  let m := (minutes.emod 1440).toNat
  let time ← TimeOfDay.ofFields? (m / 60) (m % 60) time.second time.nanosecond
  return ⟨day, time⟩

/-- The digits of the second's fraction: none, three, six or nine, the fewest that are exact. -/
def fraction (nanosecond : Nat) : String :=
  if nanosecond = 0 then ""
  else if nanosecond % 1000000 = 0 then "." ++ Decimal.padded 3 (nanosecond / 1000000)
  else if nanosecond % 1000 = 0 then "." ++ Decimal.padded 6 (nanosecond / 1000)
  else "." ++ Decimal.padded 9 nanosecond

/-- Four digits, or a sign and at least four when four do not suffice. -/
def yearText (year : Int) : String :=
  if 0 ≤ year ∧ year ≤ 9999 then Decimal.padded 4 year.toNat
  else (if year < 0 then "-" else "+") ++ Decimal.padded 4 year.natAbs

/-- The RFC 3339 form, in UTC. -/
def render (t : Timestamp) : String :=
  s!"{yearText t.date.year}-{Decimal.padded 2 t.date.month}-{Decimal.padded 2 t.date.day}T"
    ++ s!"{Decimal.padded 2 t.time.hour}:{Decimal.padded 2 t.time.minute}:{Decimal.padded 2 t.time.second}"
    ++ fraction t.time.nanosecond ++ "Z"

/-- The instant from which Unix time counts. -/
def epoch : Timestamp := ⟨⟨1970, 1, 1, by decide⟩, ⟨0, 0, 0, 0, by decide⟩⟩

end Timestamp

end MeshScenes
