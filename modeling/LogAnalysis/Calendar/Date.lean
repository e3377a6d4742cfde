/-!
Days of the Gregorian calendar in the years 1 to 9999, and their numbers counted from 1970-01-01.
-/

namespace LogAnalysis.Calendar

def isLeapYear (year : Nat) : Bool := year % 4 == 0 && (year % 100 != 0 || year % 400 == 0)

def daysInMonth (year month : Nat) : Nat :=
  if month = 2 then if isLeapYear year then 29 else 28
  else if month = 4 ∨ month = 6 ∨ month = 9 ∨ month = 11 then 30
  else if 1 ≤ month ∧ month ≤ 12 then 31
  else 0

structure Date where
  year : Nat
  month : Nat
  day : Nat
deriving Repr, DecidableEq, Inhabited

namespace Date

def isValid (d : Date) : Bool :=
  1 ≤ d.year && d.year ≤ 9999 && 1 ≤ d.month && d.month ≤ 12 && 1 ≤ d.day &&
    d.day ≤ daysInMonth d.year d.month

/-- The number of days from 1970-01-01. -/
def dayNumber (d : Date) : Int :=
  -- Years begin in March here, so that the leap day is the last of its year.
  let y : Int := if d.month ≤ 2 then (d.year : Int) - 1 else d.year
  let m : Int := if d.month ≤ 2 then (d.month : Int) + 9 else (d.month : Int) - 3
  let era := y / 400
  let yearOfEra := y % 400
  let dayOfYear := (153 * m + 2) / 5 + d.day - 1
  let dayOfEra := yearOfEra * 365 + yearOfEra / 4 - yearOfEra / 100 + dayOfYear
  era * 146097 + dayOfEra - 719468

def ofDayNumber (n : Int) : Date :=
  let z := n + 719468
  let era := z / 146097
  let dayOfEra := z % 146097
  let yearOfEra := (dayOfEra - dayOfEra / 1460 + dayOfEra / 36524 - dayOfEra / 146096) / 365
  let dayOfYear := dayOfEra - (365 * yearOfEra + yearOfEra / 4 - yearOfEra / 100)
  let m := (5 * dayOfYear + 2) / 153
  let month := if m < 10 then m + 3 else m - 9
  let year := yearOfEra + era * 400 + (if m < 10 then 0 else 1)
  ⟨year.toNat, month.toNat, (dayOfYear - (153 * m + 2) / 5 + 1).toNat⟩

def weekday (d : Date) : Nat := ((d.dayNumber + 3) % 7).toNat

end Date

def firstDay : Int := Date.dayNumber ⟨1, 1, 1⟩

def lastDay : Int := Date.dayNumber ⟨9999, 12, 31⟩

def Date.add? (d : Date) (days : Int) : Option Date :=
  let n := d.dayNumber + days
  if firstDay ≤ n ∧ n ≤ lastDay then some (Date.ofDayNumber n) else none

end LogAnalysis.Calendar
