import LogAnalysis.Calendar.Date

/-!
Points in time to the millisecond, and their text in universal time.
-/

namespace LogAnalysis.Calendar

structure Instant where
  milliseconds : Int
deriving Repr, DecidableEq, Inhabited

def padded (width n : Nat) : String :=
  let ds := Nat.toDigits 10 n
  String.ofList (List.replicate (width - ds.length) '0' ++ ds)

namespace Instant

def ofDay (day : Int) (milliseconds : Int) : Instant := ⟨day * 86400000 + milliseconds⟩

def date (i : Instant) : Date := Date.ofDayNumber (i.milliseconds / 86400000)

def timeOfDay (i : Instant) : Nat := (i.milliseconds % 86400000).toNat

def text (i : Instant) : String :=
  let d := i.date
  let t := i.timeOfDay
  -- The year stands without leading zeros.
  s!"{d.year}-{padded 2 d.month}-{padded 2 d.day}" ++
    s!"T{padded 2 (t / 3600000)}:{padded 2 (t / 60000 % 60)}" ++
    s!":{padded 2 (t / 1000 % 60)}.{padded 3 (t % 1000)}Z"

end Instant

end LogAnalysis.Calendar
