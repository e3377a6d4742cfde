import LogAnalysis.Calendar.Instant

/-!
Wall-clock times, the local clock, and the step from either to a point in time.

The local zone has a fixed distance from universal time. A wall-clock time of the local zone has no instant when it,
its image under the distance, or the day before it leaves the calendar.
-/

namespace LogAnalysis.Calendar

structure WallTime where
  date : Date
  hour : Nat
  minute : Nat
  second : Nat
  microsecond : Nat
deriving Repr, DecidableEq, Inhabited

namespace WallTime

def isValid (w : WallTime) : Bool :=
  w.date.isValid && w.hour < 24 && w.minute < 60 && w.second < 60 && w.microsecond < 1000000

def seconds (w : WallTime) : Int :=
  w.date.dayNumber * 86400 + (w.hour * 3600 + w.minute * 60 + w.second : Nat)

def addDays? (w : WallTime) (days : Int) : Option WallTime :=
  (w.date.add? days).map fun d => { w with date := d }

def midnight (w : WallTime) : WallTime := ⟨w.date, 0, 0, 0, 0⟩

end WallTime

def inCalendar (seconds : Int) : Bool :=
  firstDay * 86400 ≤ seconds && seconds < (lastDay + 1) * 86400

/-- The instant of a wall-clock time in a zone some seconds ahead of universal time, less than a day. -/
def WallTime.inZone? (w : WallTime) (ahead : Int) : Option Instant :=
  let seconds := w.seconds - ahead
  if ahead.natAbs < 86400 && inCalendar seconds then
    some ⟨seconds * 1000 + (w.microsecond / 1000 : Nat)⟩
  else none

structure Clock where
  now : WallTime
  ahead : Int
deriving Repr, Inhabited

namespace Clock

/-- The clock of a zone some minutes ahead of universal time, so many seconds after the start of 1970. -/
def ofSeconds (seconds : Int) (ahead : Int) : Clock :=
  let wall := seconds + ahead * 60
  let second := (wall % 86400).toNat
  { now := ⟨Date.ofDayNumber (wall / 86400), second / 3600, second / 60 % 60, second % 60, 0⟩, ahead }

def zoneName (clock : Clock) : String := if clock.ahead = 0 then "UTC" else "LCL"

def aheadSeconds (clock : Clock) : Int := clock.ahead * 60

def instant? (clock : Clock) (w : WallTime) : Option Instant :=
  if inCalendar (w.seconds + clock.aheadSeconds) && inCalendar (w.seconds - 86400) then
    w.inZone? clock.aheadSeconds
  else none

end Clock

end LogAnalysis.Calendar
