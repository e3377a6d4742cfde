import LogAnalysis.Calendar.Clock
import LogAnalysis.Calendar.Lexeme
import LogAnalysis.Decimal.Reader
import LogAnalysis.Text.Case

/-!
Reading dates and times in free form, such as `Sat, 5 Mar 2022 10:20 pm EST` or `20220305T1020`.

The lexemes are read from left to right into `Reading`: times and zones at once, the numbers and month names of the date
into a list whose roles `DateParts.resolve?` decides at the end. What the text does not say is taken from the
day that the local clock shows, at midnight.
-/

namespace LogAnalysis.Calendar.FreeForm

open Text

/-! ## Vocabulary -/

def fillers : List String := [
  " ", ".", ",", ";", "-", "/", "'", "at", "on", "and", "ad", "m", "t", "of", "st", "nd", "rd", "th"]

def weekdayNames : List (List String) := [
  ["mon", "monday"], ["tue", "tuesday"], ["wed", "wednesday"], ["thu", "thursday"],
  ["fri", "friday"], ["sat", "saturday"], ["sun", "sunday"]]

def monthNames : List (List String) := [
  ["jan", "january"], ["feb", "february"], ["mar", "march"], ["apr", "april"], ["may"],
  ["jun", "june"], ["jul", "july"], ["aug", "august"], ["sep", "sept", "september"],
  ["oct", "october"], ["nov", "november"], ["dec", "december"]]

def unitNames : List (List String) := [
  ["h", "hour", "hours"], ["m", "minute", "minutes"], ["s", "second", "seconds"]]

def halfNames : List (List String) := [["am", "a"], ["pm", "p"]]

def placeOf? (groups : List (List String)) (word : String) : Option Nat :=
  groups.findIdx? (·.contains (lowered word))

def isFiller (word : String) : Bool := fillers.contains (lowered word)
def weekday? (word : String) : Option Nat := placeOf? weekdayNames word
def month? (word : String) : Option Nat := (placeOf? monthNames word).map (· + 1)
def unit? (word : String) : Option Nat := placeOf? unitNames word
def half? (word : String) : Option Nat := placeOf? halfNames word

def isUniversal (word : String) : Bool := ["utc", "gmt", "z"].contains (lowered word)

/-! ## Numbers -/

def amount? (s : String) : Option Decimal :=
  match Numeral.takeDecimal (s.toList.map Numeral.plainDigit) with
  | some (d, []) => some d
  | _ => none

def whole (d : Decimal) : Nat := d.significand / Nat.pow 10 (-d.exponent).toNat

def sixtieths (d : Decimal) : Nat × Bool :=
  let unit := Nat.pow 10 (-d.exponent).toNat
  (60 * (d.significand % unit) / unit, d.significand % unit ≠ 0)

def natural? (s : String) : Option Nat :=
  match Numeral.integer s with
  | .ok n => if 0 ≤ n then some n.toNat else none
  | .error _ => none

def slice (s : String) (start stop : Nat) : String :=
  String.ofList ((s.toList.take stop).drop start)

def dropStart (s : String) (start : Nat) : String := String.ofList (s.toList.drop start)

def allDigits (s : String) : Bool := s != "" && s.toList.all isDigit

def seconds? (s : String) : Option (Nat × Nat) := do
  match pieces '.' s with
  | [all] => some (← natural? all, 0)
  | [before, after] =>
    let ds := after.toList.take 6
    let places := String.ofList (ds ++ List.replicate (6 - ds.length) '0')
    some (← natural? before, ← natural? places)
  | _ => none

/-! ## The parts of the date -/

/-- Numbers that stand for year, month and day, in order, with the places of those whose role is known. -/
structure DateParts where
  values : List Nat := []
  yearAt : Option Nat := none
  monthAt : Option Nat := none
  centuryKnown : Bool := false

namespace DateParts

def addYear? (p : DateParts) (n : Nat) : Option DateParts :=
  if p.yearAt.isSome then none
  else some { p with values := p.values ++ [n], yearAt := some p.values.length }

def addMonth? (p : DateParts) (n : Nat) : Option DateParts :=
  if p.monthAt.isSome then none
  else some { p with values := p.values ++ [n], monthAt := some p.values.length }

def addText? (p : DateParts) (s : String) (isYear : Bool) : Option DateParts := do
  let long := allDigits s && 2 < s.length
  let n ← natural? s
  let p := { p with centuryKnown := p.centuryKnown || long }
  if isYear || long then p.addYear? n else some { p with values := p.values ++ [n] }

def addAmount? (p : DateParts) (d : Decimal) : Option DateParts :=
  let large := decide (100 * Nat.pow 10 (-d.exponent).toNat < d.significand)
  if large then { p with centuryKnown := true }.addYear? (whole d)
  else some { p with values := p.values ++ [whole d] }

def couldBeDay (p : DateParts) (d : Decimal) : Bool :=
  let least := Nat.pow 10 (-d.exponent).toNat ≤ d.significand
  let atMost (n : Nat) : Bool := d.significand ≤ n * Nat.pow 10 (-d.exponent).toNat
  match p.monthAt with
  | none => least && atMost 31
  | some m =>
    let month := p.values.getD m 0
    match p.yearAt with
    | none => least && atMost (daysInMonth 2000 month)
    | some y => least && atMost (daysInMonth (p.values.getD y 0) month)

abbrev Roles := Option Nat × Option Nat × Option Nat

def byMonth (a b c monthAt : Nat) : Roles :=
  match monthAt with
  | 0 => if 31 < b then (some b, some a, some c) else (some c, some a, some b)
  | 1 => if 31 < a then (some a, some b, some c) else (some c, some b, some a)
  | _ => if 31 < b then (some b, some c, some a) else (some a, some c, some b)

def byCustom (a b c : Nat) (yearFirst : Bool) : Roles :=
  if 31 < a || yearFirst then (some a, some b, some c)
  else if 12 < a then (some c, some b, some a)
  else (some c, some a, some b)

def resolve? (p : DateParts) : Option Roles :=
  match p.values, p.yearAt, p.monthAt with
  | [], _, _ => some (none, none, none)
  | [a], some _, _ => some (some a, none, none)
  | [a], none, some _ => some (none, some a, none)
  | [a], none, none => some (if 31 < a then (some a, none, none) else (none, none, some a))
  | [a, b], some y, some _ => some (if y = 0 then (some a, some b, none) else (some b, some a, none))
  | [a, b], _, some m =>
    let (month, other) := if m = 0 then (a, b) else (b, a)
    some (if 31 < other then (some other, some month, none) else (none, some month, some other))
  | [a, b], _, none =>
    some (if 31 < a then (some a, some b, none)
      else if 31 < b then (some b, some a, none)
      else (none, some a, some b))
  | [a, b, c], some y, some m =>
    let at? (i : Nat) : Option Nat := [a, b, c][i]?
    some (at? y, at? m, at? (3 - y - m))
  | [a, b, c], none, some m => some (byMonth a b c m)
  | [a, b, c], y, none => some (byCustom a b c (y == some 0))
  | _, _, _ => none

end DateParts

/-! ## Reading the lexemes -/

structure Reading where
  date : DateParts := {}
  weekday : Option Nat := none
  hour : Option Nat := none
  minute : Option Nat := none
  second : Option Nat := none
  microsecond : Option Nat := none
  zoneName : Option String := none
  zoneSeconds : Option Int := none

abbrev Step := Option (Reading × Nat)

def hourOfHalf (hour half : Nat) : Nat :=
  if hour < 12 ∧ half = 1 then hour + 12
  else if hour = 12 ∧ half = 0 then 0
  else hour

def setMinute (r : Reading) (d : Decimal) : Reading :=
  let (second, some?) := sixtieths d
  { r with minute := some (whole d), second := if some? then some second else none }

def setSecond? (r : Reading) (s : String) : Option Reading := do
  let (second, micro) ← seconds? s
  some { r with second := some second, microsecond := some micro }

/-- The lexeme may name a zone: a time came before it, no zone did, and it is short and in upper case. -/
def couldBeZone (r : Reading) (s : String) : Bool :=
  r.hour.isSome && r.zoneName.isNone && s.length ≤ 5 &&
    (s.toList.all Char.isUpper || s == "z")

section Lexemes

variable (ls : Array String)

/-- The unit that labels the number at a place, with the place that the reading goes on from. -/
def unitOf? (i : Nat) : Option (Nat × Nat) :=
  let unitAt (j : Nat) : Option Nat := ls[j]?.bind unit?
  match unitAt (i + 1) with
  | some u => some (u, i + 1)
  | none =>
    match (if ls[i + 1]? = some " " then unitAt (i + 2) else none) with
    | some u => some (u, i + 2)
    | none =>
      -- No label stands after the number: the one before it counts, and the number has the next smaller unit.
      match (if 0 < i then unitAt (i - 1) else none) with
      | some u => some (u + 1, i)
      | none =>
        if 1 < i ∧ i + 1 = ls.size ∧ ls[i - 1]? = some " " then
          (unitAt (i - 2)).map fun u => (u + 1, i)
        else none

def setUnit? (r : Reading) (s : String) (d : Decimal) (unit : Nat) : Option Reading :=
  match unit with
  | 0 =>
    let (minute, some?) := sixtieths d
    some { r with hour := some (whole d), minute := if some? then some minute else r.minute }
  | 1 => some (setMinute r d)
  | 2 => setSecond? r s
  | _ => some r

def joined? (r : Reading) (i : Nat) (s : String) (sign : String) : Step := do
  let date ← r.date.addText? s false
  match ls[i + 2]? with
  | none => some ({ r with date := date }, i + 1)
  | some second =>
    if isFiller second then some ({ r with date := date }, i + 1)
    else
      let date ←
        if allDigits second then date.addText? second false
        else date.addMonth? (← month? second)
      if ls[i + 3]? = some sign then
        let third ← ls[i + 4]?
        let date ← match month? third with
          | some m => date.addMonth? m
          | none => date.addText? third false
        some ({ r with date := date }, i + 4)
      else some ({ r with date := date }, i + 2)

def clockTime? (r : Reading) (i : Nat) (d : Decimal) : Step := do
  let minutes ← amount? (← ls[i + 2]?)
  let r := setMinute { r with hour := some (whole d) } minutes
  if i + 4 < ls.size ∧ ls[i + 3]? = some ":" then
    let r ← setSecond? r (← ls[i + 4]?)
    some (r, i + 4)
  else some (r, i + 2)

def number? (r : Reading) (i : Nat) (s : String) (d : Decimal) : Step :=
  let len := s.length
  let next := ls[i + 1]?
  let endsHere : Bool := match next with
    | none => true
    | some n => n != ":" && (unit? n).isNone
  if r.date.values.length = 3 ∧ (len = 2 ∨ len = 4) ∧ r.hour.isNone ∧ endsHere then do
    let hour ← natural? (slice s 0 2)
    let minute ← if len = 4 then (natural? (slice s 2 4)).map some else some r.minute
    some ({ r with hour := some hour, minute := minute }, i)
  else if len = 6 ∨ (6 < len ∧ indexOf? ['.'] s.toList = some 6) then do
    if r.date.values.isEmpty ∧ ¬ s.toList.contains '.' then
      let date ← r.date.addText? (slice s 0 2) false
      let date ← date.addText? (slice s 2 4) false
      let date ← date.addText? (slice s 4 6) false
      some ({ r with date := date }, i)
    else
      let hour ← natural? (slice s 0 2)
      let minute ← natural? (slice s 2 4)
      let r ← setSecond? { r with hour := some hour, minute := some minute } (dropStart s 4)
      some (r, i)
  else if len = 8 ∨ len = 12 ∨ len = 14 then do
    let date ← r.date.addText? (slice s 0 4) true
    let date ← date.addText? (slice s 4 6) false
    let date ← date.addText? (slice s 6 8) false
    let r := { r with date := date }
    if 8 < len then
      let hour ← natural? (slice s 8 10)
      let minute ← natural? (slice s 10 12)
      let second ← if 12 < len then (natural? (dropStart s 12)).map some else some r.second
      some ({ r with hour := some hour, minute := some minute, second := second }, i)
    else some (r, i)
  else match unitOf? ls i with
    | some (unit, i) => (setUnit? r s d unit).map (·, i)
    | none =>
      match next with
      | none => (r.date.addAmount? d).map fun date => ({ r with date := date }, i + 1)
      | some n =>
        if i + 2 < ls.size ∧ n = ":" then clockTime? ls r i d
        else if n = "-" ∨ n = "/" ∨ n = "." then joined? ls r i s n
        else if isFiller n then
          match ls[i + 2]?.bind half? with
          | some half => some ({ r with hour := some (hourOfHalf (whole d) half) }, i + 2)
          | none => (r.date.addAmount? d).map fun date => ({ r with date := date }, i + 1)
        else match half? n with
          | some half =>
            if whole d < 24 then
              some ({ r with hour := some (hourOfHalf (whole d) half) }, i + 1)
            else if r.date.couldBeDay d then
              (r.date.addAmount? d).map fun date => ({ r with date := date }, i)
            else none
          | none =>
            if r.date.couldBeDay d then
              (r.date.addAmount? d).map fun date => ({ r with date := date }, i)
            else none

def fullYear (currentYear year : Nat) (centuryKnown : Bool) : Nat :=
  if year < 100 ∧ ¬ centuryKnown then
    let y := year + currentYear / 100 * 100
    if currentYear + 50 ≤ y then y - 100
    else if y + 50 < currentYear then y + 100
    else y
  else year

def monthName? (currentYear : Nat) (r : Reading) (i month : Nat) : Step := do
  let date ← r.date.addMonth? month
  let next := ls[i + 1]?
  if next = some "-" ∨ next = some "/" then
    let date ← date.addText? (← ls[i + 2]?) false
    if ls[i + 3]?.isSome ∧ ls[i + 3]? = next then
      let date ← date.addText? (← ls[i + 4]?) false
      some ({ r with date := date }, i + 4)
    else some ({ r with date := date }, i + 2)
  else if i + 4 < ls.size ∧ next = some " " ∧ ls[i + 3]? = some " " ∧
      (ls[i + 2]?.map lowered) = some "of" then
    let last ← ls[i + 4]?
    if allDigits last then
      let year ← natural? last
      let date ← date.addText? (toString (fullYear currentYear year false)) true
      some ({ r with date := date }, i + 4)
    else some ({ r with date := date }, i + 4)
  else some ({ r with date := date }, i)

/-- A sign at a place with the digits of a zone after it, and perhaps the name of the zone in parentheses. -/
def zoneDigits? (r : Reading) (i : Nat) (sign : Int) : Step := do
  let ds ← ls[i + 1]?
  let (hours, minutes, i) ←
    if ds.length = 4 then
      some (← natural? (slice ds 0 2), ← natural? (slice ds 2 4), i)
    else if ls[i + 2]? = some ":" then
      some (← natural? ds, ← natural? (← ls[i + 3]?), i + 2)
    else if ds.length ≤ 2 then some (← natural? ds, 0, i)
    else none
  let r := { r with zoneSeconds := some (sign * (hours * 3600 + minutes * 60 : Nat)) }
  let name := (ls[i + 4]?).getD ""
  if (ls[i + 2]?.map isFiller) = some true ∧ ls[i + 3]? = some "(" ∧ ls[i + 5]? = some ")" ∧
      3 ≤ name.length ∧ couldBeZone r name then
    some ({ r with zoneName := some name }, i + 5)
  else some (r, i + 1)

end Lexemes

def zoneName (ls : Array String) (r : Reading) (i : Nat) (name : String) : Reading × Array String :=
  let known : Option Int := if name == "z" then some 0 else none
  let signed := ls[i + 1]? = some "+" ∨ ls[i + 1]? = some "-"
  if signed then
    -- The text says what to add to local time to get the time of the zone.
    let turned := if ls[i + 1]? = some "+" then "-" else "+"
    ({ r with zoneName := if isUniversal name then none else some name, zoneSeconds := none },
      ls.setIfInBounds (i + 1) turned)
  else ({ r with zoneName := some name, zoneSeconds := known }, ls)

/-- Reads the lexemes from a place on. Each step goes at least one lexeme further, so that `steps` need only be their
number. -/
def readFrom : (steps : Nat) → (currentYear : Nat) → Array String → Reading → Nat → Option Reading
  | 0, _, _, r, _ => some r
  | steps + 1, year, ls, r, i =>
    match ls[i]? with
    | none => some r
    | some s =>
      let goOn (step : Step) : Option Reading := step.bind fun (r, i) =>
        readFrom steps year ls r (i + 1)
      if (Numeral.float? s).isSome then
        goOn ((amount? s).bind (number? ls r i s))
      else match weekday? s with
      | some w => goOn (some ({ r with weekday := some w }, i))
      | none => match month? s with
        | some m => goOn (monthName? ls year r i m)
        | none => match half? s with
          | some half => goOn (r.hour.bind fun hour =>
              if hour ≤ 12 then some ({ r with hour := some (hourOfHalf hour half) }, i) else none)
          | none =>
            if couldBeZone r s && r.zoneSeconds.isNone then
              let (r, ls) := zoneName ls r i s
              readFrom steps year ls r (i + 1)
            else if r.hour.isSome ∧ (s = "+" ∨ s = "-") then
              goOn (zoneDigits? ls r i (if s = "+" then 1 else -1))
            else if isFiller s then goOn (some (r, i))
            else none

/-! ## The result -/

inductive Zone
  | unknown
  | localZone
  | ahead (seconds : Int)
deriving Repr, DecidableEq

def Reading.isEmpty (r : Reading) : Bool :=
  r.date.values.isEmpty && r.weekday.isNone && r.hour.isNone && r.minute.isNone &&
    r.second.isNone && r.microsecond.isNone && r.zoneName.isNone && r.zoneSeconds.isNone

def zoneOf (clock : Clock) (name : Option String) (seconds : Option Int) : Zone :=
  let name := if name = some "" then none else name
  let (name, seconds) : Option String × Option Int :=
    if (seconds = some 0 ∧ name.isNone) ∨ name = some "Z" ∨ name = some "z" then (some "UTC", some 0)
    else if seconds ≠ some 0 ∧ (name.map isUniversal) = some true then (name, some 0)
    else (name, seconds)
  if name = some clock.zoneName then .localZone
  else match seconds with
    | some s => .ahead s
    | none => .unknown

/-- The date, with the day that the clock shows where the text says nothing. -/
def dateOf? (clock : Clock) (r : Reading) : Option Date := do
  let (year, month, day) ← r.date.resolve?
  let today := clock.now.date
  let y := match year with
    | some y => fullYear today.year y r.date.centuryKnown
    | none => today.year
  let m := month.getD today.month
  if day.isNone ∧ daysInMonth y m = 0 then none
  -- A day that the month does not have becomes its last one, but not if the text names it.
  let d := day.getD (min today.day (daysInMonth y m))
  let date : Date := ⟨y, m, d⟩
  if ¬ date.isValid then none
  match r.weekday, day with
  | some w, none => date.add? ((7 - (date.weekday : Int) + w) % 7)
  | _, _ => some date

def parse? (clock : Clock) (s : String) : Option (WallTime × Zone) := do
  let cs := s.toList.filter (· ≠ '\x00')
  let ls := ((Lexeme.ofText cs).map String.ofList).toArray
  let r ← readFrom ls.size clock.now.date.year ls {} 0
  let _ ← r.date.resolve?
  if r.isEmpty then none
  let date ← dateOf? clock r
  let wall : WallTime :=
    ⟨date, r.hour.getD 0, r.minute.getD 0, r.second.getD 0, r.microsecond.getD 0⟩
  if wall.isValid then some (wall, zoneOf clock r.zoneName r.zoneSeconds) else none

end LogAnalysis.Calendar.FreeForm
