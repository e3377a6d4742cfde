import LogAnalysis.Calendar.Clock
import LogAnalysis.Decimal.Reader

/-!
Reading the international notation of dates and times: calendar dates, week dates and ordinal dates, with or without
separators, then any one character, a time of day and a zone.
-/

namespace LogAnalysis.Calendar.Iso

def number? (cs : List Char) : Option Int := (Numeral.integer (String.ofList cs)).toOption

def date? (year month day : Int) : Option Date :=
  let d : Date := ⟨year.toNat, month.toNat, day.toNat⟩
  if 0 ≤ year ∧ 0 ≤ month ∧ 0 ≤ day ∧ d.isValid then some d else none

/-! ## Dates -/

def calendarDate? (cs : List Char) : Option ((Int × Int × Int) × List Char) := do
  if cs.length < 4 then none
  let year ← number? (cs.take 4)
  let rest := cs.drop 4
  if rest.isEmpty then some ((year, 1, 1), [])
  else
    let dashed := rest.head? = some '-'
    let rest := if dashed then rest.drop 1 else rest
    if rest.length < 2 then none
    let month ← number? (rest.take 2)
    let rest := rest.drop 2
    if rest.isEmpty then (if dashed then some ((year, month, 1), []) else none)
    else
      if dashed ∧ rest.head? ≠ some '-' then none
      let rest := if dashed then rest.drop 1 else rest
      if rest.length < 2 then none
      let day ← number? (rest.take 2)
      some ((year, month, day), rest.drop 2)

def weekDate? (year week day : Int) : Option Date := do
  if week < 1 ∨ 53 < week ∨ day < 1 ∨ 7 < day then none
  let fourth ← date? year 1 4
  fourth.add? ((week - 1) * 7 + (day - 1) - fourth.weekday)

def ordinalDate? (year day : Int) : Option Date := do
  let first ← date? year 1 1
  let length : Int := if isLeapYear year.toNat then 366 else 365
  if day < 1 ∨ length < day then none
  first.add? (day - 1)

def otherDate? (cs : List Char) : Option ((Int × Int × Int) × List Char) := do
  if cs.length < 4 then none
  let year ← number? (cs.take 4)
  let dashed := (cs.drop 4).head? = some '-'
  let undash (r : List Char) : List Char := if dashed then r.drop 1 else r
  let rest := undash (cs.drop 4)
  let parts (d : Date) : Int × Int × Int := (d.year, d.month, d.day)
  match rest with
  | 'W' :: rest =>
    let week ← number? (rest.take 2)
    let rest := rest.drop 2
    if rest.isEmpty then
      let d ← weekDate? year week 1
      some (parts d, [])
    else
      if (rest.head? = some '-') ≠ dashed then none
      let rest := undash rest
      let day ← number? (rest.take 1)
      let d ← weekDate? year week day
      some (parts d, rest.drop 1)
  | rest =>
    if rest.length < 3 then none
    let day ← number? (rest.take 3)
    let d ← ordinalDate? year day
    some (parts d, rest.drop 3)

/-! ## Times -/

def zone? (cs : List Char) : Option Int := do
  if cs = ['Z'] ∨ cs = ['z'] then some 0
  else
    if ¬ (cs.length = 3 ∨ cs.length = 5 ∨ cs.length = 6) then none
    let sign : Int ← match cs.head? with
      | some '-' => some (-1)
      | some '+' => some 1
      | _ => none
    let hours ← number? ((cs.drop 1).take 2)
    let minutes ←
      if cs.length = 3 then some 0
      else number? (if cs[3]? = some ':' then cs.drop 4 else cs.drop 3)
    if hours = 0 ∧ minutes = 0 then some 0
    else if 59 < minutes ∨ 23 < hours then none
    else some (sign * (hours * 60 + minutes) * 60)

structure Time where
  hour : Int := 0
  minute : Int := 0
  second : Int := 0
  microsecond : Nat := 0
  zone : Option Int := none

def Time.set (t : Time) (part : Nat) (n : Int) : Time :=
  match part with
  | 0 => { t with hour := n }
  | 1 => { t with minute := n }
  | _ => { t with second := n }

def microseconds (ds : List Char) : Nat :=
  let ds := ds.take 6
  Numeral.digitsValue ds * Nat.pow 10 (6 - ds.length)

/-- The parts of a time from the given one on: hour, minute, second and fraction. A zone may stand in front of
each, and ends the text. `steps` counts the parts that may still come. -/
def timeFrom : (steps : Nat) → (part : Nat) → (colons : Bool) → Time → List Char → Option Time
  | _, _, _, t, [] => some t
  | 0, _, _, _, _ :: _ => none
  | steps + 1, part, colons, t, c :: rest => do
    if c = '-' ∨ c = '+' ∨ c = 'Z' ∨ c = 'z' then
      let zone ← zone? (c :: rest)
      some { t with zone := some zone }
    else
      let colons := colons || (part == 1 && c == ':')
      if part = 2 ∧ colons ∧ c ≠ ':' then none
      let cs := if (part = 1 ∨ part = 2) ∧ colons then rest else c :: rest
      if part < 3 then
        let n ← number? (cs.take 2)
        timeFrom steps (part + 1) colons (t.set part n) (cs.drop 2)
      else
        let ds := rest.takeWhile Char.isDigit
        if part = 3 ∧ (c = '.' ∨ c = ',') ∧ ¬ ds.isEmpty then
          timeFrom steps (part + 1) colons { t with microsecond := microseconds ds }
            (rest.dropWhile Char.isDigit)
        else timeFrom steps (part + 1) colons t cs

def time? (cs : List Char) : Option Time := do
  if cs.length < 2 then none
  let t ← timeFrom 6 0 false {} cs
  -- Hour 24 is midnight at the end of the day.
  if t.hour = 24 ∧ ¬ (t.minute = 0 ∧ t.second = 0 ∧ t.microsecond = 0) then none
  some t

/-! ## Date and time -/

def parse? (s : String) : Option (WallTime × Option Int) := do
  let cs := s.toList
  if cs.any (128 ≤ ·.toNat) then none
  let ((year, month, day), rest) ← (calendarDate? cs).or (otherDate? cs)
  let t ← match rest with
    | [] => some {}
    | _ :: rest => time? rest
  let date ← date? year month day
  let endOfDay := t.hour = 24
  let hour := if endOfDay then 0 else t.hour
  if hour < 0 ∨ t.minute < 0 ∨ t.second < 0 then none
  let wall : WallTime := ⟨date, hour.toNat, t.minute.toNat, t.second.toNat, t.microsecond⟩
  if wall.isValid then
    let wall ← if endOfDay then wall.addDays? 1 else some wall
    some (wall, t.zone)
  else none

end LogAnalysis.Calendar.Iso
