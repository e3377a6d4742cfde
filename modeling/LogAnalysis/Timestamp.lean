import LogAnalysis.Calendar.FreeForm
import LogAnalysis.Calendar.Iso
import LogAnalysis.Fault

/-!
Timestamps in log lines and in values.

A timestamp in a line is a date and a time in numbers (`stamp?`), anywhere in the line, or the name of a month with
day and time at its start (`monthStamp?`). Both are read on the local clock. `read?` also takes values with a zone and dates
in free form, and `normalize` gives the text of the instant in universal time.
-/

namespace LogAnalysis.Timestamp

open Text Calendar

/-! ## Parts -/

def digits? : (n : Nat) → List Char → Option (Nat × List Char)
  | 0, cs => some (0, cs)
  | _ + 1, [] => none
  | n + 1, c :: cs => do
    let d ← decimalValue? c
    let (rest, cs) ← digits? n cs
    some (d * Nat.pow 10 n + rest, cs)

def oneOrTwo? (cs : List Char) : Option (Nat × List Char) :=
  (digits? 2 cs).or (digits? 1 cs)

def after? (c : Char) : List Char → Option (List Char)
  | d :: cs => if d = c then some cs else none
  | [] => none

def afterBlank? : List Char → Option (List Char)
  | c :: cs => if isBlank c then some (cs.dropWhile isBlank) else none
  | [] => none

def fraction : List Char → Nat × List Char
  | c :: cs =>
    let ds := cs.takeWhile isDecimal
    -- Without digits there is no fraction.
    if (c = '.' || c = ',') && !ds.isEmpty then
      let three := (ds.map fun d => (decimalValue? d).getD 0).take 3
      (three.foldl (fun n d => 10 * n + d) 0 * Nat.pow 10 (3 - three.length), cs.dropWhile isDecimal)
    else (0, c :: cs)
  | [] => (0, [])

def clockTime? (hours : List Char → Option (Nat × List Char)) (cs : List Char) :
    Option ((Nat × Nat × Nat) × List Char) := do
  let (hour, cs) ← hours cs
  let (minute, cs) ← digits? 2 (← after? ':' cs)
  let (second, cs) ← digits? 2 (← after? ':' cs)
  some ((hour, minute, second), cs)

/-! ## Stamps -/

structure Stamp where
  date : Date
  time : Nat × Nat × Nat
  thousandths : Nat
deriving Repr

def Stamp.instant? (clock : Clock) (s : Stamp) : Option Instant :=
  let wall : WallTime := ⟨s.date, s.time.1, s.time.2.1, s.time.2.2, s.thousandths * 1000⟩
  if wall.isValid then clock.instant? wall else none

def stampHead? (cs : List Char) : Option ((Date × Nat × Nat × Nat) × List Char) := do
  let (year, cs) ← digits? 4 cs
  let (month, cs) ← digits? 2 (← after? '-' cs)
  let (day, cs) ← digits? 2 (← after? '-' cs)
  let cs ← (after? ' ' cs).or (after? 'T' cs)
  let (time, cs) ← clockTime? (digits? 2) cs
  some ((⟨year, month, day⟩, time), cs)

def stampAt? (cs : List Char) : Option (Stamp × List Char) :=
  (stampHead? cs).map fun ((date, time), cs) =>
    let (thousandths, cs) := fraction cs
    (⟨date, time, thousandths⟩, cs)

def stamp? : List Char → Option Stamp
  | [] => none
  | c :: cs =>
    match stampAt? (c :: cs) with
    | some (s, _) => some s
    | none => stamp? cs

def monthNames : List String :=
  ["Jan", "Feb", "Mar", "Apr", "May", "Jun", "Jul", "Aug", "Sep", "Oct", "Nov", "Dec"]

def monthHead? (cs : List Char) : Option ((String × Nat × Nat × Nat × Nat) × List Char) := do
  match cs with
  | a :: b :: c :: rest =>
    if !(a.isAlpha && b.isAlpha && c.isAlpha) then none
    let (day, rest) ← oneOrTwo? (← afterBlank? rest)
    let (time, rest) ← clockTime? oneOrTwo? (← afterBlank? rest)
    some ((String.ofList [a, b, c], day, time), rest)
  | _ => none

/-- The instant of a stamp with the name of a month: `none` without a stamp, and `some none` for one that no clock
shows. -/
def monthStamp? (clock : Clock) (cs : List Char) : Option (Option Instant) :=
  (monthHead? cs).map fun ((name, day, time), rest) =>
    (monthNames.findIdx? (· = name)).bind fun i =>
      let month := i + 1
      let today := clock.now.date
      -- A month that is still to come is one of last year.
      let year := if today.month < month then today.year - 1 else today.year
      Stamp.instant? clock ⟨⟨year, month, day⟩, time, (fraction rest).1⟩

def detect? (clock : Clock) (line : List Char) : Option Instant :=
  match stamp? line with
  | some s => s.instant? clock
  | none => (monthStamp? clock line).join

/-! ## Values -/

def endsWithZone (cs : List Char) : Bool :=
  match cs.reverse with
  | c :: rest =>
    if c = 'z' || c = 'Z' then true
    else match c :: rest with
      | a :: b :: ':' :: d :: e :: sign :: _ =>
        [a, b, d, e].all isDecimal && (sign = '+' || sign = '-')
      | a :: b :: d :: e :: sign :: _ =>
        [a, b, d, e].all isDecimal && (sign = '+' || sign = '-')
      | _ => false
  | [] => false

def readIso? (clock : Clock) (s : String) : Option Instant := do
  let (wall, zone) ← Iso.parse? s
  match zone with
  | some ahead => wall.inZone? ahead
  | none => clock.instant? wall

def readFreeForm? (clock : Clock) (s : String) : Option Instant := do
  let (wall, zone) ← FreeForm.parse? clock s
  match zone with
  | .unknown => clock.instant? wall
  | .localZone => wall.inZone? clock.aheadSeconds
  | .ahead seconds => wall.inZone? seconds

def read? (clock : Clock) (s : String) : Option Instant :=
  let cs := trim s.toList
  let s := String.ofList cs
  if cs.isEmpty then none
  else if endsWithZone cs then (readIso? clock s).or (readFreeForm? clock s)
  else match stamp? cs with
    | some stamp => stamp.instant? clock
    | none =>
      match monthStamp? clock cs with
      | some found => found
      | none => readFreeForm? clock s

def textOf (i : Option Instant) : String := (i.map Instant.text).getD ""

def normalize (clock : Clock) (s : String) : String := textOf (read? clock s)

def parse (clock : Clock) (s : String) : Outcome (Option Instant) :=
  match read? clock s with
  | none => .ok none
  | some i => if i.date.year < 1000 then Fault.refuse (.shortYear i.text) else .ok (some i)

end LogAnalysis.Timestamp
