import LogAnalysis.Calendar.Clock
import LogAnalysis.Text.Base64
import LogAnalysis.Value.Number
import LogAnalysis.Yaml.Node

/-!
Values of YAML documents.

Besides those of `Value` there are days and times, bytes, sets, mappings whose keys are not texts, and places that
lead back to a list or a mapping around them. Numbers and truth values
are the same key if they are equal as numbers.
-/

namespace LogAnalysis.Yaml

inductive Data
  | null
  | bool (b : Bool)
  | int (n : Int)
  | float (x : Float)
  | text (s : String)
  | date (d : Calendar.Date)
  | time (t : Calendar.WallTime) (ahead : Option Int)
  | bytes (bs : List UInt8)
  | list (items : List Data)
  | pairs (items : List (Data × Data))
  | map (entries : List (Data × Data))
  | set (items : List Data)
  | again (isMapping : Bool)
deriving Inhabited

namespace Data

/-! ## The text of values -/

def zoneNotation (ahead : Int) : String :=
  if ahead = 0 then "datetime.timezone.utc"
  else
    let days := ahead / 86400
    let seconds := ahead % 86400
    let parts := (if days ≠ 0 then [s!"days={days}"] else []) ++
      (if seconds ≠ 0 then [s!"seconds={seconds}"] else [])
    "datetime.timezone(datetime.timedelta(" ++ Text.joined ", " parts ++ "))"

def timeNotation (t : Calendar.WallTime) (ahead : Option Int) : String :=
  let small :=
    if t.microsecond ≠ 0 then [t.second, t.microsecond] else if t.second ≠ 0 then [t.second] else []
  let numbers := [t.date.year, t.date.month, t.date.day, t.hour, t.minute] ++ small
  let zone := ahead.toList.map fun ahead => "tzinfo=" ++ zoneNotation ahead
  "datetime.datetime(" ++ Text.joined ", " (numbers.map toString ++ zone) ++ ")"

def dateText (d : Calendar.Date) : String :=
  s!"{Calendar.padded 4 d.year}-{Calendar.padded 2 d.month}-{Calendar.padded 2 d.day}"

def zoneText (ahead : Int) : String :=
  let minutes := ahead.natAbs / 60
  let sign := if ahead < 0 then "-" else "+"
  s!"{sign}{Calendar.padded 2 (minutes / 60)}:{Calendar.padded 2 (minutes % 60)}"

def timeText (t : Calendar.WallTime) (ahead : Option Int) : String :=
  let places := if t.microsecond ≠ 0 then "." ++ Calendar.padded 6 t.microsecond else ""
  let clock := s!"{Calendar.padded 2 t.hour}:{Calendar.padded 2 t.minute}:{Calendar.padded 2 t.second}"
  dateText t.date ++ " " ++ clock ++ places ++ (ahead.map zoneText).getD ""

def bytesText (bs : List UInt8) : String :=
  let cs := bs.map fun b => Char.ofNat b.toNat
  let mark := Text.Quoted.mark cs
  let escape := fun (c : Char) =>
    if c.toNat < 0x7f then Text.Quoted.escape mark c else '\\' :: 'x' :: Text.hexDigits 2 c.toNat
  String.ofList ('b' :: mark :: (cs.flatMap escape ++ [mark]))

mutual

def shown : Data → String
  | null => Value.shown .null
  | bool b => Value.boolText b
  | int n => toString n
  | float x => Decimal.shortestText x
  | text s => Text.quoted s
  | date d => s!"datetime.date({d.year}, {d.month}, {d.day})"
  | time t ahead => timeNotation t ahead
  | bytes bs => bytesText bs
  | list items => "[" ++ Text.joined ", " (shownItems items) ++ "]"
  | pairs items => "[" ++ Text.joined ", " (shownPairs "(" ", " ")" items) ++ "]"
  | map entries => "\x7b" ++ Text.joined ", " (shownPairs "" ": " "" entries) ++ "\x7d"
  | set [] => "set()"
  | set items => "\x7b" ++ Text.joined ", " (shownItems items) ++ "\x7d"
  | again isMapping => if isMapping then "\x7b...\x7d" else "[...]"

def shownItems : List Data → List String
  | [] => []
  | d :: rest => shown d :: shownItems rest

def shownPairs (before between after : String) : List (Data × Data) → List String
  | [] => []
  | (k, v) :: rest =>
    (before ++ shown k ++ between ++ shown v ++ after) :: shownPairs before between after rest

end

def display : Data → String
  | text s => s
  | date d => dateText d
  | time t ahead => timeText t ahead
  | d => shown d

/-! ## Values of files and of arguments -/

mutual

def ofValue : Value → Data
  | .null => null
  | .bool b => bool b
  | .int n => int n
  | .float x => float x
  | .text s => text s
  | .list items => list (ofItems items)
  | .object members => map (ofMembers members)

def ofItems : List Value → List Data
  | [] => []
  | v :: rest => ofValue v :: ofItems rest

def ofMembers : List (String × Value) → List (Data × Data)
  | [] => []
  | (k, v) :: rest => (text k, ofValue v) :: ofMembers rest

end

mutual

def toValue : Data → Value
  | null => .null
  | bool b => .bool b
  | int n => .int n
  | float x => .float x
  | text s => .text s
  | date d => .text (dateText d)
  | time t ahead => .text (timeText t ahead)
  | bytes bs => .text (bytesText bs)
  | list items => .list (toItems items)
  | pairs items => .list (toPairs items)
  | map entries => .object (toMembers entries)
  | set items => .list (toItems items)
  | again isMapping => if isMapping then .object [("", .null)] else .list [.null]

def toItems : List Data → List Value
  | [] => []
  | d :: rest => toValue d :: toItems rest

def toPairs : List (Data × Data) → List Value
  | [] => []
  | (k, v) :: rest => .list [toValue k, toValue v] :: toPairs rest

def toMembers : List (Data × Data) → List (String × Value)
  | [] => []
  | (k, v) :: rest => (k.display, toValue v) :: toMembers rest

end

def toInteger : Data → Outcome Int
  | date _ | time .. | bytes _ => .error .wrongKind
  | d => d.toValue.toInteger

def parts : Data → Outcome (List Value)
  | date _ | time .. => .error .wrongKind
  | d => d.toValue.parts

def isTruthy : Data → Bool
  | date _ | time .. => true
  | bytes bs => !bs.isEmpty
  | d => d.toValue.isTruthy

def get? : Data → String → Option Data
  | map entries, name => (entries.find? fun | (text k, _) => k = name | _ => false).map (·.2)
  | _, _ => none

/-! ## Keys -/

def number? : Data → Option (Int ⊕ Float)
  | bool b => some (.inl (if b then 1 else 0))
  | int n => some (.inl n)
  | float x => some (.inr x)
  | _ => none

def sameNumber : Int ⊕ Float → Int ⊕ Float → Bool
  | .inl m, .inl n => m = n
  | .inr x, .inr y => x == y || (x.isNaN && y.isNaN)
  | .inl n, .inr x | .inr x, .inl n =>
    match Value.toInteger (.float x) with
    -- The double has to hold the whole number exactly.
    | .ok m => m = n && Numeral.ofInteger? m == some x
    | .error _ => false

def sameKey : Data → Data → Bool
  | null, null => true
  | text s, text t => s = t
  | date c, date d => c = d
  | time s a, time t b => a.isSome = b.isSome && s.seconds - a.getD 0 = t.seconds - b.getD 0 &&
    s.microsecond = t.microsecond
  | bytes bs, bytes cs => bs = cs
  | c, d =>
    match c.number?, d.number? with
    | some x, some y => sameNumber x y
    | _, _ => false

def isKey : Data → Bool
  | list _ | pairs _ | map _ | set _ | again _ => false
  | _ => true

def put (entries : List (Data × Data)) (key value : Data) : List (Data × Data) :=
  match entries with
  | [] => [(key, value)]
  | (k, v) :: rest => if sameKey k key then (k, value) :: rest else (k, v) :: put rest key value

end Data

/-! ## Scalars -/

namespace Scalar

def refuse {α : Type} (reason : String) : Reading α :=
  .error (.refused (.unacceptable (.scalar reason)))

def ofOutcome {α : Type} (r : Outcome α) : Reading α := r.mapError .refused

def withoutLowLines (s : String) : List Char := s.toList.filter (· ≠ '_')

def signed (cs : List Char) : Reading (Bool × List Char) :=
  match cs with
  | [] => .error (.refused .emptyScalar)
  | '-' :: rest => .ok (true, rest)
  | '+' :: rest => .ok (false, rest)
  | cs => .ok (false, cs)

def digit? (base : Nat) (c : Char) : Option Nat :=
  ((hexValue? c).or (Text.decimalValue? c)).filter (· < base)

def baseLetters : List (Nat × Char) := [(2, 'b'), (8, 'o'), (16, 'x')]

def dropBaseMark (base : Nat) : List Char → List Char
  | '0' :: c :: rest => if baseLetters.lookup base = some c.toLower then rest else '0' :: c :: rest
  | cs => cs

def radix (base : Nat) (cs : List Char) : Reading Int :=
  let (negative, body) := Numeral.takeSign (Numeral.unpadded cs)
  match dropBaseMark base body with
  | [] => failed
  | body =>
    match body.foldlM (fun n c => (digit? base c).map (base * n + ·)) 0 with
    | some n => .ok (if negative then -(n : Int) else n)
    | none => failed
where
  failed : Reading Int :=
    refuse s!"invalid literal for int() with base {base}: {Text.quoted (String.ofList cs)}"

def integer (s : String) : Reading Int := do
  let decimal := fun (s : String) => ofOutcome (Value.toInteger (.text s))
  let (negative, cs) ← signed (withoutLowLines s)
  let n ← match cs with
    | [] => .error (.refused .emptyScalar)
    | ['0'] => pure 0
    | '0' :: 'b' :: rest => radix 2 rest
    | '0' :: 'x' :: rest => radix 16 rest
    | '0' :: _ => radix 8 cs
    | _ =>
      if cs.contains ':' then
        let parts ← (Text.splitOn ':' cs).mapM fun part => decimal (String.ofList part)
        pure (parts.foldl (fun n part => 60 * n + part) 0)
      else decimal (String.ofList cs)
  return if negative then -n else n

def double (s : String) : Reading Float := do
  let decimal := fun (s : String) =>
    match Numeral.float? s with
    | some x => pure x
    | none => refuse s!"could not convert string to float: {Text.quoted s}"
  let (negative, cs) ← signed ((withoutLowLines s).flatMap Text.lowerChar)
  let x ← match String.ofList cs with
    | ".inf" => pure (1 / 0)
    | ".nan" => pure (0 / 0)
    | unsigned =>
      if cs.contains ':' then
        let parts ← (Text.splitOn ':' cs).mapM fun part => decimal (String.ofList part)
        let (sum, _) := parts.reverse.foldl (fun (sum, base) part => (sum + part * base, base * 60)) (0, 1)
        pure sum
      else decimal unsigned
  return if negative then -x else x

def timePattern : String :=
  "\\A(?<year>[0-9][0-9][0-9][0-9])-(?<month>[0-9][0-9]?)-(?<day>[0-9][0-9]?)" ++
    "(?:(?:[Tt]|[ \\t]+)(?<hour>[0-9][0-9]?):(?<minute>[0-9][0-9]):(?<second>[0-9][0-9])" ++
    "(?:\\.(?<fraction>[0-9]*))?" ++
    "(?:[ \\t]*(?<zone>Z|(?<sign>[-+])(?<hours>[0-9][0-9]?)(?::(?<minutes>[0-9][0-9]))?))?)?$"

def timeParts? (s : String) : Option (Members (List String)) := do
  let pattern ← (Pattern.compile timePattern {}).toOption
  let parts := Pattern.captures pattern s
  if parts.isEmpty then none else some parts

def checkedDate (d : Calendar.Date) : Reading Calendar.Date :=
  if d.year = 0 then refuse "year 0 is out of range"
  else if d.month = 0 || 12 < d.month then refuse "month must be in 1..12"
  else if !d.isValid then refuse "day is out of range for month"
  else .ok d

def checkedZone (ahead : Int) : Reading Int :=
  if ahead.natAbs < 86400 then .ok ahead
  else
    let days := ahead / 86400
    let seconds := ahead % 86400
    let shown := s!"days={days}" ++ (if seconds ≠ 0 then s!", seconds={seconds}" else "")
    refuse <| "offset must be a timedelta strictly between -timedelta(hours=24) and timedelta(hours=24), " ++
      s!"not datetime.timedelta({shown})."

def time (s : String) : Reading Data := do
  match timeParts? s with
  | none => .error (.refused .noSuchPart)
  | some parts =>
    let part? := fun name => (Members.get? parts name).map fun texts => (texts.headD "").toList
    let number := fun name => Numeral.digitsValue ((part? name).getD [])
    let date : Calendar.Date := ⟨number "year", number "month", number "day"⟩
    if (part? "hour").isNone then return .date (← checkedDate date)
    let microsecond := Numeral.digitsValue ((((part? "fraction").getD []) ++ "000000".toList).take 6)
    let ahead ← match part? "sign", part? "zone" with
      | some sign, _ =>
        let distance : Int := number "hours" * 3600 + number "minutes" * 60
        some <$> checkedZone (if sign = ['-'] then -distance else distance)
      | none, some _ => pure (some 0)
      | none, none => pure none
    let date ← checkedDate date
    let t : Calendar.WallTime := ⟨date, number "hour", number "minute", number "second", microsecond⟩
    if 24 ≤ t.hour then refuse "hour must be in 0..23"
    else if 60 ≤ t.minute then refuse "minute must be in 0..59"
    else if 60 ≤ t.second then refuse "second must be in 0..59"
    else return .time t ahead

def truth (s : String) : Reading Bool :=
  match Text.lowered s with
  | "yes" | "true" | "on" => .ok true
  | "no" | "false" | "off" => .ok false
  | word => .error (.refused (.missingKey (Text.quoted word)))

def binary (s : String) : Reading (List UInt8) :=
  match if s.toList.all (·.toNat < 128) then Text.Base64.decode? s.toList else none with
  | some bs => .ok bs
  | none => .error .malformed

end Scalar

/-! ## The values of nodes -/

namespace Node

def isUsual (n : Node) : Bool := n.tag = .value

/-- The pairs of a mapping with those of the mappings that it includes in front. -/
def included (fuel : Nat) (pairs : List (Node × Node)) : Reading (List (Node × Node)) :=
  match fuel with
  | 0 => .error .malformed
  | fuel + 1 => do
    let own := (pairs.filter (·.1.tag ≠ .merge)).map fun (key, value) =>
      match key with
      -- The sign for the usual value is a text here.
      | scalar .value text => (scalar .text text, value)
      | key => (key, value)
    let merged ← (pairs.filter (·.1.tag = .merge)).mapM fun (_, value) =>
      match value with
      | mapping _ pairs => included fuel pairs
      | sequence _ items => do
        let parts ← items.mapM fun
          | mapping _ pairs => included fuel pairs
          | _ => .error .malformed
        return parts.reverse.flatten
      | again _ => .ok []
      | scalar .. => .error .malformed
    return merged.flatten ++ own

def scalarText : (fuel : Nat) → Node → Reading String
  | _, scalar _ text => .ok text
  | fuel + 1, mapping _ pairs =>
    match pairs.find? (·.1.isUsual) with
    | some (_, value) => scalarText fuel value
    | none => .error .malformed
  | _, _ => .error .malformed

def data : (fuel : Nat) → Node → Reading Data
  | 0, _ => .error .malformed
  | _, again isMapping => .ok (.again isMapping)
  | fuel + 1, n => do
    let text := fun () => scalarText fuel n
    let entries := fun () => match n with
      | mapping _ pairs => do
        let pairs ← included fuel pairs
        pairs.foldlM (fun entries (k, v) => do
          let key ← data fuel k
          if !key.isKey then throw .malformed
          let value ← data fuel v
          return Data.put entries key value) []
      | _ => throw .malformed
    let listed := fun () => match n with
      | sequence _ items => items.mapM fun
        | mapping _ [(k, v)] => do return (← data fuel k, ← data fuel v)
        | _ => throw .malformed
      | _ => throw .malformed
    match n.tag with
    | .null =>
      let _ ← text ()
      return .null
    | .bool => return .bool (← Scalar.truth (← text ()))
    | .int => return .int (← Scalar.integer (← text ()))
    | .float => return .float (← Scalar.double (← text ()))
    | .timestamp => Scalar.time (← text ())
    | .text => return .text (← text ())
    | .binary => return .bytes (← Scalar.binary (← text ()))
    | .sequence =>
      match n with
      | sequence _ items => return .list (← items.mapM (data fuel))
      | _ => throw .malformed
    | .mapping => return .map (← entries ())
    | .set => return .set ((← entries ()).map (·.1))
    | .orderedMap | .pairs => return .pairs (← listed ())
    | .merge | .value | .other _ => throw .malformed

/-! ## Faults -/

def isCollection (n : Node) : Bool :=
  match n.tag with
  | .sequence | .mapping | .set | .orderedMap | .pairs => true
  | _ => false

def check (fuel : Nat) (n : Node) : Reading Unit := do
  if !n.isCollection then
    let _ ← data fuel n

def checkedParts (fuel : Nat) (n : Node) : Reading (List Node) := do
  match n.tag, n with
  | .sequence, sequence _ items =>
    items.forM (check fuel)
    return items
  | .mapping, mapping _ pairs | .set, mapping _ pairs =>
    (← included fuel pairs).mapM fun (k, v) => do
      check fuel k
      -- A collection cannot be a key.
      if k.isCollection then throw .malformed
      check fuel v
      return v
  | .orderedMap, sequence _ items | .pairs, sequence _ items =>
    let parts ← items.mapM fun
      | mapping _ [(k, v)] => do
        check fuel k
        check fuel v
        return [k, v]
      | _ => throw .malformed
    return parts.flatten
  | _, again _ => return []
  | _, n => if n.isCollection then throw .malformed else return []

/-- Finds the first fault of some nodes and of all nodes inside them, level by level: what is wrong further outside
counts first. -/
def checkLevels : (fuel : Nat) → List Node → Reading Unit
  | 0, _ => .ok ()
  | fuel + 1, nodes => do
    let inside ← nodes.mapM (checkedParts fuel)
    if inside.flatten.isEmpty then return else checkLevels fuel inside.flatten

mutual

def size : Node → Nat
  | scalar .. | again _ => 1
  | sequence _ items => 1 + sizeItems items
  | mapping _ pairs => 1 + sizePairs pairs

def sizeItems : List Node → Nat
  | [] => 0
  | n :: rest => size n + sizeItems rest

def sizePairs : List (Node × Node) → Nat
  | [] => 0
  | (k, v) :: rest => size k + size v + sizePairs rest

end

end Node

def Data.ofText (text : String) : Reading Data := do
  match ← Node.ofText text with
  | none => return .null
  | some n =>
    let fuel := n.size + 1
    n.check fuel
    Node.checkLevels fuel [n]
    n.data fuel

end LogAnalysis.Yaml
