import LogAnalysis.Csv.Reader
import LogAnalysis.Entry
import LogAnalysis.Json.Writer
import LogAnalysis.Timestamp

/-!
Entries from tables and from JSON data.

Columns and members with well-known names become the parts of an entry, all others become fields. An entry without a number
of its own gets the next one.
-/

namespace LogAnalysis

inductive DocumentFormat
  | log
  | csv
  | json
deriving Repr, DecidableEq, Inhabited

def DocumentFormat.name : DocumentFormat → String
  | log => "log"
  | csv => "csv"
  | json => "json"

def fileExtension (path : String) : String :=
  let name := (path.toList.reverse.takeWhile (· ≠ '/')).reverse
  let ending := (name.reverse.takeWhile (· ≠ '.')).reverse
  let stem := name.take (name.length - (ending.length + 1))
  -- Points at the start of a name begin no extension.
  if ending.length = name.length || stem.all (· = '.') then "" else String.ofList ('.' :: ending)

def DocumentFormat.ofPath (path : String) : DocumentFormat :=
  match Text.lowered (fileExtension path) with
  | ".csv" => csv
  | ".json" => json
  | _ => log

namespace Import

def timestampNames : List String := ["ts", "timestamp", "time", "date"]

def levelNames : List String := ["level", "severity", "loglevel"]

def messageNames : List String := ["message", "msg", "text", "description"]

def standardNames : List String := ["id", "raw", "fields"] ++ timestampNames ++ levelNames ++ messageNames

/-- One item of a field: the text of the value, which for lists and objects is JSON with sorted members. -/
def itemText : Value → String
  | .list items => Json.write Json.spaced (Json.sorted (.list items))
  | .object members => Json.write Json.spaced (Json.sorted (.object members))
  | v => v.display

def fieldOf : Value → Value
  | .list items => .list (items.map fun item => .text (itemText item))
  | v => .list [.text (itemText v)]

def timestampText (clock : Calendar.Clock) (v : Value) : String :=
  let normalized := Timestamp.normalize clock v.display
  if normalized = "" then v.display else normalized

def entryId? (v : Value) : Option Int := (Numeral.integer v.display).toOption

/-! ## Tables -/

def cellField (cell : String) : Outcome Value :=
  if Text.startsWith cell "[" && Text.endsWith cell "]" then
    match Json.parse cell with
    | .ok (.list items) => .ok (fieldOf (.list items))
    | .ok _ => .ok (.list [.text cell])
    | .error fault =>
      match fault.problem with
      | .tooLong _ => Fault.refuse (.json fault)
      | _ => .ok (.list [.text cell])
  else .ok (.list [.text cell])

structure Columns where
  headers : List String
  id : Option Nat
  timestamp : Option Nat
  level : Option Nat
  message : Option Nat
  raw : Option Nat
deriving Repr

def Columns.ofHeaders (header : List String) : Columns :=
  let headers := header.map fun h => Text.lowered (Text.trimmed h)
  let first := fun (names : List String) => headers.findIdx? names.contains
  { headers, id := first ["id"], timestamp := first timestampNames, level := first levelNames
    message := first messageNames, raw := first ["raw"] }

def Columns.isStandard (c : Columns) (i : Nat) : Bool :=
  [c.id, c.timestamp, c.level, c.message, c.raw].contains (some i)

def cellAt (cells : List String) (column : Option Nat) : String :=
  (column.bind (cells[·]?)).getD ""

def rowFields (columns : Columns) (cells : List String) : Outcome (Members Value) :=
  columns.headers.zipIdx.foldlM (fun fields (header, i) => do
    let cell := cellAt cells (some i)
    if columns.isStandard i || cell = "" || !Entry.isFieldName header then return fields
    return Members.put fields header (← cellField cell)) []

def rowEntry (clock : Calendar.Clock) (columns : Columns) (next : Nat) (cells : List String) :
    Outcome (Entry × Nat) := do
  let cell := cellAt cells
  let given := cell columns.id
  let (id, next) : Int × Nat :=
    if given = "" then (next, next + 1) else ((entryId? (.text given)).getD next, next)
  let fields ← rowFields columns cells
  let stamp := cell columns.timestamp
  let timestamp := if stamp = "" then "" else timestampText clock (.text stamp)
  let given := cell columns.raw
  let raw := if given = "" then Text.joined " | " cells else given
  return (Entry.make id timestamp (canonicalLevel (cell columns.level)) (cell columns.message) raw fields, next)

def isBlankRow : List String → Bool
  | [] => true
  | [cell] => cell = ""
  | _ => false

def rowEntries (clock : Calendar.Clock) (columns : Columns) (fault : Option Fault) :
    (next : Nat) → List (List String) → Outcome (List Entry)
  | _, [] => fault.elim (.ok []) .error
  | next, row :: rest => do
    let cells := row.map Text.trimmed
    if isBlankRow cells then rowEntries clock columns fault next rest
    else
      let (e, next) ← rowEntry clock columns next cells
      return e :: (← rowEntries clock columns fault next rest)

def ofCsv (clock : Calendar.Clock) (text : String) : Outcome (List Entry) :=
  let (records, fault) := Csv.records text
  match records.dropWhile (·.all Text.isBlankString) with
  | [] => fault.elim (.ok []) .error
  | header :: rows => rowEntries clock (.ofHeaders header) fault 1 rows

/-! ## JSON data -/

def firstPresent (members : Members Value) (names : List String) : Option Value :=
  names.findSome? fun name =>
    match Members.get? members name with
    | none | some .null | some (.text "") => none
    | found => found

def addFields (excluded : List String) (members fields : Members Value) : Members Value :=
  members.foldl (fun fields (name, v) =>
    match v with
    | .null => fields
    | v =>
      if excluded.contains name || !Entry.isFieldName name then fields
      else Members.put fields name (fieldOf v)) fields

def objectEntry (clock : Calendar.Clock) (next : Nat) (members : Members Value) : Entry × Nat :=
  let member := fun name => Value.ofOption (Members.get? members name)
  let (id, next) : Int × Nat :=
    match member "id" with
    | .null => (next, next + 1)
    | v => ((entryId? v).getD next, next)
  let fields := addFields standardNames members []
  let fields :=
    match member "fields" with
    | .object nested => addFields [] nested fields
    | _ => fields
  let raw := member "raw"
  let e := Entry.make id
    ((firstPresent members timestampNames).elim "" (timestampText clock))
    ((firstPresent members levelNames).elim "" canonicalLevelOf)
    ((firstPresent members messageNames).elim "" Value.display)
    (if raw.isTruthy then raw.display else Json.write Json.compact (.object members))
    fields
  (e, next)

def valueEntries (clock : Calendar.Clock) : (next : Nat) → List Value → List Entry
  | _, [] => []
  | next, .object members :: rest =>
    let (e, next) := objectEntry clock next members
    e :: valueEntries clock next rest
  | next, _ :: rest => valueEntries clock next rest

def ofJson (clock : Calendar.Clock) (text : String) : Outcome (List Entry) :=
  match Json.parse text with
  | .error fault => Fault.refuse (.json fault)
  | .ok (.list items) => .ok (valueEntries clock 1 items)
  | .ok v => .ok (valueEntries clock 1 [v])

end Import

end LogAnalysis
