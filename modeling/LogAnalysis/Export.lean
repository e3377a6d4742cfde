import LogAnalysis.Csv.Writer
import LogAnalysis.Entry
import LogAnalysis.Json.Writer

/-!
Entries as text: one by one for the eye or as a line of JSON, or all together as JSON or as a table.
-/

namespace LogAnalysis

namespace Entry

def colour (level : String) : String :=
  match level with
  | "DEBUG" => "\x1b[36m"
  | "INFO" => "\x1b[32m"
  | "WARNING" => "\x1b[33m"
  | "ERROR" => "\x1b[31m"
  | "CRITICAL" | "FATAL" => "\x1b[35m"
  | _ => ""

def orDash (s : String) : String := if s = "" then "-" else s

def coloured (e : Entry) : String :=
  let paint := colour e.level
  let level := if paint = "" then orDash e.level else paint ++ e.level ++ "\x1b[0m"
  s!"[{orDash e.timestamp}] [{level}] {e.message}"

def json (e : Entry) : String := Json.write Json.spaced e.toValue

end Entry

namespace Export

inductive LineFormat
  | raw
  | json
  | coloured
deriving Repr, DecidableEq

def LineFormat.ofName (name : String) (colours : Bool) : LineFormat :=
  if name = "json" then json else if colours then coloured else raw

def LineFormat.write : LineFormat → Entry → String
  | raw, e => e.raw
  | json, e => e.json
  | coloured, e => e.coloured

def json (entries : List Entry) : String := Json.write Json.indented (.list (entries.map Entry.toValue))

def cellOf : Value → String
  | .null => ""
  | .list [item] => item.display
  | .list items => Json.write Json.spaced (.list items)
  | v => v.display

/-- The entries as a table, whose columns are the parts and then the given fields in ascending order. -/
def csv (entries : List Entry) (fieldNames : List String) : String :=
  let names := fieldNames.mergeSort (· ≤ ·)
  let row := fun (e : Entry) =>
    [toString e.id, e.timestamp, e.level, e.message] ++
      names.map fun name => cellOf (Value.ofOption (Members.get? e.fields name))
  Csv.write ((["id", "ts", "level", "message"] ++ names) :: entries.map row)

end Export

end LogAnalysis
