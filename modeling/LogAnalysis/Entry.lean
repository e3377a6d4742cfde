import LogAnalysis.Line
import LogAnalysis.Value.Number

/-!
Log entries: one event with its timestamp, level, message and text, and the fields that were extracted from it.

`searchIndex` is what a quick search looks through. It belongs to the other parts as `indexText` says, and every operation
of this library that changes them puts it right.
-/

namespace LogAnalysis

def canonicalLevel (token : String) : String := Line.foldWarning (Text.uppered (Text.trimmed token))

def canonicalLevelOf : Value → String
  | .null => ""
  | v => canonicalLevel v.display

structure Entry where
  id : Int
  timestamp : String
  level : String
  message : String
  raw : String
  fields : Members Value
  searchIndex : String
deriving Inhabited, Repr

namespace Entry

def reservedNames : List String := ["id", "ts", "level", "message", "raw"]

def resolveName (name : String) : String := if name = "timestamp" then "ts" else name

def isFieldName (name : String) : Bool := !reservedNames.contains name && name != "timestamp"

def fieldTexts : Value → List String
  | .list items => items.map Value.display
  | v => [v.display]

def indexText (raw message : String) (fields : Members Value) : String :=
  Text.lowered (Text.joined " " (raw :: message :: fields.flatMap fun f => fieldTexts f.2))

def reindexed (e : Entry) : Entry :=
  { e with searchIndex := indexText e.raw e.message e.fields }

def make (id : Int) (timestamp level message raw : String) (fields : Members Value) : Entry :=
  { id, timestamp, level, message, raw, fields, searchIndex := indexText raw message fields }

def get (e : Entry) (name : String) : Value :=
  match resolveName name with
  | "id" => .int e.id
  | "ts" => .text e.timestamp
  | "level" => .text e.level
  | "message" => .text e.message
  | "raw" => .text e.raw
  | name => Value.ofOption (e.fields.get? name)

def addName (names : List String) (name : String) : List String :=
  if names.contains name then names else names ++ [name]

def fieldNames (entries : List Entry) : List String :=
  (entries.flatMap fun e => Members.names e.fields).foldl addName []

def toValue (e : Entry) : Value :=
  .object [("id", .int e.id), ("ts", .text e.timestamp), ("level", .text e.level),
    ("message", .text e.message), ("raw", .text e.raw), ("fields", .object e.fields)]

/-! ## Entries from data -/

structure Draft where
  id : Int
  timestamp : Value
  level : Value
  message : String
  raw : String
  fields : Members Value

def textMember (name : String) (data : Value) : Outcome Value := do
  return ((← data.lookup name).truthy?).getD (.text "")

def asText : Value → Outcome String
  | .text s => .ok s
  | _ => .error .wrongKind

def Draft.ofValue (data : Value) : Outcome Draft := do
  let id ← (← data.require "id").toInteger
  let timestamp ← textMember "ts" data
  let level ← textMember "level" data
  let message ← textMember "message" data
  let raw ← textMember "raw" data
  let given := ((← data.lookup "fields").truthy?).getD (.object [])
  let fields ← (← given.toMembers).mapM fun (name, v) => return (name, Value.list (← v.parts))
  return { id, timestamp, level, message := ← asText message, raw := ← asText raw, fields }

def Draft.searchIndex (d : Draft) : String := indexText d.raw d.message d.fields

def Draft.get (d : Draft) (name : String) : Value :=
  match resolveName name with
  | "ts" => d.timestamp
  | "level" => d.level
  | name => (make d.id "" "" d.message d.raw d.fields).get name

end Entry

end LogAnalysis
