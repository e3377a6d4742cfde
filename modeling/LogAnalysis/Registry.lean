import LogAnalysis.Entry
import LogAnalysis.Operator

/-!
What is known about the fields of a data set.

A registry holds a descriptor for each field, in the order in which the fields were first seen. A descriptor keeps the latest
samples, up to a limit, and all texts that were seen; its type follows from the samples. `Registry.toValue` is a
snapshot, from which `Registry.load` builds the registry again.
-/

namespace LogAnalysis

/-- What is known about a field. `unique` is in ascending order. `others` are unique values that are no texts, which
only a snapshot can bring. -/
structure Descriptor where
  name : String
  type : FieldType := .text
  samples : List Value := []
  unique : List String := []
  others : List Value := []
  isArray : Bool := false
  isNumeric : Bool := false
  isDate : Bool := false
deriving Repr, Inhabited

def sampleCapacity (limit : Int) : Outcome Nat :=
  if limit < -(Nat.pow 2 63 : Int) ∨ (Nat.pow 2 63 : Int) ≤ limit then .error .tooLarge
  else if limit < 0 then Fault.refuse .sampleLimit
  else .ok limit.toNat

namespace Descriptor

def latest {α : Type} (count : Nat) (xs : List α) : List α := xs.drop (xs.length - count)

def insertText (s : String) : List String → List String
  | [] => [s]
  | t :: rest =>
    if s = t then t :: rest
    else if s < t then s :: t :: rest
    else t :: insertText s rest

def isList : Value → Bool
  | .list _ => true
  | _ => false

def sampleText : Value → String
  | .list items => Text.joined "," (items.map Value.display)
  | v => v.display

def mostly (count total : Nat) : Bool := 4 * total < 5 * count

def isDateSample (clock : Calendar.Clock) (v : Value) : Bool :=
  let s := v.display
  8 ≤ s.length && Timestamp.normalize clock s != ""

/-- The descriptor with the type that its samples call for. -/
def inferred (clock : Calendar.Clock) (d : Descriptor) : Descriptor :=
  if d.samples.isEmpty then d
  else
    let isArray := d.samples.any isList
    -- The flags of the types that are not asked for any more keep their values.
    if isArray then { d with isArray, type := .array }
    else
      let isNumeric := mostly (d.samples.countP Value.isNumber) d.samples.length
      if isNumeric then { d with isArray, isNumeric, type := .numeric }
      else
        let isDate := mostly (d.samples.countP (isDateSample clock)) d.samples.length
        { d with isArray, isNumeric, isDate, type := if isDate then .date else .text }

/-- The descriptor with one more sample. A list of one item counts as the item, and a missing value as none. -/
def addSample (d : Descriptor) : Value → Descriptor
  | .null => d
  | v =>
    { d with
      samples := d.samples ++ [v.scalar]
      unique := insertText (sampleText v.scalar) d.unique }

/-- The descriptor with more samples, of which the latest are kept, and with the type that they call for. -/
def addSamples (clock : Calendar.Clock) (capacity : Nat) (d : Descriptor) (samples : List Value) :
    Descriptor :=
  let d := samples.foldl addSample d
  inferred clock { d with samples := latest capacity d.samples }

def hasOrder (d : Descriptor) : Bool :=
  d.others.isEmpty || d.unique.isEmpty && (d.others.length == 1 || d.others.all (·.number?.isSome))

def uniqueValues (d : Descriptor) : List Value :=
  d.others.mergeSort (fun a b => a.number?.any fun x => b.number?.any (x ≤ ·)) ++ d.unique.map .text

def toValue (d : Descriptor) : Value :=
  .object [("name", .text d.name), ("type", .text d.type.name), ("samples", .list d.samples),
    ("unique_values", .list d.uniqueValues), ("is_array", .bool d.isArray),
    ("is_numeric", .bool d.isNumeric), ("is_date", .bool d.isDate)]

def snapshot (d : Descriptor) : Outcome Value := if d.hasOrder then .ok d.toValue else .error .wrongKind

def areSame : Value → Value → Bool
  | .null, .null => true
  | a, b => a.number?.any fun x => b.number?.any (x == ·)

def addUnique (d : Descriptor) : Value → Outcome Descriptor
  | .text s => .ok { d with unique := insertText s d.unique }
  | .list _ | .object _ => .error .wrongKind
  | v => .ok { d with others := if d.others.any (areSame v) then d.others else d.others ++ [v] }

def typeOf (members : Members Value) : Outcome FieldType :=
  match Members.get? members "type" with
  | none => .ok .text
  | some v =>
    match v with
    | .text s => (FieldType.ofName? s).elim (Fault.refuse (.fieldType v.shown)) .ok
    | _ => Fault.refuse (.fieldType v.shown)

def ofValue (limit : Int) (item : Value) : Outcome Descriptor := do
  let members ← item.toMembers
  let samples ← Value.listMember members "samples"
  let capacity ← sampleCapacity limit
  let name ← Entry.asText (← item.require "name")
  let type ← typeOf members
  let flag := fun name => (Value.ofOption (Members.get? members name)).isTruthy
  let d : Descriptor := {
    name, type
    samples := latest capacity samples
    isArray := flag "is_array"
    isNumeric := flag "is_numeric"
    isDate := flag "is_date" }
  (← Value.listMember members "unique_values").foldlM addUnique d

end Descriptor

structure Registry where
  limit : Int
  fields : Members Descriptor := []
deriving Repr, Inhabited

namespace Registry

def defaultLimit : Int := 100

def cleared (r : Registry) : Registry := { r with fields := [] }

def get? (r : Registry) (name : String) : Option Descriptor := Members.get? r.fields name

def names (r : Registry) : List String := Members.names r.fields

def type? (r : Registry) (name : String) : Option FieldType := (r.get? name).map (·.type)

def put (r : Registry) (d : Descriptor) : Registry := { r with fields := Members.put r.fields d.name d }

def register (clock : Calendar.Clock) (r : Registry) (name : String) (samples : List Value) :
    Outcome Registry := do
  let capacity ← sampleCapacity r.limit
  let d := (r.get? name).getD { name }
  return r.put (d.addSamples clock capacity samples)

def standardNames : List String := ["level", "ts", "message"]

def standardSamples (entries : List Entry) (name : String) : List Value :=
  (entries.map (·.get name)).filter Value.isTruthy

def isAbsent : Value → Bool
  | .null | .list [] => true
  | _ => false

def fieldSamples (capacity : Nat) (entries : List Entry) (name : String) : List Value :=
  ((entries.filterMap fun e => Members.get? e.fields name).filter (!isAbsent ·)).take (max 1 capacity)

def rebuild (clock : Calendar.Clock) (r : Registry) (entries : List Entry) : Outcome Registry := do
  let capacity ← sampleCapacity r.limit
  let r ← standardNames.foldlM (fun r name => r.register clock name (standardSamples entries name)) r.cleared
  (Entry.fieldNames entries).foldlM
    (fun r name => r.register clock name (fieldSamples capacity entries name)) r

def upTo {α : Type} (limit : Int) (xs : List α) : List α :=
  if 0 ≤ limit then xs.take limit.toNat else xs.take (xs.length + limit).toNat

def uniqueValues (r : Registry) (name : String) (limit : Int) : Outcome (List Value) :=
  match r.get? name with
  | none => .ok []
  | some d => if d.hasOrder then .ok (upTo limit d.uniqueValues) else .error .wrongKind

def toValue (r : Registry) : Value := .list (r.fields.map fun f => f.2.toValue)

def snapshot (r : Registry) : Outcome Value := do
  return .list (← r.fields.mapM fun f => f.2.snapshot)

def load (r : Registry) : List Value → Registry × Outcome Unit
  | [] => (r, .ok ())
  | item :: rest =>
    match Descriptor.ofValue r.limit item with
    | .ok d => load (r.put d) rest
    | .error fault => (r, .error fault)

def restore (r : Registry) (data : Value) : Registry × Outcome Unit :=
  match data.truthy? with
  | none => (r.cleared, .ok ())
  | some data =>
    match data.parts with
    | .ok items => r.cleared.load items
    | .error fault => (r.cleared, .error fault)

def ofSnapshot (limit : Int) (data : Value) : Outcome Registry :=
  let (r, done) := restore { limit } data
  done.map fun _ => r

end Registry

def Operator.offeredFor (name : String) (sample : Value) : List Operator :=
  if name = "level" then [.equals, .notEquals]
  else if Entry.resolveName name = "ts" then ofType .date
  else if Descriptor.isList sample then ofType .array
  else if sample.isNumber then ofType .numeric
  else ofType .text

end LogAnalysis
