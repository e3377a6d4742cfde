import LogAnalysis.Json.Writer
import LogAnalysis.Progress
import LogAnalysis.Registry
import LogAnalysis.Statistics.Count

/-!
Statistics of a field over the entries of a view: how many entries have it, how many values differ, and what its type
allows to say about the values.
-/

namespace LogAnalysis.Statistics

structure NumberSummary where
  least : Float
  greatest : Float
  mean : Float
  median : Float
  mode : Float
deriving Repr

structure DateSummary where
  earliest : Calendar.Instant
  latest : Calendar.Instant
deriving Repr

structure TextSummary where
  shortest : Nat
  longest : Nat
  meanLength : Float
  mostCommon : List (String × Nat)
deriving Repr

inductive Summary
  | none
  | numbers (s : NumberSummary)
  | dates (s : DateSummary)
  | texts (s : TextSummary)
deriving Repr

structure Field where
  type : Option FieldType
  withValue : Nat
  withoutValue : Nat
  unique : Nat
  summary : Summary
deriving Repr

namespace Field

/-- The text by which values are told apart: JSON with sorted members for lists and objects, else the value itself. -/
def keyOf : Value → String
  | .list items => Json.write Json.spaced (Json.sorted (.list items))
  | .object members => Json.write Json.spaced (Json.sorted (.object members))
  | v => v.display

def valueOf (e : Entry) (name : String) : Value :=
  if Entry.reservedNames.contains name then e.get name
  else Value.ofOption (Members.get? e.fields name)

def least (x : Float) (xs : List Float) : Float := xs.foldl (fun m y => if y < m then y else m) x

def greatest (x : Float) (xs : List Float) : Float := xs.foldl (fun m y => if m < y then y else m) x

def median (xs : List Float) : Float :=
  let sorted := xs.mergeSort fun a b => !(b < a)
  let half := sorted.length / 2
  let nth := fun i => sorted.getD i 0
  if sorted.length % 2 = 1 then nth half else (nth (half - 1) + nth half) / 2

def mode (xs : List Float) : Float := ((mostCommon 1 xs).map (·.1)).headD 0

def summarizeNumbers (values : List Value) : Outcome Summary := do
  let numbers ← values.mapM fun v => v.scalar.leadingNumber
  match numbers.filter (!·.isNaN) with
  | [] => return .none
  | x :: xs =>
    let all := x :: xs
    return .numbers {
      least := least x xs
      greatest := greatest x xs
      mean := all.foldl (· + ·) 0 / all.length.toFloat
      median := median all
      mode := mode all }

def summarizeDates (clock : Calendar.Clock) (values : List Value) : Outcome Summary := do
  let dates ← values.mapM fun v => Timestamp.parse clock v.scalar.plain
  let milliseconds := (dates.filterMap id).map (·.milliseconds)
  match milliseconds with
  | [] => return .none
  | m :: ms => return .dates ⟨⟨ms.foldl min m⟩, ⟨ms.foldl max m⟩⟩

def summarizeTexts (values : List Value) : Summary :=
  let texts := values.map fun v => v.scalar.plain
  match texts.map String.length with
  | [] => .none
  | n :: ns => .texts {
      shortest := ns.foldl Nat.min n
      longest := ns.foldl Nat.max n
      meanLength := (ns.foldl Nat.add n).toFloat / texts.length.toFloat
      mostCommon := mostCommon 3 texts }

def ofView (clock : Calendar.Clock) (view : List Entry) (name : String) (type : Option FieldType) :
    Outcome Field := do
  let values := (view.map fun e => valueOf e name).filter (!·.isEmpty)
  let summary ← match type with
    | some .numeric => summarizeNumbers values
    | some .date => summarizeDates clock values
    | some .text => pure (summarizeTexts values)
    | some .array | none => pure .none
  return {
    type, summary
    withValue := values.length
    withoutValue := view.length - values.length
    unique := distinct (values.map keyOf) }

def typeName (f : Field) : String := f.type.elim "unknown" FieldType.name

def toMembers (f : Field) : Members Value :=
  [("type", .text f.typeName), ("with_value", .int f.withValue), ("without_value", .int f.withoutValue),
    ("unique", .int f.unique)] ++
  match f.summary with
  | .none => []
  | .numbers s => [("min", .float s.least), ("max", .float s.greatest), ("mean", .float s.mean),
      ("median", .float s.median), ("mode", .float s.mode)]
  | .dates s => [("earliest", .text s.earliest.text), ("latest", .text s.latest.text)]
  | .texts s => [("min_len", .int s.shortest), ("max_len", .int s.longest), ("avg_len", .float s.meanLength),
      ("most_common", .list (s.mostCommon.map fun (text, n) => .list [.text text, .int n]))]

end Field

def roundedQuotient (a b : Nat) : Nat :=
  let rest := 2 * (a % b)
  if rest < b then a / b
  else if b < rest then a / b + 1
  else a / b + a / b % 2

def summaryNames (fieldNames : List String) : List String :=
  Entry.reservedNames ++ fieldNames.filter (!Entry.reservedNames.contains ·)

def summarize (clock : Calendar.Clock) (registry : Registry) (fieldNames : List String) (view : List Entry) :
    Run (Members Field) :=
  let names := summaryNames fieldNames
  names.zipIdx.foldlM (fun done (name, i) => do
    Run.report (roundedQuotient (i * 100) names.length) s!"Computing stats for {name}..."
    return Members.put done name (← (Field.ofView clock view name (registry.type? name) : Outcome Field))) []

end LogAnalysis.Statistics
