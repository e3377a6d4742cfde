import LogAnalysis.Entry
import LogAnalysis.Pattern.Basic
import LogAnalysis.Progress
import LogAnalysis.Timestamp

/-!
Extraction of fields from the texts of entries by patterns with named groups.

Every match of a pattern in an entry adds its captures, so that a group that matches three times gives a list of three
texts. Captures named like a part of the entry change that part, except for the number and the raw text, which stay.
`run` applies one pattern, and `runAll` several in their order; an extractor whose pattern is malformed does
nothing.
-/

namespace LogAnalysis

inductive MergeStrategy
  | lastWins
  | firstWins
  | merge
deriving Repr, DecidableEq, Inhabited

namespace MergeStrategy

def name : MergeStrategy → String
  | lastWins => "last-wins"
  | firstWins => "first-wins"
  | merge => "merge"

def ofName (name shown : String) : Outcome MergeStrategy :=
  let wanted := Text.lowered (Text.trimmed name)
  match [lastWins, firstWins, merge].find? (·.name = wanted) with
  | some s => .ok s
  | none => Fault.refuse (.mergeStrategy shown)

def ofValue (v : Value) : Outcome MergeStrategy := ofName v.display v.shown

end MergeStrategy

/-- A pattern with named groups, as a user gives it. One without an identifier of its own gets one. -/
structure Extractor where
  pattern : Value
  name : Value := .text ""
  id : Option String := none
  enabled : Bool := true
  order : Option Int := none
  created : Value := .text ""
deriving Repr, Inhabited

namespace Extractor

def ofValue (data : Value) : Outcome Extractor := do
  let order ← data.lookup "order"
  let pattern ← data.require "pattern"
  let name ← data.lookup "name"
  let id ← data.lookup "id"
  let enabled ← data.lookup "enabled"
  let created ← data.lookup "created"
  return {
    pattern
    name := name.truthy?.getD (.text "")
    id := id.truthy?.map Value.display
    enabled := match enabled with
      | .bool false => false
      | _ => true
    order := ← match order with
      | .null => .ok none
      | order => order.toInteger.map some
    created := created.truthy?.getD (.text "") }

def rank (e : Extractor) : Bool × Int := (e.order.isNone, e.order.getD 0)

/-- The first value does not come after the second: texts compare with texts, and numbers with numbers. -/
def isCreatedBy? : Value → Value → Option Bool
  | .text a, .text b => some (a ≤ b)
  | a, b => do return (← a.number?) ≤ (← b.number?)

def areComparable (a b : Extractor) : Bool := a.rank != b.rank || (isCreatedBy? a.created b.created).isSome

/-- The first extractor does not come after the second: those with a place come first, in the order of their places,
and the others by their times of creation. -/
def comesFirst (a b : Extractor) : Bool :=
  if a.rank.1 ≠ b.rank.1 then b.rank.1
  else if a.rank.2 ≠ b.rank.2 then a.rank.2 < b.rank.2
  else (isCreatedBy? a.created b.created).getD true

def ordered (extractors : List Extractor) : Outcome (List Extractor) :=
  if extractors.Pairwise (areComparable · ·) then .ok (extractors.mergeSort comesFirst)
  else .error .wrongKind

def label (e : Extractor) : String :=
  if e.name.isTruthy then e.name.display else e.id.getD "<generated>"

end Extractor

namespace Extraction

structure Tally where
  hits : Nat := 0
  fieldNames : List String := []
deriving Repr, DecidableEq

/-- The entry after one group was captured. -/
def applyCapture (clock : Calendar.Clock) (strategy : MergeStrategy) (e : Entry)
    (capture : String × List String) : Entry :=
  let (name, texts) := capture
  -- A part of the entry takes the first text, a field all of them.
  let first := texts.headD ""
  match Entry.resolveName name with
  | "ts" =>
    let normalized := Timestamp.normalize clock first
    if normalized = "" then e else { e with timestamp := normalized }
  | "level" => { e with level := canonicalLevel first }
  | "message" => { e with message := first }
  | "raw" | "id" => e
  | name =>
    if strategy = .firstWins && (Members.names e.fields).contains name then e
    else { e with fields := Members.put e.fields name (.list (texts.map .text)) }

def applyCaptures (clock : Calendar.Clock) (strategy : MergeStrategy) (e : Entry)
    (captured : Members (List String)) : Entry :=
  (captured.foldl (applyCapture clock strategy) e).reindexed

def runPattern (clock : Calendar.Clock) (strategy : MergeStrategy) (p : Pattern.Parsed) :
    List Entry → Tally → List Entry × Tally
  | [], tally => ([], tally)
  | e :: rest, tally =>
    match Pattern.captures p e.raw with
    | [] =>
      let (rest, tally) := runPattern clock strategy p rest tally
      (e :: rest, tally)
    | captured =>
      let found := (Members.names captured).filter Entry.isFieldName
      let tally := ⟨tally.hits + 1, found.foldl Entry.addName tally.fieldNames⟩
      let (rest, tally) := runPattern clock strategy p rest tally
      (applyCaptures clock strategy e captured :: rest, tally)

def run (clock : Calendar.Clock) (strategy : MergeStrategy) (pattern : Value) (entries : List Entry) :
    Outcome (List Entry × Tally) :=
  match pattern with
  | .text source =>
    match Pattern.compile source {} with
    | .ok p => .ok (runPattern clock strategy p entries {})
    -- A malformed pattern leaves the entries as they are, any other fault gets out.
    | .error (.malformed _) => .ok (entries, {})
    | .error refusal => .error (.ofRefusal source refusal)
  | _ => .ok (entries, {})

structure Result where
  total : Nat := 0
  byExtractor : List (Option String × Nat) := []
  fieldNames : List String := []
deriving Repr, DecidableEq

/-- Records the hits under an identifier. A later record replaces the one under the same identifier. -/
def record (id : Option String) (hits : Nat) :
    List (Option String × Nat) → List (Option String × Nat)
  | [] => [(id, hits)]
  | (other, n) :: rest =>
    if id.isSome && id = other then (other, hits) :: rest else (other, n) :: record id hits rest

def Result.add (r : Result) (id : Option String) (tally : Tally) : Result :=
  { total := r.total + tally.hits
    byExtractor := record id tally.hits r.byExtractor
    fieldNames := tally.fieldNames.foldl Entry.addName r.fieldNames }

/-- The entries after several extractors, what they did, and the reports. A run that stops leaves the entries as the
extractors before made them. -/
structure Pass where
  entries : List Entry
  outcome : Outcome Result
  reports : List Progress

def runFrom (clock : Calendar.Clock) (strategy : MergeStrategy) (count index : Nat) (done : Result)
    (entries : List Entry) : List Extractor → Pass
  | [] => ⟨entries, .ok done, [⟨100, "Extraction complete"⟩]⟩
  | e :: rest =>
    let report : Progress := ⟨index * 100 / count, s!"Running extractor {e.label}..."⟩
    match run clock strategy e.pattern entries with
    | .error fault => ⟨entries, .error fault, [report]⟩
    | .ok (entries, tally) =>
      let pass := runFrom clock strategy count (index + 1) (done.add e.id tally) entries rest
      { pass with reports := report :: pass.reports }

def runAll (clock : Calendar.Clock) (strategy : MergeStrategy) (extractors : List Extractor)
    (entries : List Entry) : Pass :=
  match Extractor.ordered extractors with
  | .error fault => ⟨entries, .error fault, []⟩
  | .ok ordered =>
    let chosen := ordered.filter (·.enabled)
    runFrom clock strategy chosen.length 0 {} entries chosen

def runValues (clock : Calendar.Clock) (strategy extractors : Value) (entries : List Entry) : Pass :=
  let request : Outcome (MergeStrategy × List Extractor) := do
    let strategy ← MergeStrategy.ofValue strategy
    return (strategy, ← (← extractors.parts).mapM Extractor.ofValue)
  match request with
  | .ok (strategy, extractors) => runAll clock strategy extractors entries
  | .error fault => ⟨entries, .error fault, []⟩

end Extraction

end LogAnalysis
