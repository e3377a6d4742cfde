import LogAnalysis.Filter.Evaluation
import LogAnalysis.Query.Flat
import LogAnalysis.Query.Parser

/-!
What a session is asked to search for: a query, or a filter. A value that is neither cannot be asked about any entry.
-/

namespace LogAnalysis

inductive Search
  | query (tree : Query.Tree)
  | filter (f : Filter)
  | unknown (v : Value)
deriving Repr, Inhabited

namespace Search

def ofText (text : String) : Outcome (Option Search) :=
  (Query.parse text).map fun tree => tree.map query

def ofValue : Value → Outcome (Option Search)
  | .null => .ok none
  | .text s => ofText s
  | .object members =>
    if (Members.names members).contains "type" then
      (Query.Tree.ofValue (.object members)).map fun tree => some (query tree)
    else .ok (some (unknown (.object members)))
  | v => .ok (some (unknown v))

def flatten : Option Search → Outcome Filter
  | none => Query.flatten none
  | some (query tree) => Query.flatten (some tree)
  | some _ => Query.refuseFlat .tooComplex ""

def holds (clock : Calendar.Clock) (registry : Option Registry) (e : Entry) : Search → Outcome Bool
  | query tree => tree.holds clock registry e
  | filter _ | unknown _ => .error .noSuchPart

def select {α : Type} (test : α → Outcome Bool) (rows : List α) : Outcome (List α) :=
  (Filter.choose test rows).map Filter.Choice.chosen

/-- The rows that a search keeps, in their order. Each row stands for an entry. -/
def keep {α : Type} (clock : Calendar.Clock) (registry : Option Registry) (entryOf : α → Entry)
    (rows : List α) : Search → Run (List α)
  | filter f => f.keep clock registry entryOf rows
  | search => do
    Run.report 40 "Evaluating query..."
    (select (fun x => search.holds clock registry (entryOf x)) rows : Outcome (List α))

end Search

def Filter.ofRequest : Value → Outcome (Option Filter)
  | .null => .ok none
  | .object members => (ofValue (.object members)).map some
  | v => do
    let rules ← (← v.parts).mapM Rule.ofValue
    return some { rules }

end LogAnalysis
