import LogAnalysis.Filter.Rule
import LogAnalysis.Progress

/-!
Which entries a filter keeps.

The rules of a list are joined from left to right. The quick search and the rules choose the candidates; then each group of
rules in order narrows the choice or, if its word is `OR`, adds candidates that the quick search found.
-/

namespace LogAnalysis

namespace Rule

def admits (clock : Calendar.Clock) (registry : Option Registry) (e : Entry) (r : Rule) : Outcome Bool :=
  if r.enabled then r.condition.holds clock registry e else .ok true

def isAlternative (r : Rule) : Bool := r.logic.any fun word => Text.uppered word = "OR"

def joinFrom (test : Rule → Outcome Bool) (result alternative : Bool) : List Rule → Outcome Bool
  | [] => .ok result
  | r :: rest => do
    let outcome ← test r
    if alternative then joinFrom test (result || outcome) r.isAlternative rest
    -- No later rule can make up for this one: the rest is passed over.
    else if !(result && outcome) && !(r :: rest).any isAlternative then return false
    else joinFrom test (result && outcome) r.isAlternative rest

def joined (test : Rule → Outcome Bool) : List Rule → Outcome Bool
  | [] => .ok true
  | r :: rest => do joinFrom test (← test r) r.isAlternative rest

def allow (clock : Calendar.Clock) (registry : Option Registry) (rules : List Rule) (e : Entry) :
    Outcome Bool :=
  joined (admits clock registry e) rules

end Rule

def searchTerms (search : String) : List (List Char) := Text.words (Text.lowered search).toList

def Entry.holdsTerms (terms : List (List Char)) (e : Entry) : Bool :=
  let index := e.searchIndex.toList
  terms.all fun term => Text.occursIn term index

def quickSearch (search : String) (entries : List Entry) : List Entry :=
  entries.filter (Entry.holdsTerms (searchTerms search))

namespace Filter

variable {α : Type}

abbrev Choice (α : Type) := List (α × Bool)

def Choice.chosen (choice : Choice α) : List α := (choice.filter (·.2)).map (·.1)

def choose (test : α → Outcome Bool) (candidates : List α) : Outcome (Choice α) :=
  candidates.mapM fun x => return (x, ← test x)

/-- The choice after one more group. -/
def chooseGroup (test : List Rule → α → Outcome Bool) (choice : Choice α) (group : RuleGroup) :
    Outcome (Choice α) :=
  choice.mapM fun (x, chosen) =>
    -- Such a group is asked about all candidates, any other about those chosen so far.
    if group.logic = "OR" then return (x, (← test group.rules x) || chosen)
    else if chosen then return (x, ← test group.rules x)
    else return (x, false)

/-- The rows that a filter keeps, in their order. Each row stands for an entry. -/
def keep (clock : Calendar.Clock) (registry : Option Registry) (entryOf : α → Entry) (f : Filter)
    (rows : List α) : Run (List α) := do
  let test := fun rules x => Rule.allow clock registry rules (entryOf x)
  let search ← f.searchText
  let mut candidates := rows
  if !Text.isBlankString search then
    Run.report 10 "Applying quick search..."
    candidates := rows.filter fun x => (entryOf x).holdsTerms (searchTerms search)
  let mut choice : Choice α := candidates.map (·, true)
  if !f.rules.isEmpty then
    Run.report 30 "Applying filter rules..."
    choice ← choose (test f.rules) candidates
  if !f.groups.isEmpty then
    Run.report 50 "Applying filter groups..."
    choice ← (f.groups.foldlM (chooseGroup test) choice : Outcome (Choice α))
  return choice.chosen

end Filter

end LogAnalysis
