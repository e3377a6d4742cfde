import LogAnalysis.Filter.Rule
import LogAnalysis.Query.Tree

/-!
Queries as flat lists of rules.

A query is flat if it is a chain of conditions, some of them negated, that is grouped to the left. In a chain without
alternatives the words to be found anywhere make up the quick search.
-/

namespace LogAnalysis.Query

def refuseFlat {α : Type} (problem : Problem) (fragment : String) : Outcome α :=
  .error (.query ⟨problem, fragment, none⟩)

def complement? : String → Option String
  | "contains" => some "notContains"
  | "notContains" => some "contains"
  | "equals" => some "notEquals"
  | "notEquals" => some "equals"
  | "empty" => some "notEmpty"
  | "notEmpty" => some "empty"
  | _ => none

def complemented (c : Condition) : Outcome Condition :=
  match c.operator with
  | .list _ | .object _ => .error .wrongKind
  | .text name =>
    match complement? name with
    | some opposite => .ok { c with operator := .text opposite }
    | none => refuseFlat (.noComplement name) c.field.display
  | operator => refuseFlat (.noComplement operator.display) c.field.display

namespace Tree

def isLogic : Tree → Bool
  | logic .. => true
  | _ => false

/-- The first link of a chain that is grouped to the left, and the others with the words before them. -/
def chain : Tree → Outcome (Tree × List (String × Tree))
  | logic word left right => do
    if right.isLogic then refuseFlat .tooComplex ""
    let (first, links) ← chain left
    return (first, links ++ [(word, right)])
  | t => .ok (t, [])

def leaf : Tree → Outcome (Condition × Bool)
  | rule c => .ok (c, false)
  | not (rule c) => do return (← complemented c, true)
  | _ => refuseFlat .tooComplex ""

end Tree

def isText (s : String) : Value → Bool
  | .text t => t = s
  | _ => false

def isWordSearch (c : Condition) : Bool := isText "raw" c.field && isText "contains" c.operator

def joinedRules : List Condition → List String → List Rule
  | [], _ => []
  | c :: cs, [] => { condition := c } :: joinedRules cs []
  | c :: cs, word :: words => { condition := c, logic := some word } :: joinedRules cs words

def conjunctionFilter (leaves : List (Condition × Bool)) : Filter :=
  let (searches, others) := leaves.partition fun (c, negated) => !negated && isWordSearch c
  { rules := joinedRules (others.map (·.1)) (List.replicate (others.length - 1) "AND")
    quickSearch := .text (Text.joined " " (searches.map fun (c, _) => c.value.display)) }

def flatten : Option Tree → Outcome Filter
  | none => .ok {}
  | some tree => do
    let (first, links) ← tree.chain
    let leaves ← (first :: links.map (·.2)).mapM Tree.leaf
    let words := links.map (·.1)
    if words.all (· = "AND") then return conjunctionFilter leaves
    else return { rules := joinedRules (leaves.map (·.1)) words }

end LogAnalysis.Query
