import LogAnalysis.Filter.Condition

/-!
Filters: a quick search, a list of rules, and groups of rules.

The word of a rule (`logic`) joins it to the next one. A filter is read from an object with `Filter.ofValue`; what
is missing there has a default, and what is of the wrong kind is refused.
-/

namespace LogAnalysis

/-- A condition in a list of rules. `id` is the identifier that its data give, if they give one. -/
structure Rule where
  condition : Condition
  logic : Option String := none
  enabled : Bool := true
  id : Option Value := none
deriving Repr, Inhabited

structure RuleGroup where
  logic : String := "AND"
  rules : List Rule := []
deriving Repr, Inhabited

structure Filter where
  rules : List Rule := []
  groups : List RuleGroup := []
  quickSearch : Value := .text ""
deriving Repr, Inhabited

namespace Rule

def logicOf (v : Value) : Outcome (Option String) :=
  if v.isTruthy then v.uppercase.map some else .ok none

def enabledIn (members : Members Value) : Bool :=
  match Members.get? members "enabled" with
  | some (.bool false) => false
  | _ => true

def ofValue (data : Value) : Outcome Rule := do
  let members ← data.toMembers
  let field ← data.require "field"
  let operator ← data.require "operator"
  let member := fun name => Value.ofOption (Members.get? members name)
  return {
    condition := { field, operator, value := member "value" }
    logic := ← logicOf (member "logic")
    enabled := enabledIn members
    id := (member "id").truthy? }

end Rule

def RuleGroup.ofValue (data : Value) : Outcome RuleGroup := do
  let members ← data.toMembers
  let logic ← Rule.logicOf (Value.ofOption (Members.get? members "logic"))
  let rules ← (← Value.listMember members "rules").mapM Rule.ofValue
  return { logic := logic.getD "AND", rules }

namespace Filter

def ofValue (data : Value) : Outcome Filter := do
  let members ← data.toMembers
  let rules ← (← Value.listMember members "rules").mapM Rule.ofValue
  let groups ← (← Value.listMember members "groups").mapM RuleGroup.ofValue
  let member := fun name => (Value.ofOption (Members.get? members name)).truthy?
  return {
    rules, groups
    quickSearch := ((member "quick_search").or (member "quickSearch")).getD (.text "") }

def searchText (f : Filter) : Outcome String :=
  match f.quickSearch with
  | .text s => .ok s
  | _ => .error .noSuchPart

def isEmpty (f : Filter) : Outcome Bool :=
  if f.rules.isEmpty && f.groups.isEmpty then f.searchText.map Text.isBlankString else .ok false

end Filter

end LogAnalysis
