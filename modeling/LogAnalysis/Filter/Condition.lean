import LogAnalysis.Registry

/-!
Conditions: a field, an operator and a value to compare with.

All three may be values of any kind, as rules come from data. A condition on an unknown field asks about a missing
value; only a list or an object cannot name a field at all.
-/

namespace LogAnalysis

structure Condition where
  field : Value
  operator : Value
  value : Value
deriving Repr, Inhabited

/-- The type by which a field of an entry is compared: the registered one, or the one that the value suggests. -/
def FieldType.of (registry : Option Registry) (name : String) (value : Value) : FieldType :=
  match registry.bind (·.type? name) with
  | some t => t
  | none =>
    if name = "ts" then .date
    else match value with
      | .list [item] => if item.isNumber then .numeric else .text
      | .list _ => .array
      | v => if v.isNumber then .numeric else .text

namespace Condition

def comparesLevels (operator : String) : Bool := ["equals", "notEquals", "in"].contains operator

def levelValue : Value → Value
  | .list items => .list (items.map fun item => .text (canonicalLevelOf item))
  | v => .text (canonicalLevelOf v)

def passes : Outcome Bool → Bool
  | .ok b => b
  | .error _ => false

def test (clock : Calendar.Clock) (registry : Option Registry) (name : String) (found : Value)
    (operator : String) (value : Value) : Bool :=
  -- A missing value satisfies `empty` alone, a missing value to compare with `notEmpty` alone.
  if found.isEmpty then operator = "empty"
  else if Text.isBlankString value.plain then operator = "notEmpty"
  else
    let value := if name = "level" && comparesLevels operator then levelValue value else value
    match (Operator.ofName? operator).bind (Operator.resolve? clock (.of registry name found)) with
    | some question => passes (question found value)
    | none => false

def holds (clock : Calendar.Clock) (registry : Option Registry) (e : Entry) (c : Condition) :
    Outcome Bool :=
  match c.field with
  | .text name =>
    let name := Entry.resolveName name
    .ok (test clock registry name (e.get name) c.operator.display c.value)
  | .list _ | .object _ => .error .wrongKind
  | _ => .ok (c.operator.display = "empty")

end Condition

end LogAnalysis
