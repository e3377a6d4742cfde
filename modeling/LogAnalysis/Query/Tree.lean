import LogAnalysis.Filter.Condition

/-!
Queries as trees of conditions.

`Tree.toValue` writes a tree as an object, and `Tree.ofValue` reads it back. A word that joins two trees and is not `OR` counts
as `AND`.
-/

namespace LogAnalysis.Query

inductive Tree
  | rule (condition : Condition)
  | logic (word : String) (left right : Tree)
  | not (operand : Tree)
deriving Repr, Inhabited

namespace Tree

def both (left right : Tree) : Tree := logic "AND" left right

def either (left right : Tree) : Tree := logic "OR" left right

def holds (clock : Calendar.Clock) (registry : Option Registry) (e : Entry) : Tree → Outcome Bool
  | rule condition => condition.holds clock registry e
  | not operand => do return !(← holds clock registry e operand)
  | logic word left right => do
    let first ← holds clock registry e left
    -- The left side settles it.
    if first = decide (word = "OR") then return first
    else holds clock registry e right

def toValue : Tree → Value
  | rule c => .object [("type", .text "RULE"), ("field", c.field), ("operator", c.operator),
      ("value", c.value)]
  | logic word left right => .object [("type", .text "LOGIC"), ("operator", .text word),
      ("left", left.toValue), ("right", right.toValue)]
  | not operand => .object [("type", .text "NOT"), ("operand", operand.toValue)]

def ofMembers (members : Members Value) (trees : Members (Outcome Tree)) : Outcome Tree := do
  let data := Value.object members
  let tree := fun name => do
    let _ ← data.require name
    (Members.get? trees name).getD (.error .wrongKind)
  let kind := Value.ofOption (Members.get? members "type")
  match kind with
  | .text "RULE" =>
    let field ← data.require "field"
    let operator ← data.require "operator"
    return rule ⟨field, operator, ← data.lookup "value"⟩
  | .text "LOGIC" =>
    let word ← data.require "operator"
    let left ← tree "left"
    return logic (Text.uppered word.display) left (← tree "right")
  | .text "NOT" => return not (← tree "operand")
  | _ => Fault.refuse (.nodeType kind.shown)

mutual

def ofValue : Value → Outcome Tree
  | .object members => ofMembers members (memberTrees members)
  | _ => .error .noSuchPart

def memberTrees : List (String × Value) → List (String × Outcome Tree)
  | [] => []
  | (name, v) :: rest => (name, ofValue v) :: memberTrees rest

end

end Tree

end LogAnalysis.Query
