import LogAnalysis.Filter.Condition
import LogAnalysis.Proofs.Text.Search

/-!
# What a condition asks

Where the entry has a value and the condition gives one, a condition is a question of the operator, which is looked up
by the type of the field (`test_of_present`). Elsewhere only `empty` and `notEmpty` can hold (`test_of_missing`,
`test_of_blank`).
-/

namespace LogAnalysis

namespace Operator

variable (clock : Calendar.Clock) (t : FieldType)

theorem resolve?_contains : resolve? clock t .contains =
    some (if t = .array then itemTest else foldedTest fun a b => Text.within b a) := by
  cases t <;> rfl

theorem resolve?_notContains : resolve? clock t .notContains = some (foldedTest fun a b => !Text.within b a) := by
  cases t <;> rfl

theorem resolve?_equals : resolve? clock t .equals = some (match t with
    | .numeric => numericTest (· == ·)
    | .date => dateTest clock (·.date = ·.date)
    | .text | .array => fun a b => textTest (· == ·) a.scalar b) := by
  cases t <;> rfl

theorem resolve?_notEquals : resolve? clock t .notEquals = some (match t with
    | .numeric => numericTest (· != ·)
    | .text | .date | .array => fun a b => textTest (· != ·) a.scalar b) := by
  cases t <;> rfl

theorem resolve?_matchesPattern : resolve? clock t .matchesPattern = some matchTest := by
  cases t <;> rfl

theorem resolve?_empty : resolve? clock t .empty = some (fieldTest Value.isEmpty) := by
  cases t <;> rfl

theorem resolve?_notEmpty : resolve? clock t .notEmpty = some (fieldTest (!·.isEmpty)) := by
  cases t <;> rfl

@[simp]
theorem folded_text (s : String) : folded (.text s) = Text.lowered s := by
  rw [folded, Value.plain]

end Operator

namespace Condition

variable {clock : Calendar.Clock} {registry : Option Registry} {found value : Value}

theorem test_of_missing (missing : found.isEmpty = true) (name operator : String) :
    test clock registry name found operator value = decide (operator = "empty") := by
  rw [test, if_pos missing]

theorem test_of_blank (present : found.isEmpty = false) (blank : Text.isBlankString value.plain = true)
    (name operator : String) : test clock registry name found operator value = decide (operator = "notEmpty") := by
  rw [test, if_neg (by simp [present]), if_pos blank]

def compared (name : String) (op : Operator) (value : Value) : Value :=
  if name = "level" && comparesLevels op.name then levelValue value else value

theorem test_of_present (present : found.isEmpty = false) (given : Text.isBlankString value.plain = false)
    (name : String) {op : Operator} {question : Operator.Test}
    (asked : Operator.resolve? clock (.of registry name found) op = some question) :
    test clock registry name found op.name value = passes (question found (compared name op value)) := by
  rw [test, if_neg (by simp [present]), if_neg (by simp [given]), Operator.ofName?_name, Option.bind_some, asked]
  rfl

theorem holds_of_text {c : Condition} {name : String} (field : c.field = .text name) (e : Entry) :
    c.holds clock registry e = .ok (passes (c.holds clock registry e)) := by
  rw [holds, field]
  rfl

theorem within_of_contains {s word : String}
    (holds : test clock registry "raw" (.text s) "contains" (.text word) = true) :
    Text.within (Text.lowered word) (Text.lowered s) = true := by
  cases present : (Value.text s).isEmpty with
  | true =>
      rw [test_of_missing present] at holds
      contradiction
  | false =>
      cases given : Text.isBlankString (Value.text word).plain with
      | true =>
          rw [test_of_blank present given] at holds
          contradiction
      | false =>
          have asked := test_of_present present given "raw"
            (Operator.resolve?_contains clock (.of registry "raw" (.text s)))
          have same : compared "raw" .contains (.text word) = .text word := by simp [compared]
          rw [show Operator.contains.name = "contains" from rfl, holds, same] at asked
          -- A list of one item holds a text where the item does.
          split at asked
          · simpa [Operator.itemTest, Operator.foldedItems, Value.toItems, passes] using asked.symm
          · simpa [Operator.foldedTest, passes] using asked.symm

end Condition

end LogAnalysis
