import LogAnalysis.Pattern.Basic
import LogAnalysis.Timestamp
import LogAnalysis.Value.Number

/-!
Comparison operators and the types of fields.

Every type owns some operators (`offered`), and `test?` says what each of them asks of the value of a field and
the value of a rule. An operator that a type does not own is looked for among the texts, then among the other
types (`resolve?`), so that every operator means something for every field.
-/

namespace LogAnalysis

inductive FieldType
  | text
  | numeric
  | date
  | array
deriving Repr, DecidableEq, Inhabited

namespace FieldType

def all : List FieldType := [text, numeric, date, array]

def name : FieldType → String
  | text => "text"
  | numeric => "numeric"
  | date => "date"
  | array => "array"

def ofName? (s : String) : Option FieldType := all.find? (·.name = s)

end FieldType

inductive Operator
  | equals
  | notEquals
  | contains
  | notContains
  | startsWith
  | endsWith
  | matchesPattern
  | empty
  | notEmpty
  | greaterThan
  | greaterOrEqual
  | lessThan
  | lessOrEqual
  | before
  | after
  | between
  | containsAll
  | containsAny
  | oneOf
deriving Repr, DecidableEq, Inhabited

namespace Operator

def all : List Operator :=
  [equals, notEquals, contains, notContains, startsWith, endsWith, matchesPattern, empty, notEmpty, greaterThan,
    greaterOrEqual, lessThan, lessOrEqual, before, after, between, containsAll, containsAny, oneOf]

def name : Operator → String
  | equals => "equals"
  | notEquals => "notEquals"
  | contains => "contains"
  | notContains => "notContains"
  | startsWith => "startsWith"
  | endsWith => "endsWith"
  | matchesPattern => "matches"
  | empty => "empty"
  | notEmpty => "notEmpty"
  | greaterThan => "greaterThan"
  | greaterOrEqual => "greaterOrEqual"
  | lessThan => "lessThan"
  | lessOrEqual => "lessOrEqual"
  | before => "before"
  | after => "after"
  | between => "between"
  | containsAll => "containsAll"
  | containsAny => "containsAny"
  | oneOf => "in"

def ofName? (s : String) : Option Operator := all.find? (·.name = s)

def offered : FieldType → List (Operator × String)
  | .text => [(equals, "equals"), (notEquals, "does not equal"), (contains, "contains"),
      (notContains, "does not contain"), (startsWith, "starts with"), (endsWith, "ends with"),
      (matchesPattern, "matches regex"), (empty, "is empty"), (notEmpty, "is not empty")]
  | .numeric => [(equals, "="), (notEquals, "≠"), (greaterThan, ">"), (greaterOrEqual, "≥"),
      (lessThan, "<"), (lessOrEqual, "≤")]
  | .date => [(before, "before"), (after, "after"), (between, "between"), (equals, "on")]
  | .array => [(contains, "contains"), (containsAll, "contains all"), (containsAny, "contains any"),
      (empty, "is empty"), (notEmpty, "is not empty")]

def ofType (t : FieldType) : List Operator := (offered t).map (·.1)

def universal : List Operator := [oneOf]

/-! ## Tests -/

abbrev Test := Value → Value → Outcome Bool

def folded (v : Value) : String := Text.lowered v.plain

def textTest (holds : String → String → Bool) : Test := fun a b => .ok (holds a.plain b.plain)

def foldedTest (holds : String → String → Bool) : Test := fun a b => .ok (holds (folded a) (folded b))

def matchTest : Test := fun a b =>
  match Pattern.compile b.plain { caseless := true } with
  | .ok p => .ok (Pattern.search p a.plain)
  -- A malformed pattern matches nothing.
  | .error (.malformed _) => .ok false
  | .error refusal => .error (.ofRefusal b.plain refusal)

def fieldTest (holds : Value → Bool) : Test := fun a _ => .ok (holds a)

def numericTest (holds : Float → Float → Bool) : Test := fun a b => do
  let x ← a.scalar.leadingNumber
  let y ← b.leadingNumber
  return !x.isNaN && !y.isNaN && holds x y

def dateTest (clock : Calendar.Clock) (holds : Calendar.Instant → Calendar.Instant → Bool) : Test :=
  fun a b => do
    let x ← Timestamp.parse clock a.scalar.plain
    let y ← Timestamp.parse clock b.plain
    return match x, y with
      | some x, some y => holds x y
      | _, _ => false

def betweenTest (clock : Calendar.Clock) : Test := fun a b =>
  match Text.pieces ',' b.plain with
  | first :: second :: _ => do
    let x ← Timestamp.parse clock a.scalar.plain
    let low ← Timestamp.parse clock (Text.trimmed first)
    let high ← Timestamp.parse clock (Text.trimmed second)
    return match x, low, high with
      | some x, some low, some high =>
        low.milliseconds ≤ x.milliseconds && x.milliseconds ≤ high.milliseconds
      | _, _, _ => false
  | _ => .ok false

def foldedItems (v : Value) : List String := v.toItems.map folded

def terms (v : Value) : List String :=
  (Text.pieces ',' v.plain).map fun t => Text.lowered (Text.trimmed t)

def itemTest : Test := fun a b => .ok ((foldedItems a).any (Text.within (folded b)))

def allTermsTest : Test := fun a b =>
  .ok ((terms b).all fun term => (foldedItems a).any (Text.within term))

def anyTermTest : Test := fun a b =>
  .ok ((terms b).any fun term => (foldedItems a).any (Text.within term))

def memberTest : Test := fun a b =>
  let wanted := b.toItems.map fun item => Text.lowered (Text.trimmed item.plain)
  .ok ((foldedItems a).any wanted.contains)

def test? (clock : Calendar.Clock) : FieldType → Operator → Option Test
  | .text, equals => some fun a b => textTest (· == ·) a.scalar b
  | .text, notEquals => some fun a b => textTest (· != ·) a.scalar b
  | .text, contains => some (foldedTest fun a b => Text.within b a)
  | .text, notContains => some (foldedTest fun a b => !Text.within b a)
  | .text, startsWith => some (foldedTest Text.startsWith)
  | .text, endsWith => some (foldedTest Text.endsWith)
  | .text, matchesPattern => some matchTest
  | .text, empty => some (fieldTest Value.isEmpty)
  | .text, notEmpty => some (fieldTest (!·.isEmpty))
  | .numeric, equals => some (numericTest (· == ·))
  | .numeric, notEquals => some (numericTest (· != ·))
  | .numeric, greaterThan => some (numericTest (· > ·))
  | .numeric, greaterOrEqual => some (numericTest (· ≥ ·))
  | .numeric, lessThan => some (numericTest (· < ·))
  | .numeric, lessOrEqual => some (numericTest (· ≤ ·))
  | .date, before => some (dateTest clock (·.milliseconds < ·.milliseconds))
  | .date, after => some (dateTest clock (·.milliseconds > ·.milliseconds))
  | .date, between => some (betweenTest clock)
  | .date, equals => some (dateTest clock (·.date = ·.date))
  | .array, contains => some itemTest
  | .array, containsAll => some allTermsTest
  | .array, containsAny => some anyTermTest
  | .array, empty => some (fieldTest Value.isEmpty)
  | .array, notEmpty => some (fieldTest (!·.isEmpty))
  | _, _ => none

def universalTest? : Operator → Option Test
  | oneOf => some memberTest
  | _ => none

/-- What an operator asks of a field of a type: what the type says, or else texts, numbers, dates and lists in
this order. -/
def resolve? (clock : Calendar.Clock) (t : FieldType) (op : Operator) : Option Test :=
  ([t, .text, .numeric, .date, .array].findSome? (test? clock · op)).or (universalTest? op)

theorem ofName?_name (op : Operator) : ofName? op.name = some op := by
  cases op <;> decide

theorem test?_isSome (clock : Calendar.Clock) (t : FieldType) (op : Operator) :
    (test? clock t op).isSome = (ofType t).contains op := by
  cases t <;> cases op <;> rfl

theorem resolve?_isSome (clock : Calendar.Clock) (t : FieldType) (op : Operator) :
    (resolve? clock t op).isSome := by
  cases t <;> cases op <;> rfl

end Operator

end LogAnalysis
