import LogAnalysis.Proofs.Query.Flattening

/-!
# Rules for negated conditions

A flat query has a rule with the opposite operator for a negated condition. The rule does not hold wherever the
condition fails: both fail where a value is missing on either side, and where numbers or days cannot be compared.
`IsDecided` says when exactly one of them holds.

* `test_opposite_iff`: of a condition on a field and its opposite exactly one holds just if the condition is decided.
* `negated_leaf_decided`: the same for a negated leaf and its rule, and so for all rows of a flat query.
-/

namespace LogAnalysis

open Condition (passes)

inductive Operator.Opposite : Operator → Operator → Prop
  | contains : Opposite contains notContains
  | notContains : Opposite notContains contains
  | equals : Opposite equals notEquals
  | notEquals : Opposite notEquals equals
  | empty : Opposite empty notEmpty
  | notEmpty : Opposite notEmpty empty

theorem Operator.name_injective : Function.Injective Operator.name := fun a b same => by
  have found := Operator.ofName?_name a
  rw [same, Operator.ofName?_name b] at found
  exact (Option.some.inj found).symm

theorem Query.complement?_eq_some {name opposite : String} (complement : complement? name = some opposite) :
    ∃ op other, Operator.Opposite op other ∧ name = op.name ∧ opposite = other.name := by
  unfold complement? at complement
  split at complement
  · exact ⟨_, _, .contains, rfl, (Option.some.inj complement).symm⟩
  · exact ⟨_, _, .notContains, rfl, (Option.some.inj complement).symm⟩
  · exact ⟨_, _, .equals, rfl, (Option.some.inj complement).symm⟩
  · exact ⟨_, _, .notEquals, rfl, (Option.some.inj complement).symm⟩
  · exact ⟨_, _, .empty, rfl, (Option.some.inj complement).symm⟩
  · exact ⟨_, _, .notEmpty, rfl, (Option.some.inj complement).symm⟩
  · contradiction

namespace Condition

/-! ## Decided conditions -/

def IsHeldByItem (found value : Value) : Prop :=
  (Operator.foldedItems found).any (Text.within (Operator.folded value)) =
    Text.within (Operator.folded value) (Operator.folded found)

def AreNumbers (found value : Value) : Prop :=
  ∃ x y, found.scalar.leadingNumber = .ok x ∧ value.leadingNumber = .ok y ∧ x.isNaN = false ∧ y.isNaN = false

def AreDaysAsTexts (clock : Calendar.Clock) (found value : Value) : Prop :=
  passes (Operator.dateTest clock (·.date = ·.date) found value) = (found.scalar.plain == value.plain)

/-- Exactly one of an operator and its opposite holds: the question is only whether something is there, or there are two
values, and the tests of the two operators tell the same of them. -/
def IsDecided (clock : Calendar.Clock) (registry : Option Registry) (name : String) (found value : Value)
    (op : Operator) : Prop :=
  let present := found.isEmpty = false ∧ Text.isBlankString value.plain = false
  let type := FieldType.of registry name found
  match op with
  | .empty | .notEmpty => True
  | .contains | .notContains => present ∧ (type = .array → IsHeldByItem found value)
  | .equals | .notEquals =>
    present ∧ match type with
      | .numeric => AreNumbers found (compared name .equals value)
      | .date => AreDaysAsTexts clock found (compared name .equals value)
      | .text | .array => True
  | _ => False

/-- The same for a condition on an entry. Something else than a text names no field, so that nothing is there; a list or
an object cannot be asked about at all, negated or not. -/
def IsDecidedFor (clock : Calendar.Clock) (registry : Option Registry) (e : Entry) (c : Condition) : Prop :=
  match c.field with
  | .text name =>
    let name := Entry.resolveName name
    ∃ op, c.operator = .text op.name ∧ IsDecided clock registry name (e.get name) c.value op
  | .list _ | .object _ => True
  | _ => c.operator = .text "empty" ∨ c.operator = .text "notEmpty"

/-! ## Tests -/

variable {clock : Calendar.Clock} {registry : Option Registry} {name : String} {found value : Value}

theorem test_of_fieldTest {op : Operator} {answer : Value → Bool}
    (asked : Operator.resolve? clock (.of registry name found) op = some (Operator.fieldTest answer))
    (missing : found.isEmpty = true → answer found = decide (op.name = "empty"))
    (present : found.isEmpty = false → answer found = decide (op.name = "notEmpty")) :
    test clock registry name found op.name value = answer found := by
  cases isEmpty : found.isEmpty with
  | true => rw [test_of_missing isEmpty, missing isEmpty]
  | false =>
      cases given : Text.isBlankString value.plain with
      | true => rw [test_of_blank isEmpty given, present isEmpty]
      | false => exact test_of_present isEmpty given name asked

theorem test_empty : test clock registry name found Operator.empty.name value = found.isEmpty :=
  test_of_fieldTest (Operator.resolve?_empty clock _) (fun missing => missing) fun present => present

theorem test_notEmpty : test clock registry name found Operator.notEmpty.name value = !found.isEmpty :=
  test_of_fieldTest (Operator.resolve?_notEmpty clock _) (congrArg (! ·)) (congrArg (! ·))

theorem test_of_absent (absent : ¬ (found.isEmpty = false ∧ Text.isBlankString value.plain = false)) {operator : String}
    (notEmpty : operator ≠ "notEmpty") (empty : operator ≠ "empty") :
    test clock registry name found operator value = false := by
  cases present : found.isEmpty with
  | true => rw [test_of_missing present, decide_eq_false empty]
  | false =>
      cases given : Text.isBlankString value.plain with
      | true => rw [test_of_blank present given, decide_eq_false notEmpty]
      | false => exact absurd ⟨present, given⟩ absent

theorem test_notContains_iff : test clock registry name found Operator.notContains.name value =
      !test clock registry name found Operator.contains.name value ↔
    IsDecided clock registry name found value .contains := by
  by_cases there : found.isEmpty = false ∧ Text.isBlankString value.plain = false
  · have opposite := test_of_present there.1 there.2 name (Operator.resolve?_notContains clock (.of registry _ _))
    have asked := test_of_present there.1 there.2 name (Operator.resolve?_contains clock (.of registry _ _))
    have sameValue : compared name .contains value = value ∧ compared name .notContains value = value := by
      constructor <;> simp [compared, comparesLevels, Operator.name]
    rw [sameValue.1] at asked
    rw [sameValue.2] at opposite
    simp only [asked, opposite, IsDecided, there, true_and]
    -- Only a list asks its items whether it contains a text; that it does not is asked of the whole.
    by_cases isArray : FieldType.of registry name found = .array
    · rw [if_pos isArray, imp_iff_right isArray]
      exact (Bool.not_inj_iff).trans eq_comm
    · rw [if_neg isArray, iff_true_right fun array => absurd array isArray]
      rfl
  · rw [test_of_absent there (by decide) (by decide), test_of_absent there (by decide) (by decide)]
    simp [IsDecided, there]

theorem passes_notEquals_numbers (a b : Value) :
    passes (Operator.numericTest (· != ·) a b) = !passes (Operator.numericTest (· == ·) a b) ↔ AreNumbers a b := by
  unfold Operator.numericTest AreNumbers
  cases a.scalar.leadingNumber with
  | error fault => simp [passes]
  | ok x =>
      cases b.leadingNumber with
      | error fault => simp [passes]
      | ok y =>
          simp only [Outcome.ok_bind, Outcome.pure_eq, passes]
          constructor
          · intro told
            refine ⟨x, y, rfl, rfl, ?_⟩
            revert told
            cases x.isNaN <;> cases y.isNaN <;> simp
          · rintro ⟨_, _, ⟨⟩, ⟨⟩, isNumber_x, isNumber_y⟩
            rw [isNumber_x, isNumber_y]
            rfl

theorem test_notEquals_iff : test clock registry name found Operator.notEquals.name value =
      !test clock registry name found Operator.equals.name value ↔
    IsDecided clock registry name found value .equals := by
  by_cases there : found.isEmpty = false ∧ Text.isBlankString value.plain = false
  · have opposite := test_of_present there.1 there.2 name (Operator.resolve?_notEquals clock (.of registry _ _))
    have asked := test_of_present there.1 there.2 name (Operator.resolve?_equals clock (.of registry _ _))
    have sameValue : compared name .notEquals value = compared name .equals value := by
      simp [compared, comparesLevels, Operator.name]
    rw [sameValue] at opposite
    simp only [asked, opposite, IsDecided, there, true_and]
    cases FieldType.of registry name found with
    | numeric => exact passes_notEquals_numbers _ _
    | date =>
        -- Days are compared for `equals` only, and texts for its opposite.
        show (!(found.scalar.plain == _)) = !passes _ ↔ _
        exact (Bool.not_inj_iff).trans eq_comm
    | text | array => exact iff_of_true rfl trivial
  · rw [test_of_absent there (by decide) (by decide), test_of_absent there (by decide) (by decide)]
    simp [IsDecided, there]

theorem eq_not_comm {a b : Bool} : a = !b ↔ b = !a := Bool.eq_not.trans (ne_comm.trans Bool.eq_not.symm)

theorem test_opposite_iff {op other : Operator} (opposite : op.Opposite other) :
    test clock registry name found other.name value = !test clock registry name found op.name value ↔
      IsDecided clock registry name found value op := by
  cases opposite with
  | contains => exact test_notContains_iff
  | notContains => exact eq_not_comm.trans test_notContains_iff
  | equals => exact test_notEquals_iff
  | notEquals => exact eq_not_comm.trans test_notEquals_iff
  | empty => exact iff_of_true (test_notEmpty.trans (congrArg _ test_empty.symm)) trivial
  | notEmpty => exact iff_of_true (by rw [test_empty, test_notEmpty, Bool.not_not]) trivial

/-! ## Entries -/

variable {e : Entry}

/-- Asking an entry for the opposite of a condition comes to negating the answer just if the condition is decided. -/
theorem holds_opposite_iff {op other : Operator} (opposite : op.Opposite other) (field value : Value) :
    holds clock registry e ⟨field, .text other.name, value⟩ =
        Query.Tree.holds clock registry e (.not (.rule ⟨field, .text op.name, value⟩)) ↔
      IsDecidedFor clock registry e ⟨field, .text op.name, value⟩ := by
  cases field with
  | text field =>
      have asked : IsDecidedFor clock registry e ⟨.text field, .text op.name, value⟩ ↔
          IsDecided clock registry (Entry.resolveName field) (e.get (Entry.resolveName field)) value op := by
        refine ⟨fun ⟨op', named, decided⟩ => ?_, fun decided => ⟨op, rfl, decided⟩⟩
        rwa [Operator.name_injective (Value.text.inj named)]
      rw [asked, ← test_opposite_iff opposite]
      exact ⟨Except.ok.inj, congrArg Except.ok⟩
  | list items | object members => exact iff_of_true rfl trivial
  | null | bool b | int n | float x =>
      have missing : decide (other.name = "empty") = !decide (op.name = "empty") ↔
          op.name = "empty" ∨ op.name = "notEmpty" := by cases opposite <;> decide
      simp only [IsDecidedFor, Value.text.injEq]
      exact Iff.trans ⟨Except.ok.inj, congrArg Except.ok⟩ missing

end Condition

/-! ## Queries -/

namespace Query

variable {clock : Calendar.Clock} {registry : Option Registry} {e : Entry}

theorem complemented_of_complement {c : Condition} {name opposite : String} (named : c.operator = .text name)
    (complement : complement? name = some opposite) : complemented c = .ok { c with operator := .text opposite } := by
  simp only [complemented, named, complement]

theorem IsTerm.opposed {c : Condition} (term : IsTerm c) (decided : c.IsDecidedFor clock registry e) :
    Opposed clock registry e c := by
  intro flat complement
  obtain ⟨field, operator, value⟩ := c
  obtain ⟨name, spelling, rfl, rfl⟩ := term.names
  simp only [complemented] at complement
  split at complement
  · next opposite found =>
      obtain rfl := Except.ok.inj complement
      obtain ⟨op, other, opposites, rfl, rfl⟩ := complement?_eq_some found
      exact congrArg passes ((Condition.holds_opposite_iff opposites (.text name) value).mpr decided)
  · simp [refuseFlat] at complement

theorem IsQuery.negated {t : Tree} (query : IsQuery t) {c : Condition} (member : c ∈ t.negated) : IsTerm c := by
  induction query with
  | rule term => simp [Tree.negated] at member
  | not query ih =>
      cases query with
      | rule term =>
          obtain rfl := List.mem_singleton.mp member
          exact term
      | not _ | both _ _ | either _ _ => exact ih member
  | both _ _ ihLeft ihRight | either _ _ ihLeft ihRight => exact (List.mem_append.mp member).elim ihLeft ihRight

/-- The rule that is put for a negated leaf tells of an entry what the leaf tells just if the condition is decided. So
the filter of a flat query keeps the rows that the query accepts, where its negated conditions are decided for each
row. -/
theorem negated_leaf_decided (clock : Calendar.Clock) (registry : Option Registry) :
    (∀ (e : Entry) (c : Condition) (name opposite : String), c.operator = .text name →
      complement? name = some opposite → ∃ flat, Tree.leaf (.not (.rule c)) = .ok (flat, true) ∧
        (Rule.admits clock registry e { condition := flat } = (Tree.not (.rule c)).holds clock registry e ↔
          c.IsDecidedFor clock registry e)) ∧
      ∀ (q : String) (t : Tree) (f : Filter) (rows : List Entry), parse q = .ok (some t) → flatten (some t) = .ok f →
        (∀ e ∈ rows, e.reindexed = e) → (∀ e ∈ rows, ∀ c ∈ t.negated, c.IsDecidedFor clock registry e) →
          KeepsRowsOf clock registry id rows t f := by
  constructor
  · intro e c name opposite named complement
    refine ⟨{ c with operator := .text opposite }, ?_, ?_⟩
    · rw [Tree.leaf, complemented_of_complement named complement]
      rfl
    · obtain ⟨field, operator, value⟩ := c
      obtain rfl : operator = .text name := named
      obtain ⟨op, other, opposites, rfl, rfl⟩ := complement?_eq_some complement
      exact Condition.holds_opposite_iff opposites field value
  · intro q t f rows parsed flat indexed decided
    have query := parse_isQuery parsed
    exact query.keepsRowsOf flat indexed fun e inRows c member =>
      (query.negated member).opposed (decided e inRows c member)

def quietTree : Tree :=
  .both (.not (.rule (compare "level".toList .contains "debug".toList))) (.rule (holding "disk".toList))

theorem isDecidedFor_diskEntry : Condition.IsDecidedFor (.ofSeconds 0 0) none diskEntry
    (compare "level".toList .contains "debug".toList) := by
  refine ⟨.contains, rfl, ⟨by decide, by decide⟩, fun array => ?_⟩
  have noList : FieldType.of none "level" (.text "ERROR") ≠ .array := by
    show (if (Value.text "ERROR").isNumber then FieldType.numeric else .text) ≠ .array
    split <;> decide
  exact absurd array noList

theorem negated_leaf_decided_disk :
    (∃ flat, Tree.leaf (.not (.rule (compare "level".toList .contains "debug".toList))) = .ok (flat, true) ∧
      (Rule.admits (.ofSeconds 0 0) none diskEntry { condition := flat } =
          (Tree.not (.rule (compare "level".toList .contains "debug".toList))).holds (.ofSeconds 0 0) none diskEntry ↔
        Condition.IsDecidedFor (.ofSeconds 0 0) none diskEntry (compare "level".toList .contains "debug".toList))) ∧
      Condition.IsDecidedFor (.ofSeconds 0 0) none diskEntry (compare "level".toList .contains "debug".toList) ∧
      parse "NOT level:debug disk" = .ok (some quietTree) ∧
      ∃ f, flatten (some quietTree) = .ok f ∧ KeepsRowsOf (.ofSeconds 0 0) none id [diskEntry] quietTree f := by
  have read : tokens "NOT level:debug disk" = .ok [⟨.keyword .not, "NOT", 0⟩,
      ⟨.term (compare "level".toList .contains "debug".toList), "level:debug", 4⟩,
      ⟨.term (holding "disk".toList), "disk", 16⟩] := by with_unfolding_all rfl
  have negated := Derives.operand (.not (.primary (.term (compare "level".toList .contains "debug".toList))))
  have parsed : parse "NOT level:debug disk" = .ok (some quietTree) :=
    (parse_of_scans (.of_tokens read)).mpr (.conjunction (.adjacent negated (.primary (.term (holding "disk".toList)))))
  have flat : flatten (some quietTree) = .ok (conjunctionFilter [
      (compare "level".toList .notContains "debug".toList, true), (holding "disk".toList, false)]) := rfl
  obtain ⟨leaves, queries⟩ := negated_leaf_decided (.ofSeconds 0 0) none
  refine ⟨leaves diskEntry _ "contains" "notContains" rfl rfl, isDecidedFor_diskEntry, parsed, _, flat,
    queries _ _ _ [diskEntry] parsed flat ?_ ?_⟩
  · intro e member
    obtain rfl := List.mem_singleton.mp member
    rfl
  · intro e inRows c member
    obtain rfl := List.mem_singleton.mp inRows
    obtain rfl := List.mem_singleton.mp member
    exact isDecidedFor_diskEntry

/-- The entry has no user, so that it does not satisfy a condition on one, and does not satisfy its opposite either. -/
theorem negated_missing_field :
    parse "NOT user:bob" = .ok (some (.not (.rule (compare "user".toList .contains "bob".toList)))) ∧
      (Tree.not (.rule (compare "user".toList .contains "bob".toList))).holds (.ofSeconds 0 0) none diskEntry =
        .ok true ∧
      Tree.leaf (.not (.rule (compare "user".toList .contains "bob".toList))) =
        .ok (compare "user".toList .notContains "bob".toList, true) ∧
      Rule.admits (.ofSeconds 0 0) none diskEntry { condition := compare "user".toList .notContains "bob".toList } =
        .ok false ∧
      ∃ f, flatten (some (.not (.rule (compare "user".toList .contains "bob".toList)))) = .ok f ∧
        (f.keep (.ofSeconds 0 0) none id [diskEntry]).outcome = .ok [] := by
  have read : tokens "NOT user:bob" = .ok [⟨.keyword .not, "NOT", 0⟩,
      ⟨.term (compare "user".toList .contains "bob".toList), "user:bob", 4⟩] := by with_unfolding_all rfl
  have negated := Derives.operand (.not (.primary (.term (compare "user".toList .contains "bob".toList))))
  refine ⟨(parse_of_scans (.of_tokens read)).mpr (.conjunction negated), rfl, rfl, rfl, _, rfl, rfl⟩

end Query

end LogAnalysis
