import LogAnalysis.Proofs.Json.Values
import LogAnalysis.Proofs.Outcome
import LogAnalysis.Proofs.Statistics.Counts
import LogAnalysis.Statistics.Field

/-!
# Different values counted

The values of a field are told apart by their JSON text, and JSON text reads back as the value. So the statistics of a field
that holds lists of texts count just the different lists (`Statistics.Field.ofView_cardinality`).
-/

namespace LogAnalysis.Statistics.Field

variable {clock : Calendar.Clock} {view : List Entry} {name : String}

theorem sortedItems_texts (texts : List String) : Json.sortedItems (texts.map .text) = texts.map .text := by
  induction texts with
  | nil => rfl
  | cons text texts ih =>
      rw [List.map_cons, Json.sortedItems, ih]
      rfl

theorem keyOf_texts_injective : Function.Injective fun texts : List String => keyOf (.list (texts.map .text)) := by
  intro texts others same
  have read (texts : List String) :
      Json.parse (keyOf (.list (texts.map .text))) = .ok (.list (texts.map .text)) := by
    rw [keyOf, Json.sorted, sortedItems_texts]
    apply Json.parse_write Json.spaced_separates
    exact .list (List.forall_mem_map.mpr fun text _ => .text text)
  have values : Except.ok (Value.list (texts.map .text)) = .ok (.list (others.map .text)) :=
    (read texts).symm.trans ((congrArg Json.parse same).trans (read others))
  apply List.map_injective_iff.mpr (fun _ _ => Value.text.inj)
  exact Value.list.inj (Except.ok.inj values)

/-- These are the lists of texts that the entries hold in the field, with the empty list where there is none. -/
def HoldsLists (view : List Entry) (name : String) (texts : Entry → List String) : Prop :=
  ∀ e ∈ view, Members.get? e.fields name = none ∧ texts e = [] ∨
    Members.get? e.fields name = some (.list ((texts e).map .text))

variable {texts : Entry → List String}

theorem values_eq_map (extracted : name ∉ Entry.reservedNames) (holds : HoldsLists view name texts) :
    (view.map fun e => valueOf e name).filter (!·.isEmpty) =
      ((view.map texts).filter (· ≠ [])).map fun texts => .list (texts.map .text) := by
  have field (e : Entry) : valueOf e name = Value.ofOption (Members.get? e.fields name) := by
    simp [valueOf, extracted]
  induction view with
  | nil => rfl
  | cons e view ih =>
      obtain ⟨first, others⟩ := List.forall_mem_cons.mp holds
      rw [List.map_cons, List.map_cons, List.filter_cons, List.filter_cons, ih others, field]
      rcases first with ⟨absent, none⟩ | held
      · simp [absent, none, Value.ofOption, Value.isEmpty]
      · cases list : texts e <;> simp [held, list, Value.ofOption, Value.isEmpty]

theorem ofView_eq_ok {type : Option FieldType} {field : Field} (told : ofView clock view name type = .ok field) :
    let values := (view.map fun e => valueOf e name).filter (!·.isEmpty)
    field.withValue = values.length ∧ field.withoutValue = view.length - values.length ∧
      field.unique = distinct (values.map keyOf) := by
  cases type with
  | none =>
      obtain rfl := Except.ok.inj told
      exact ⟨rfl, rfl, rfl⟩
  | some type =>
      cases type with
      | numeric | date =>
          obtain ⟨summary, -, result⟩ := Outcome.bind_eq_ok.mp told
          obtain rfl := Except.ok.inj result
          exact ⟨rfl, rfl, rfl⟩
      | text | array =>
          obtain rfl := Except.ok.inj told
          exact ⟨rfl, rfl, rfl⟩

/-- Of lists of texts, the statistics count all that are not empty, and the different ones among them. -/
theorem ofView_cardinality {type : Option FieldType} {field : Field} (extracted : name ∉ Entry.reservedNames)
    (holds : HoldsLists view name texts) (told : ofView clock view name type = .ok field) :
    field.withValue + field.withoutValue = view.length ∧
      field.withValue = view.countP (fun e => texts e ≠ []) ∧
      field.unique = ((view.map texts).filter (· ≠ [])).toFinset.card := by
  obtain ⟨withValue, withoutValue, unique⟩ := ofView_eq_ok told
  have held : ((view.map texts).filter (· ≠ [])).length = view.countP fun e => texts e ≠ [] := by
    rw [← List.countP_eq_length_filter, List.countP_map]
    rfl
  have most : view.countP (fun e => texts e ≠ []) ≤ view.length := List.countP_le_length
  rw [values_eq_map extracted holds, List.length_map, held] at withValue withoutValue
  rw [values_eq_map extracted holds, List.map_map, Function.comp_def, distinct_map keyOf_texts_injective] at unique
  exact ⟨by omega, withValue, unique⟩

/-- Lists that look alike in JSON text, an empty one, and an entry without the field. -/
def alike : List (List String) := [["a", "b"], ["a\", \"b"], ["a", "b"], []]

def alikeEntries : List Entry :=
  .make 5 "" "" "" "" [] :: alike.map fun tags => .make 1 "" "" "" "" [("tags", .list (tags.map .text))]

def tagsOf (e : Entry) : List String :=
  match Members.get? e.fields "tags" with
  | some (.list items) => items.map Value.display
  | _ => []

theorem ofView_cardinality_alike : "tags" ∉ Entry.reservedNames ∧ HoldsLists alikeEntries "tags" tagsOf ∧
    ∃ field, ofView (.ofSeconds 0 0) alikeEntries "tags" (some .array) = .ok field ∧
      field.withValue + field.withoutValue = 5 ∧ field.withValue = 3 ∧ field.unique = 2 := by
  have extracted : "tags" ∉ Entry.reservedNames := by decide
  have holds : HoldsLists alikeEntries "tags" tagsOf := by
    intro e member
    rcases List.mem_cons.mp member with rfl | later
    · exact .inl ⟨rfl, rfl⟩
    · obtain ⟨tags, -, rfl⟩ := List.mem_map.mp later
      right
      simp [tagsOf, Entry.make, Members.get?, Value.display, Function.comp_def]
  obtain ⟨field, told⟩ : ∃ field, ofView (.ofSeconds 0 0) alikeEntries "tags" (some .array) = .ok field := ⟨_, rfl⟩
  obtain ⟨sum, withValue, unique⟩ := ofView_cardinality extracted holds told
  refine ⟨extracted, holds, field, told, sum, withValue.trans ?_, unique.trans ?_⟩
  · decide
  · decide

end LogAnalysis.Statistics.Field
