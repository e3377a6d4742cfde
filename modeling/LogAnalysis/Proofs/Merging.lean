import LogAnalysis.Proofs.Extraction

/-!
# What a field holds after a pass

Several extractors may capture one field, and an entry may have had it before. Which capture counts is a matter of each
entry by itself: the last one, or the first one if the field was not there (`Extraction.get?_changedByAll`). The pass reports
the fields that were captured somewhere, each once (`Extraction.runAll_merged`).
-/

namespace LogAnalysis

namespace Extractor

def spans (x : Extractor) (raw : String) : List (String × String) :=
  match x.pattern with
  | .text source =>
    match Pattern.compile source {} with
    | .ok p => Pattern.spans p raw
    | .error _ => []
  | _ => []

/-- The texts that a named group has in a raw text, over all matches in their order. -/
def texts (x : Extractor) (name raw : String) : List String := Pattern.textsNamed name (x.spans raw)

/-- What the extractor has to offer for a field of an entry with this raw text. -/
def captured? (x : Extractor) (name raw : String) : Option Value :=
  if x.texts name raw = [] then none else some (.list ((x.texts name raw).map .text))

variable (x : Extractor) (name raw : String)

theorem found_eq : x.found raw =
    (x.spans raw).foldl (fun captured (group, text) => Pattern.addCapture captured group text) [] := by
  unfold found spans
  cases x.pattern with
  | text source =>
      dsimp only
      cases Pattern.compile source {} with
      | ok p => rfl
      | error refusal => rfl
  | _ => rfl

theorem get?_found :
    Members.get? (x.found raw) name = if x.texts name raw = [] then none else some (x.texts name raw) := by
  rw [found_eq, Pattern.get?_foldl_addCapture]
  rfl

theorem nodup_names_found : (Members.names (x.found raw)).Nodup := by
  rw [found_eq]
  exact Pattern.nodup_names_foldl_addCapture (x.spans raw)

theorem mem_names_found : name ∈ Members.names (x.found raw) ↔ x.texts name raw ≠ [] := by
  rw [← not_iff_not, ← Members.get?_eq_none_iff, get?_found]
  by_cases none : x.texts name raw = [] <;> simp [none]

theorem map_get?_found :
    (Members.get? (x.found raw) name).map (fun texts => Value.list (texts.map .text)) = x.captured? name raw := by
  rw [get?_found, captured?]
  split <;> rfl

variable {x}

theorem stop?_of_meaningful (meaningful : x.isRefused = false) : x.stop? = none := by
  unfold isRefused at meaningful
  unfold stop?
  cases pattern : x.pattern with
  | text source =>
      rw [pattern] at meaningful
      dsimp only at meaningful ⊢
      cases compiled : Pattern.compile source {} with
      | ok p => rfl
      | error refusal =>
          rw [compiled] at meaningful
          contradiction
  | _ => rfl

end Extractor

/-- What a field holds after several captures in turn, if there was something before. -/
def MergeStrategy.settle? (strategy : MergeStrategy) (before : Option Value) (captured : List Value) : Option Value :=
  match strategy with
  | .firstWins => before.or captured.head?
  | .lastWins | .merge => captured.getLast?.or before

namespace Extraction

variable {clock : Calendar.Clock} {strategy : MergeStrategy}

/-! ## Fields of an entry -/

theorem get?_changed (x : Extractor) (e : Entry) {name : String} (isName : Entry.isFieldName name = true) :
    Members.get? (changed clock strategy x.found e).fields name =
      strategy.merge? (Members.get? e.fields name) (x.captured? name e.raw) := by
  rw [← Extractor.map_get?_found]
  unfold changed
  split
  · next nothing =>
      rw [nothing]
      exact (merge?_none _).symm
  · rw [applyCaptures, foldl_applyCapture]
    exact get?_foldl_fieldsAfter (x.nodup_names_found e.raw) e.fields isName

theorem get?_changed_of_part (x : Extractor) (e : Entry) {name : String} (isPart : Entry.isFieldName name = false) :
    Members.get? (changed clock strategy x.found e).fields name = Members.get? e.fields name := by
  unfold changed
  split
  · rfl
  · rw [applyCaptures, foldl_applyCapture]
    exact get?_foldl_fieldsAfter_of_part _ e.fields isPart

theorem foldl_merge? {α : Type} (captured? : α → Option Value) (xs : List α) (before : Option Value) :
    xs.foldl (fun before x => strategy.merge? before (captured? x)) before =
      strategy.settle? before (xs.filterMap captured?) := by
  induction xs generalizing before with
  | nil => cases strategy <;> simp [MergeStrategy.settle?]
  | cons x rest ih =>
      rw [List.foldl_cons, ih]
      cases captured : captured? x with
      | none => rw [merge?_none, List.filterMap_cons_none captured]
      | some v =>
          rw [List.filterMap_cons_some captured]
          cases strategy with
          | firstWins => cases before <;> rfl
          | lastWins | merge =>
              simp only [MergeStrategy.settle?, MergeStrategy.merge?, List.getLast?_cons]
              cases (rest.filterMap captured?).getLast? <;> rfl

theorem get?_changedByAll (extractors : List Extractor) (e : Entry) {name : String}
    (isName : Entry.isFieldName name = true) :
    Members.get? (changedByAll clock strategy extractors e).fields name =
      strategy.settle? (Members.get? e.fields name) (extractors.filterMap (·.captured? name e.raw)) := by
  rw [← foldl_merge?]
  induction extractors generalizing e with
  | nil => rfl
  | cons x rest ih =>
      have later := ih (changed clock strategy x.found e)
      rw [get?_changed x e isName, changed_raw] at later
      exact later

theorem get?_changedByAll_of_part (extractors : List Extractor) (e : Entry) {name : String}
    (isPart : Entry.isFieldName name = false) :
    Members.get? (changedByAll clock strategy extractors e).fields name = Members.get? e.fields name := by
  induction extractors generalizing e with
  | nil => rfl
  | cons x rest ih => exact (ih _).trans (get?_changed_of_part x e isPart)

theorem mem_names_changedByAll {extractors : List Extractor} {e : Entry} {name : String}
    (present : name ∈ Members.names (changedByAll clock strategy extractors e).fields) :
    name ∈ Members.names e.fields ∨ Entry.isFieldName name = true ∧ ∃ x ∈ extractors, x.texts name e.raw ≠ [] := by
  refine or_iff_not_imp_left.mpr fun absent => ?_
  have before : Members.get? e.fields name = none := Members.get?_eq_none_iff.mpr absent
  have after : Members.get? (changedByAll clock strategy extractors e).fields name ≠ none := fun none =>
    Members.get?_eq_none_iff.mp none present
  cases isName : Entry.isFieldName name with
  | false =>
      rw [get?_changedByAll_of_part extractors e isName] at after
      exact absurd before after
  | true =>
      rw [get?_changedByAll extractors e isName, before] at after
      refine ⟨rfl, Classical.byContradiction fun nobody => after ?_⟩
      have nothing : extractors.filterMap (·.captured? name e.raw) = [] := by
        refine List.filterMap_eq_nil_iff.mpr fun x member => if_pos ?_
        exact not_not.mp fun some => nobody ⟨x, member, some⟩
      rw [nothing]
      cases strategy <;> rfl

theorem changedByAll_id (extractors : List Extractor) (e : Entry) :
    (changedByAll clock strategy extractors e).id = e.id := by
  refine changedByAll_related (R := fun e e' => e'.id = e.id) (fun _ => rfl)
    (fun _ _ _ first later => later.trans first) (fun e captured => ?_) extractors e
  rw [applyCaptures, foldl_applyCapture]
  rfl

/-! ## Reported names -/

theorem mem_fieldNames_tallyAfter (found : String → Members (List String)) (tally : Tally) (raw : String) {name : String} :
    name ∈ (tallyAfter found tally raw).fieldNames ↔
      name ∈ tally.fieldNames ∨ Entry.isFieldName name = true ∧ name ∈ Members.names (found raw) := by
  unfold tallyAfter
  split
  · next nothing => simp [nothing, Members.names]
  · rw [Entry.mem_foldl_addName, List.mem_filter, and_comm]

theorem mem_fieldNames_tallied (found : String → Members (List String)) (tally : Tally) (raws : List String)
    {name : String} : name ∈ (tallied found tally raws).fieldNames ↔
      name ∈ tally.fieldNames ∨ Entry.isFieldName name = true ∧ ∃ raw ∈ raws, name ∈ Members.names (found raw) := by
  induction raws generalizing tally with
  | nil => simp [tallied]
  | cons raw rest ih =>
      refine (ih (tallyAfter found tally raw)).trans ?_
      rw [mem_fieldNames_tallyAfter, List.exists_mem_cons_iff, and_or_left, or_assoc]

theorem mem_fieldNames_addAll {name : String} (r : Result) (tallies : List (Extractor × Tally)) :
    name ∈ (r.addAll tallies).fieldNames ↔ name ∈ r.fieldNames ∨ name ∈ tallies.flatMap (·.2.fieldNames) := by
  induction tallies generalizing r with
  | nil => simp [Result.addAll]
  | cons t rest ih =>
      have step : r.addAll (t :: rest) = (r.add t.1.id t.2).addAll rest := rfl
      rw [step, ih, Result.add, Entry.mem_foldl_addName, List.flatMap_cons, List.mem_append, or_assoc]

theorem nodup_fieldNames_addAll {r : Result} (distinct : r.fieldNames.Nodup) (tallies : List (Extractor × Tally)) :
    (r.addAll tallies).fieldNames.Nodup := by
  induction tallies generalizing r with
  | nil => exact distinct
  | cons t rest ih => exact ih (Entry.nodup_foldl_addName distinct)

theorem runAll_eq_ok {extractors : List Extractor} {entries : List Entry} {result : Result}
    (done : (runAll clock strategy extractors entries).outcome = .ok result) :
    ∃ ordered, Extractor.ordered extractors = .ok ordered ∧
      (runAll clock strategy extractors entries).entries =
        entries.map (changedByAll clock strategy (ordered.filter (·.enabled))) ∧
      result.fieldNames.Nodup ∧ ∀ name, name ∈ result.fieldNames ↔
        Entry.isFieldName name = true ∧ ∃ e ∈ entries, ∃ x ∈ ordered.filter (·.enabled), x.texts name e.raw ≠ [] := by
  unfold runAll at done ⊢
  cases inOrder : Extractor.ordered extractors with
  | error fault =>
      rw [inOrder] at done
      contradiction
  | ok ordered =>
      rw [inOrder] at done
      dsimp only at done ⊢
      obtain ⟨after, outcome⟩ := @runFrom_eq clock strategy
        (ordered.filter (·.enabled)).length 0 {} entries (ordered.filter (·.enabled))
      rw [outcome] at done
      split at done
      · contradiction
      · next goesOn =>
          obtain rfl := Except.ok.inj done
          rw [applyAll_takeWhile (List.findSome?_eq_none_iff.mp goesOn), applyAll_eq] at after
          refine ⟨ordered, rfl, after, nodup_fieldNames_addAll List.nodup_nil _, fun name => ?_⟩
          rw [mem_fieldNames_addAll, applyAll_eq]
          simp only [List.flatMap_map, List.mem_flatMap, mem_fieldNames_tallied, List.mem_map, Extractor.mem_names_found]
          grind

/-! ## Passes -/

theorem exists_runAll {extractors ordered : List Extractor}
    (meaningful : ∀ x ∈ extractors, x.enabled = true → x.isRefused = false)
    (inOrder : Extractor.ordered extractors = .ok ordered) (entries : List Entry) :
    ∃ result, (runAll clock strategy extractors entries).outcome = .ok result := by
  have noneStops : ∀ x ∈ ordered.filter (·.enabled), x.stop? = none := by
    intro x member
    obtain ⟨inOrdered, enabled⟩ := List.mem_filter.mp member
    exact Extractor.stop?_of_meaningful (meaningful x (Extractor.mem_of_mem_ordered inOrder inOrdered) enabled)
  unfold runAll
  rw [inOrder]
  dsimp only
  rw [(runFrom_eq _ _ _ _ _).2, List.findSome?_eq_none_iff.mpr noneStops]
  exact ⟨_, rfl⟩

/-- The extractor of the numbers in a text, and that of the words, which runs first. -/
def numbers : Extractor := { pattern := .text "(?<n>\\d+)", order := some 2 }

def words : Extractor := { pattern := .text "(?<n>[a-z]+)", order := some 1 }

theorem ordered_numbers_words : Extractor.ordered [numbers, words] = .ok [words, numbers] := by
  have texts : ∀ x ∈ [numbers, words], ∃ s, x.created = .text s := by simp [numbers, words]
  rw [Extractor.ordered_of_texts texts, mergeSort_pair]
  rfl

end Extraction

end LogAnalysis
