import LogAnalysis.Entry
import LogAnalysis.Proofs.Members

/-!
# Entries that are sound

An entry is sound if its fields are lists of texts under names of their own, if there is raw text, and if the search index
belongs to its parts. Whatever builds an entry with `make` or puts its index right with `reindexed` has to care for fields
and raw text only.
-/

namespace LogAnalysis

namespace Value

def IsTexts (v : Value) : Prop := ∃ texts : List String, v = list (texts.map text)

theorem isTexts_map {α : Type} (f : α → String) (xs : List α) : (list (xs.map fun x => text (f x))).IsTexts :=
  ⟨xs.map f, by rw [List.map_map]; rfl⟩

end Value

namespace Entry

/-- Every member is a field: a list of texts under a name that no part of an entry has. -/
def AreFields (fields : Members Value) : Prop := ∀ f ∈ fields, isFieldName f.1 = true ∧ f.2.IsTexts

theorem areFields_nil : AreFields [] := fun _ member => nomatch member

theorem AreFields.put {fields : Members Value} (sound : AreFields fields) {name : String} {v : Value}
    (isName : isFieldName name = true) (texts : v.IsTexts) : AreFields (Members.put fields name v) := by
  intro f member
  rcases Members.mem_put member with member | rfl
  · exact sound f member
  · exact ⟨isName, texts⟩

theorem isFieldName_iff {name : String} :
    isFieldName name = true ↔ name ∉ ["id", "ts", "level", "message", "raw", "timestamp"] := by
  simp [isFieldName, reservedNames, and_assoc]

theorem AreFields.exists_texts {fields : Members Value} (sound : AreFields fields) :
    ∃ given : Members (List String), fields = given.map (fun f => (f.1, .list (f.2.map .text))) ∧
      ∀ f ∈ given, isFieldName f.1 = true := by
  induction fields with
  | nil => exact ⟨[], rfl, fun _ member => nomatch member⟩
  | cons f rest ih =>
      obtain ⟨given, whole, isName⟩ := ih fun g member => sound g (List.mem_cons_of_mem f member)
      obtain ⟨name, texts, value⟩ := sound f List.mem_cons_self
      refine ⟨(f.1, texts) :: given, ?_, List.forall_mem_cons.mpr ⟨name, isName⟩⟩
      rw [List.map_cons, ← whole, ← value]

theorem fieldTexts_texts (texts : List String) : fieldTexts (.list (texts.map .text)) = texts := by
  rw [fieldTexts, List.map_map]
  exact List.map_id texts

theorem indexText_texts (raw message : String) (fields : Members (List String)) :
    indexText raw message (fields.map fun f => (f.1, .list (f.2.map .text))) =
      Text.lowered (Text.joined " " (raw :: message :: fields.flatMap (·.2))) := by
  simp only [indexText, List.flatMap_map, fieldTexts_texts]

variable {known names : List String} {name : String}

theorem mem_foldl_addName : name ∈ names.foldl addName known ↔ name ∈ known ∨ name ∈ names := by
  induction names generalizing known with
  | nil => simp
  | cons first rest ih =>
      rw [List.foldl_cons, ih, addName, List.mem_cons]
      split
      · next present =>
          have inKnown := List.contains_iff_mem.mp present
          grind
      · grind

theorem nodup_foldl_addName (distinct : known.Nodup) : (names.foldl addName known).Nodup := by
  refine List.foldlRecOn (motive := List.Nodup) names _ distinct fun given distinct name _ => ?_
  unfold addName
  split
  · exact distinct
  · next absent =>
      exact List.nodup_append.mpr ⟨distinct, List.pairwise_singleton _ name, by grind⟩

structure IsSound (e : Entry) : Prop where
  fields : AreFields e.fields
  raw : e.raw ≠ ""
  index : e.searchIndex = indexText e.raw e.message e.fields

theorem isSound_make (id : Int) (timestamp level message : String) {raw : String} {fields : Members Value}
    (sound : AreFields fields) (nonempty : raw ≠ "") : (make id timestamp level message raw fields).IsSound :=
  ⟨sound, nonempty, rfl⟩

theorem isSound_reindexed {e : Entry} (sound : AreFields e.fields) (nonempty : e.raw ≠ "") : e.reindexed.IsSound :=
  ⟨sound, nonempty, rfl⟩

theorem IsSound.exists_texts {e : Entry} (sound : e.IsSound) : ∃ fields : Members (List String),
    e.fields = fields.map (fun f => (f.1, .list (f.2.map .text))) ∧
      (∀ f ∈ fields, f.1 ∉ ["id", "ts", "level", "message", "raw", "timestamp"]) ∧
      e.searchIndex = Text.lowered (Text.joined " " (e.raw :: e.message :: fields.flatMap (·.2))) ∧ e.raw ≠ "" := by
  obtain ⟨fields, whole, isName⟩ := sound.fields.exists_texts
  refine ⟨fields, whole, fun f member => isFieldName_iff.mp (isName f member), ?_, sound.raw⟩
  rw [sound.index, whole, indexText_texts]

end Entry

end LogAnalysis
