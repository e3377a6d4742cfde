import LogAnalysis.Proofs.Calls
import LogAnalysis.Proofs.Loading

/-!
# Sessions stay sound

Extraction keeps entries sound, whatever the patterns capture, as the index is put right after each extractor. Each load
and each call keeps a session sound, so that every session that can be reached is (`Session.Reached.entries_sound`).
-/

namespace LogAnalysis

/-! ## Extraction -/

namespace Extraction

open Entry (AreFields)

variable {clock : Calendar.Clock} {strategy : MergeStrategy}

theorem fieldsAfter_areFields {fields : Members Value} (areFields : AreFields fields) (capture : String × List String) :
    AreFields (fieldsAfter strategy fields capture) := by
  unfold fieldsAfter
  split
  · next isName =>
      split
      · exact areFields
      · exact areFields.put isName ⟨capture.2, rfl⟩
  · exact areFields

-- A capture alone leaves the index as it was, so that soundness holds again only after the last one.
theorem applyCaptures_isSound {e : Entry} (sound : e.IsSound) (captured : Members (List String)) :
    (applyCaptures clock strategy e captured).IsSound := by
  have areFields : AreFields (captured.foldl (fieldsAfter strategy) e.fields) :=
    List.foldlRecOn (motive := AreFields) captured _ sound.fields fun _ areFields capture _ =>
      fieldsAfter_areFields areFields capture
  rw [applyCaptures, foldl_applyCapture]
  exact Entry.isSound_reindexed areFields sound.raw

theorem runAll_isSound (extractors : List Extractor) {entries : List Entry} (sound : ∀ e ∈ entries, e.IsSound) :
    ∀ e ∈ (runAll clock strategy extractors entries).entries, e.IsSound := by
  obtain ⟨f, after, kept⟩ := runAll_map (R := fun e e' => e.IsSound → e'.IsSound) (fun _ => id)
    (fun _ _ _ first later sound => later (first sound)) (fun _ captured sound => applyCaptures_isSound sound captured)
    extractors entries
  rw [after]
  exact List.forall_mem_map.mpr fun e member => kept e (sound e member)

theorem runValues_isSound (strategy extractors : Value) {entries : List Entry} (sound : ∀ e ∈ entries, e.IsSound) :
    ∀ e ∈ (runValues clock strategy extractors entries).entries, e.IsSound := by
  unfold runValues
  dsimp only
  split
  · exact runAll_isSound _ sound
  · exact sound

end Extraction

/-! ## Sessions -/

namespace Session

/-- The entries are sound, and the view shows some of them. A table or JSON data that is still arriving has none. -/
structure IsSound (loading : Bool) (s : Session) : Prop where
  entries : ∀ e ∈ s.entries, e.IsSound
  opened : s.assembler.IsSound
  view : ∀ i ∈ s.view, i < s.entries.length
  unread : loading = true → s.format ≠ .log → s.entries = []

variable {clock : Calendar.Clock} {loading : Bool} {s : Session}

theorem isSound_new (limit : Int) : (new limit).IsSound true where
  entries := fun _ member => nomatch member
  opened := fun _ member => nomatch member
  view := fun _ member => nomatch member
  unread := fun _ _ => rfl

/-! ### Loads -/

theorem isSound_startParse (s : Session) (format : DocumentFormat) : (s.startParse format).IsSound true where
  entries := fun _ member => nomatch member
  opened := fun _ member => nomatch member
  view := fun _ member => nomatch member
  unread := fun _ _ => rfl

theorem feed_isSound (sound : s.IsSound loading) (chunk : String) : (s.feed clock chunk).1.IsSound loading := by
  unfold feed
  dsimp only
  cases format : s.format with
  | csv => exact ⟨sound.entries, sound.opened, sound.view, fun isLoading _ => sound.unread isLoading (by simp [format])⟩
  | json => exact ⟨sound.entries, sound.opened, sound.view, fun isLoading _ => sound.unread isLoading (by simp [format])⟩
  | log =>
      obtain ⟨opened, completed⟩ := Assembler.feed_isSound clock sound.opened chunk
      refine ⟨List.forall_mem_append.mpr ⟨sound.entries, completed⟩, opened, fun i member => ?_, ?_⟩
      · rw [List.length_append]
        exact Nat.lt_add_right _ (sound.view i member)
      · exact fun _ noLog => absurd rfl noLog

theorem sorted_valid {view : List Nat} (done : s.sorted = .ok view) : ∀ i ∈ view, i < s.entries.length := by
  obtain ⟨rows, sorted, rfl⟩ := Outcome.map_eq_ok.mp done
  obtain ⟨-, -, perm, -⟩ := SortOrder.rows_eq_ok sorted (pairwise_zipIdx s.entries)
  intro i member
  obtain ⟨row, inRows, rfl⟩ := List.mem_map.mp member
  exact List.snd_lt_of_mem_zipIdx (perm.mem_iff.mp inRows)

/-- A document that has arrived is sound if its entries are, also if its fields cannot be told or its entries cannot be
put in order. -/
theorem settle_isSound (entries : ∀ e ∈ s.entries, e.IsSound) (opened : s.assembler.IsSound)
    (view : ∀ i ∈ s.view, i < s.entries.length) : (s.settle clock).session.IsSound false := by
  unfold settle
  dsimp only
  split
  · exact ⟨entries, opened, view, fun impossible => nomatch impossible⟩
  · split
    · exact ⟨entries, opened, view, fun impossible => nomatch impossible⟩
    · next sorted => exact ⟨entries, opened, sorted_valid sorted, fun impossible => nomatch impossible⟩

theorem settle_read_isSound (sound : s.IsSound true) (unread : s.format ≠ .log) {entries : List Entry}
    (areSound : ∀ e ∈ entries, e.IsSound) (pending : List String) :
    (settle clock { s with entries, pending }).session.IsSound false := by
  refine settle_isSound areSound sound.opened fun i member => ?_
  have impossible := sound.view i member
  rw [sound.unread rfl unread] at impossible
  exact absurd impossible (Nat.not_lt_zero i)

theorem finishParse_isSound (sound : s.IsSound true) : (s.finishParse clock).session.IsSound false := by
  have notRead : s.IsSound false :=
    ⟨sound.entries, sound.opened, sound.view, fun impossible => nomatch impossible⟩
  unfold finishParse
  dsimp only
  split
  · next format =>
      split
      · exact notRead
      · split
        · exact notRead
        · next read => exact settle_read_isSound sound (by simp [format]) (Import.ofCsv_isSound read) []
  · next format =>
      split
      · exact notRead
      · split
        · exact notRead
        · next read => exact settle_read_isSound sound (by simp [format]) (Import.ofJson_isSound read) []
  · obtain ⟨closed, completed⟩ := Assembler.finish_isSound clock sound.opened ""
    refine settle_isSound (List.forall_mem_append.mpr ⟨sound.entries, completed⟩) closed fun i member => ?_
    rw [List.length_append]
    exact Nat.lt_add_right _ (sound.view i member)

/-! ### Calls -/

theorem rowsAt_forall {P : Entry → Prop} (holds : ∀ e ∈ s.entries, P e) (positions : List Nat) :
    ∀ e ∈ (s.rowsAt positions).map (·.1), P e := by
  intro e member
  obtain ⟨row, inRows, rfl⟩ := List.mem_map.mp member
  exact holds row.1 (List.mem_of_getElem? (mem_rowsAt inRows))

theorem length_replace (entries : List Entry) (changes : List (Nat × Entry)) :
    (replace entries changes).length = entries.length := by
  unfold replace
  rw [Array.length_toList]
  refine List.foldlRecOn (motive := fun table : Array Entry => table.size = entries.length) changes _ List.size_toArray
    fun table size change _ => ?_
  exact Array.size_setIfInBounds.trans size

theorem replace_forall {P : Entry → Prop} {entries : List Entry} {changes : List (Nat × Entry)}
    (holds : ∀ e ∈ entries, P e) (changed : ∀ c ∈ changes, P c.2) : ∀ e ∈ replace entries changes, P e := by
  unfold replace
  refine List.foldlRecOn (motive := fun table : Array Entry => ∀ e ∈ table.toList, P e) changes _ holds
    fun table inTable change member => ?_
  intro e inChanged
  rw [Array.toList_setIfInBounds] at inChanged
  rcases List.mem_or_eq_of_mem_set inChanged with inTable' | rfl
  · exact inTable e inTable'
  · exact changed change member

theorem extract_isSound (sound : s.IsSound loading) (onlyView : Bool) {extraction : List Entry → Extraction.Pass}
    (keeps : ∀ {entries}, (∀ e ∈ entries, e.IsSound) → ∀ e ∈ (extraction entries).entries, e.IsSound) :
    (s.extract clock onlyView extraction).session.IsSound loading := by
  let pass := extraction (s.inScope onlyView)
  have areMade : ∀ c ∈ ((s.rowsAt (s.scopePositions onlyView)).map (·.2)).zip pass.entries, c.2.IsSound := fun c member =>
    keeps (rowsAt_forall sound.entries _) c.2 (List.of_mem_zip member).2
  have isMade : (s.withPass onlyView pass).IsSound loading := by
    refine ⟨replace_forall sound.entries areMade, sound.opened, fun i member => ?_, fun isLoading unread => ?_⟩
    · rw [withPass, length_replace]
      exact sound.view i member
    · refine List.eq_nil_of_length_eq_zero ?_
      rw [withPass, length_replace, sound.unread isLoading unread]
      rfl
  rcases extract_cases clock s onlyView extraction with
    ⟨fault, -, ended⟩ | ⟨result, -, ⟨fault, -, ended⟩ | ⟨registry, -, ended⟩⟩
  · rw [ended]
    exact isMade
  · rw [ended]
    exact ⟨isMade.entries, isMade.opened, isMade.view, isMade.unread⟩
  · rw [ended]
    exact ⟨isMade.entries, isMade.opened, isMade.view, isMade.unread⟩

theorem applyFilters_isSound (sound : s.IsSound loading) (filter : Option Filter) (search : Option Search)
    (order : Option SortOrder) : (s.applyFilters clock filter search order).session.IsSound loading := by
  cases outcome : (s.applyFilters clock filter search order).outcome with
  | error fault =>
      rw [applyFilters_failed outcome]
      exact ⟨sound.entries, sound.opened, sound.view, sound.unread⟩
  | ok found =>
      obtain ⟨rows, chosen, -, session⟩ := applyFilters_eq_ok outcome
      obtain ⟨admitted, -, -⟩ := chosenRows_eq_ok (pairwise_zipIdx s.entries) chosen
      rw [session]
      refine ⟨sound.entries, sound.opened, fun i member => ?_, sound.unread⟩
      obtain ⟨row, inRows, rfl⟩ := List.mem_map.mp member
      exact List.snd_lt_of_mem_zipIdx ((admitted row).mp inRows).1

theorem perform_isSound (sound : s.IsSound loading) (c : Call) : (c.perform clock s).1.IsSound loading := by
  cases c with
  | applyFilters filter search order => exact applyFilters_isSound sound filter search order
  | applyDescribed structured search order =>
      unfold Call.perform
      dsimp only
      split
      · exact applyFilters_isSound sound _ search order
      · exact sound
  | applyQueryText text order =>
      simp only [Call.perform, ended_fst, applyQueryText]
      split
      · exact sound
      · exact applyFilters_isSound sound _ _ order
  | runExtractors extractors onlyView strategy =>
      simp only [Call.perform, ended_fst, runExtractors]
      exact extract_isSound sound onlyView (Extraction.runValues_isSound strategy extractors)
  | page number perPage => exact sound

/-! ### Sessions that can be reached -/

/-- The sessions that loads and calls lead to, at any times. Whether a document is awaited tells if it may be said to have
arrived. -/
inductive Reached : (loading : Bool) → Session → Prop
  | new (limit : Int) : Reached true (new limit)
  | startParse {loading : Bool} {s : Session} (reached : Reached loading s) (format : DocumentFormat) :
      Reached true (s.startParse format)
  | feed {loading : Bool} {s : Session} (reached : Reached loading s) (clock : Calendar.Clock) (chunk : String) :
      Reached loading (s.feed clock chunk).1
  | finishParse {s : Session} (reached : Reached true s) (clock : Calendar.Clock) :
      Reached false (s.finishParse clock).session
  | call {loading : Bool} {s : Session} (reached : Reached loading s) (clock : Calendar.Clock) (c : Call) :
      Reached loading (c.perform clock s).1

theorem Reached.loadText (reached : Reached loading s) (clock : Calendar.Clock) (text : String)
    (format : DocumentFormat) : Reached false (s.loadText clock text format).session :=
  .finishParse (.feed (.startParse reached format) clock text) clock

theorem Reached.isSound (reached : Reached loading s) : s.IsSound loading := by
  induction reached with
  | new limit => exact isSound_new limit
  | startParse reached format ih => exact isSound_startParse _ format
  | feed reached clock chunk ih => exact feed_isSound ih chunk
  | finishParse reached clock ih => exact finishParse_isSound ih
  | call reached clock c ih => exact perform_isSound ih c

end Session

end LogAnalysis
