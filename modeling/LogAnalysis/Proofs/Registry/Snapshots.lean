import LogAnalysis.Proofs.Registry.Calls
import Mathlib.Order.Basic
import Mathlib.Data.String.Basic

/-!
# Snapshots of a registry

A registry that has only seen samples is restored from its snapshot as it was, so that nothing that is asked of it later can
tell it from the one that was told.

* `Descriptor.ofValue_toValue`: a descriptor within the limit for samples, with its unique texts in order, is described
  completely by its object.
* `Registry.IsSound.respond` (one call) and `Registry.after_isSound` (whole runs): registration makes no other descriptors.
* `Registry.restored_from_snapshot`: the registry after any calls, its snapshot, and the calls after it.
-/

namespace LogAnalysis

/-! ## Texts in order -/

namespace Descriptor

variable {s t : String} {texts : List String}

theorem mem_insertText : t ∈ insertText s texts ↔ t = s ∨ t ∈ texts := by
  induction texts with
  | nil => simp [insertText]
  | cons u rest ih =>
      unfold insertText
      split
      · next same => simp [same]
      · split
        · simp
        · rw [List.mem_cons, List.mem_cons, ih, or_left_comm]

theorem insertText_ascending (ascending : texts.Pairwise (· < ·)) : (insertText s texts).Pairwise (· < ·) := by
  induction texts with
  | nil => exact List.pairwise_singleton _ s
  | cons u rest ih =>
      obtain ⟨first, later⟩ := List.pairwise_cons.mp ascending
      unfold insertText
      split
      · exact ascending
      · next differ =>
          split
          · next before =>
              exact List.pairwise_cons.mpr ⟨List.forall_mem_cons.mpr ⟨before, fun t member => before.trans (first t member)⟩,
                ascending⟩
          · next notBefore =>
              have after : u < s := lt_of_le_of_ne (not_lt.mp notBefore) (Ne.symm differ)
              refine List.pairwise_cons.mpr ⟨fun t member => ?_, ih later⟩
              rcases mem_insertText.mp member with rfl | member
              · exact after
              · exact first t member

theorem insertText_of_last (last : ∀ t ∈ texts, t < s) : insertText s texts = texts ++ [s] := by
  induction texts with
  | nil => rfl
  | cons u rest ih =>
      obtain ⟨before, later⟩ := List.forall_mem_cons.mp last
      rw [insertText, if_neg before.ne', if_neg before.asymm, ih later, List.cons_append]

/-! ## Descriptors and their objects -/

variable {capacity : Nat} {d : Descriptor}

structure IsOrdinary (capacity : Nat) (d : Descriptor) : Prop where
  samples : d.samples.length ≤ capacity
  unique : d.unique.Pairwise (· < ·)
  others : d.others = []

theorem isOrdinary_new (capacity : Nat) (name : String) : IsOrdinary capacity { name } :=
  ⟨Nat.zero_le _, List.Pairwise.nil, rfl⟩

theorem length_latest_le {α : Type} (capacity : Nat) (xs : List α) : (latest capacity xs).length ≤ capacity := by
  rw [latest, List.length_drop]
  omega

theorem latest_of_short {α : Type} {xs : List α} (short : xs.length ≤ capacity) : latest capacity xs = xs := by
  rw [latest, Nat.sub_eq_zero_of_le short, List.drop_zero]

theorem IsOrdinary.addSamples (ordinary : d.IsOrdinary capacity) (clock : Calendar.Clock) (values : List Value) :
    (d.addSamples clock capacity values).IsOrdinary capacity := by
  have ascending : (values.foldl addSample d).unique.Pairwise (· < ·) :=
    List.foldlRecOn (motive := fun d' : Descriptor => d'.unique.Pairwise (· < ·)) values _ ordinary.unique
      fun d' ascending v _ => by
        cases v with
        | null => exact ascending
        | _ => exact insertText_ascending ascending
  obtain ⟨type, isArray, isNumeric, isDate, inferred⟩ := exists_inferred clock { values.foldl addSample d with
    samples := latest capacity (values.foldl addSample d).samples }
  refine ⟨?_, ?_, (d.addSamples_keeps clock capacity values).2.trans ordinary.others⟩
  · rw [Descriptor.addSamples, inferred]
    exact length_latest_le _ _
  · rw [Descriptor.addSamples, inferred]
    exact ascending

theorem ofName?_name (t : FieldType) : FieldType.ofName? t.name = some t := by
  cases t <;> decide

theorem addUnique_texts {later : List String} (ascending : (d.unique ++ later).Pairwise (· < ·)) :
    (later.map Value.text).foldlM addUnique d = .ok { d with unique := d.unique ++ later } := by
  induction later generalizing d with
  | nil =>
      rw [List.append_nil]
      rfl
  | cons s rest ih =>
      have last : ∀ t ∈ d.unique, t < s := fun t member =>
        (List.pairwise_append.mp ascending).2.2 t member s List.mem_cons_self
      have step : addUnique d (.text s) = .ok { d with unique := d.unique ++ [s] } := by
        rw [addUnique, insertText_of_last last]
      have others := ih (d := { d with unique := d.unique ++ [s] }) (by simpa using ascending)
      rw [List.map_cons, List.foldlM_cons, step, Outcome.ok_bind, others, List.append_assoc, List.singleton_append]

theorem ofValue_toValue (ordinary : d.IsOrdinary capacity) {limit : Int} (fits : sampleCapacity limit = .ok capacity) :
    ofValue limit d.toValue = .ok d := by
  obtain ⟨name, type, samples, unique, others, isArray, isNumeric, isDate⟩ := d
  obtain ⟨short, ascending, noOthers⟩ := ordinary
  obtain rfl : others = [] := noOthers
  have inOrder : uniqueValues { name, type, samples, unique, isArray, isNumeric, isDate } = unique.map .text := by
    simp [uniqueValues]
  have kept : latest capacity samples = samples := latest_of_short short
  let members : Members Value := [("name", .text name), ("type", .text type.name), ("samples", .list samples),
    ("unique_values", .list (unique.map .text)), ("is_array", .bool isArray), ("is_numeric", .bool isNumeric),
    ("is_date", .bool isDate)]
  have typed : typeOf members = .ok type := by
    rw [typeOf, show Members.get? members "type" = some (.text type.name) from rfl]
    simp [ofName?_name]
  rw [ofValue, toValue, inOrder]
  rw [show Value.toMembers (.object members) = .ok members from rfl, Outcome.ok_bind,
    show Value.listMember members "samples" = .ok samples from rfl, Outcome.ok_bind, fits, Outcome.ok_bind,
    show Value.require "name" (.object members) = .ok (.text name) from rfl, Outcome.ok_bind,
    show Entry.asText (.text name) = .ok name from rfl, Outcome.ok_bind, typed, Outcome.ok_bind, kept,
    show Value.listMember members "unique_values" = .ok (unique.map .text) from rfl, Outcome.ok_bind]
  exact addUnique_texts ascending

end Descriptor

/-! ## Registries and their snapshots -/

namespace Registry

variable {clock : Calendar.Clock} {r r' : Registry}

structure IsSound (r : Registry) : Prop where
  ordinary : ∀ f ∈ r.fields, ∃ capacity, sampleCapacity r.limit = .ok capacity ∧ f.2.IsOrdinary capacity
  named : ∀ f ∈ r.fields, f.2.name = f.1
  distinct : (Members.names r.fields).Nodup

theorem isSound_of_nil (none : r.fields = []) : r.IsSound where
  ordinary := by simp [none]
  named := by simp [none]
  distinct := by simp [none, Members.names]

theorem IsSound.register (sound : r.IsSound) {name : String} {samples : List Value}
    (done : r.register clock name samples = .ok r') : r'.IsSound := by
  obtain ⟨capacity, fits, whole⟩ := Outcome.bind_eq_ok.mp done
  obtain rfl := Except.ok.inj whole
  have before : ((r.get? name).getD { name }).IsOrdinary capacity ∧ ((r.get? name).getD { name }).name = name := by
    cases known : r.get? name with
    | none => exact ⟨Descriptor.isOrdinary_new capacity name, rfl⟩
    | some d =>
        have member := Members.mem_of_get? known
        obtain ⟨_, fits', ordinary⟩ := sound.ordinary _ member
        obtain rfl := Except.ok.inj (fits.symm.trans fits')
        exact ⟨ordinary, sound.named _ member⟩
  have after := before.1.addSamples clock samples
  refine ⟨fun f member => ?_, fun f member => ?_, Members.nodup_names_put sound.distinct _ _⟩
  · rcases Members.mem_put member with earlier | rfl
    · exact sound.ordinary f earlier
    · exact ⟨capacity, fits, after⟩
  · rcases Members.mem_put member with earlier | rfl
    · exact sound.named f earlier
    · rfl

theorem isSound_rebuild {entries : List Entry} (done : r.rebuild clock entries = .ok r') : r'.IsSound :=
  rebuild_keeps (fun _ _ _ _ _ sound registered => sound.register registered) (isSound_of_nil rfl) done

theorem load_toValue {limit : Int} {earlier later : Members Descriptor}
    (sound : IsSound { limit, fields := earlier ++ later }) :
    load { limit, fields := earlier } (later.map fun f => f.2.toValue) =
      ({ limit, fields := earlier ++ later }, .ok ()) := by
  induction later generalizing earlier with
  | nil => rw [List.append_nil, List.map_nil, load]
  | cons f rest ih =>
      have member : f ∈ earlier ++ f :: rest := List.mem_append_right _ List.mem_cons_self
      obtain ⟨capacity, fits, ordinary⟩ := sound.ordinary f member
      have described : Descriptor.ofValue limit f.2.toValue = .ok f.2 := Descriptor.ofValue_toValue ordinary fits
      have new : f.2.name ∉ Members.names earlier := by
        rw [sound.named f member]
        intro present
        have distinct := sound.distinct
        rw [Members.names, List.map_append, List.nodup_append] at distinct
        exact distinct.2.2 f.1 present f.1 List.mem_cons_self rfl
      have added : Registry.put { limit, fields := earlier } f.2 = { limit, fields := earlier ++ [f] } := by
        rw [put, Members.put_of_new new, sound.named f member]
      rw [List.map_cons, load, described]
      simp only [added]
      rw [ih (by simpa using sound), List.append_assoc, List.singleton_append]

theorem IsSound.ofSnapshot_toValue (sound : r.IsSound) : ofSnapshot r.limit r.toValue = .ok r := by
  have loaded : load { limit := r.limit } (r.fields.map fun f => f.2.toValue) = (r, .ok ()) := load_toValue sound
  have restored : restore { limit := r.limit } r.toValue = (r, .ok ()) := by
    obtain ⟨limit, fields⟩ := r
    cases fields with
    | nil => rfl
    | cons f rest => exact loaded
  rw [ofSnapshot, restored]
  rfl

theorem IsSound.snapshot_eq (sound : r.IsSound) : r.snapshot = .ok r.toValue := by
  refine HoldsTexts.snapshot_eq fun f member => ?_
  obtain ⟨_, -, ordinary⟩ := sound.ordinary f member
  exact ordinary.others

/-! ## Runs of calls -/

theorem IsSound.respond (sound : r.IsSound) (clock : Calendar.Clock) (c : Call) : (c.respond clock r).1.IsSound := by
  rcases respond_cases clock r c with same | ⟨name, samples, done⟩ | ⟨entries, done⟩ | forgotten
  · rw [same]
    exact sound
  · exact sound.register done
  · exact isSound_rebuild done
  · rw [forgotten]
    exact isSound_of_nil rfl

theorem after_isSound (sound : r.IsSound) (calls : List (Calendar.Clock × Call)) : (r.after calls).IsSound := by
  induction calls generalizing r with
  | nil => exact sound
  | cons c rest ih => exact ih (sound.respond c.1 c.2)

/-- After any calls on a new registry, it can be told, and the snapshot makes a registry with the same names in the same order and
the same descriptors, of which every further run of calls gives the same replies and leaves the same. -/
theorem restored_from_snapshot (limit : Int) (calls : List (Calendar.Clock × Call)) :
    let r := ({ limit } : Registry).after calls
    ∃ data restored, r.snapshot = .ok data ∧ ofSnapshot limit data = .ok restored ∧
      restored.names = r.names ∧ (∀ name, restored.get? name = r.get? name) ∧
      ∀ further, restored.replies further = r.replies further ∧
        (restored.after further).names = (r.after further).names := by
  intro r
  have sound : r.IsSound := after_isSound (isSound_of_nil rfl) calls
  have restored := sound.ofSnapshot_toValue
  rw [show r.limit = limit from limit_after _ calls] at restored
  exact ⟨r.toValue, r, sound.snapshot_eq, restored, rfl, fun _ => rfl, fun _ => ⟨rfl, rfl⟩⟩

end Registry

end LogAnalysis
