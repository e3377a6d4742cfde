import LogAnalysis.Statistics.Count
import Mathlib

/-!
# Equal things counted

Counting goes through things one by one. It comes to the different things in the order in which they first occur, each with
the number of its places (`Statistics.counts_eq_map`).
-/

namespace LogAnalysis.Statistics

variable {α : Type} [BEq α] {x : α} {xs : List α} {n : Nat}

theorem counts_append_singleton (xs : List α) (x : α) : counts (xs ++ [x]) = addCount x (counts xs) := by
  rw [counts, List.foldl_append]
  rfl

theorem sum_addCount (x : α) (done : List (α × Nat)) :
    ((addCount x done).map (·.2)).sum = (done.map (·.2)).sum + 1 := by
  induction done with
  | nil => rfl
  | cons p done ih =>
      rw [addCount]
      split
      · simp only [List.map_cons, List.sum_cons]
        omega
      · simp only [List.map_cons, List.sum_cons, ih]
        omega

theorem sum_counts (xs : List α) : ((counts xs).map (·.2)).sum = xs.length := by
  induction xs using List.reverseRecOn with
  | nil => rfl
  | append_singleton xs x ih =>
      rw [counts_append_singleton, sum_addCount, ih, List.length_append]
      rfl

variable [LawfulBEq α]

theorem addCount_map_of_mem (f : α → Nat) (distinct : xs.Nodup) (member : x ∈ xs) :
    addCount x (xs.map fun y => (y, f y)) = xs.map fun y => (y, if y == x then f y + 1 else f y) := by
  induction xs with
  | nil => contradiction
  | cons y xs ih =>
      obtain ⟨new, others⟩ := List.nodup_cons.mp distinct
      rw [List.map_cons, List.map_cons, addCount]
      by_cases same : y = x
      · subst same
        have rest : ∀ z ∈ xs, (z == y) = false := fun z later => beq_eq_false_iff_ne.mpr fun eq => new (eq ▸ later)
        simp only [beq_self_eq_true, if_true]
        congr 1
        apply List.map_congr_left
        intro z later
        simp [rest z later]
      · have later : x ∈ xs := (List.mem_cons.mp member).resolve_left (Ne.symm same)
        simp [same, ih others later]

theorem addCount_map_of_notMem (f : α → Nat) (new : x ∉ xs) :
    addCount x (xs.map fun y => (y, f y)) = (xs.map fun y => (y, f y)) ++ [(x, 1)] := by
  induction xs with
  | nil => rfl
  | cons y xs ih =>
      obtain ⟨differ, later⟩ := not_or.mp (mt List.mem_cons.mpr new)
      rw [List.map_cons, addCount]
      simp [Ne.symm differ, ih later]

theorem eraseDups_append_singleton (xs : List α) (x : α) :
    (xs ++ [x]).eraseDups = if x ∈ xs then xs.eraseDups else xs.eraseDups ++ [x] := by
  rw [List.eraseDups_append]
  by_cases member : x ∈ xs <;> simp [List.removeAll, member, List.eraseDups_cons]

theorem nodup_eraseDups (xs : List α) : xs.eraseDups.Nodup := by
  induction xs using List.reverseRecOn with
  | nil => simp
  | append_singleton xs x ih =>
      rw [eraseDups_append_singleton]
      split
      · exact ih
      · next new =>
        apply List.nodup_append.mpr
        refine ⟨ih, List.nodup_singleton x, ?_⟩
        rintro y old z last rfl
        exact new (List.mem_singleton.mp last ▸ List.mem_eraseDups.mp old)

theorem counts_eq_map (xs : List α) : counts xs = xs.eraseDups.map fun x => (x, xs.count x) := by
  induction xs using List.reverseRecOn with
  | nil => rfl
  | append_singleton xs x ih =>
      rw [counts_append_singleton, ih, eraseDups_append_singleton]
      by_cases member : x ∈ xs
      · rw [addCount_map_of_mem _ (nodup_eraseDups xs) (List.mem_eraseDups.mpr member), if_pos member]
        apply List.map_congr_left
        intro y _
        by_cases same : y = x <;> simp [List.count_append, same, Ne.symm]
      · rw [addCount_map_of_notMem _ (mt List.mem_eraseDups.mp member), if_neg member, List.map_append]
        congr 1
        · apply List.map_congr_left
          intro y old
          have differ : x ≠ y := fun same => member (same ▸ List.mem_eraseDups.mp old)
          simp [List.count_append, differ]
        · simp [List.count_append, List.count_eq_zero.mpr member]

theorem mem_counts : (x, n) ∈ counts xs ↔ 0 < n ∧ n = xs.count x := by
  rw [counts_eq_map, List.mem_map]
  constructor
  · rintro ⟨y, member, same⟩
    obtain ⟨rfl, rfl⟩ := Prod.mk.inj same
    exact ⟨List.count_pos_iff.mpr (List.mem_eraseDups.mp member), rfl⟩
  · rintro ⟨positive, rfl⟩
    exact ⟨x, List.mem_eraseDups.mpr (List.count_pos_iff.mp positive), rfl⟩

theorem keys_counts (xs : List α) : (counts xs).map (·.1) = xs.eraseDups := by
  rw [counts_eq_map, List.map_map]
  exact List.map_id _

theorem nodup_keys_counts (xs : List α) : ((counts xs).map (·.1)).Nodup := by
  rw [keys_counts]
  exact nodup_eraseDups xs

theorem distinct_eq_card [DecidableEq α] (xs : List α) : distinct xs = xs.toFinset.card := by
  have same : xs.eraseDups.toFinset = xs.toFinset := by
    ext x
    simp
  rw [distinct, ← List.length_map (·.1), keys_counts, ← same, List.toFinset_card_of_nodup (nodup_eraseDups xs)]

theorem distinct_map {β : Type} [DecidableEq β] {f : β → α} (injective : Function.Injective f) (xs : List β) :
    distinct (xs.map f) = xs.toFinset.card := by
  classical
  have image : (xs.map f).toFinset = xs.toFinset.image f := by
    ext y
    simp
  rw [distinct_eq_card, image, Finset.card_image_of_injective _ injective]

end LogAnalysis.Statistics
