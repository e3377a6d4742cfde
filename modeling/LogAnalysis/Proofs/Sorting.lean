import Mathlib.Data.List.Basic

/-!
# Stable sorting

Items that an order puts in no sequence keep the one that they had (`pairwise_mergeSort_stable`), so that leaving some
items out before or after sorting comes to the same (`filter_mergeSort`).
-/

namespace LogAnalysis

theorem mergeSort_pair {α : Type} (le : α → α → Bool) (a b : α) :
    [a, b].mergeSort le = if le a b then [a, b] else [b, a] := by
  simp [List.mergeSort, List.MergeSort.Internal.splitInTwo, List.merge]

variable {α : Type} {le : α → α → Bool} (trans : ∀ a b c, le a b → le b c → le a c)
  (total : ∀ a b, le a b || le b a)

include trans total

theorem pairwise_mergeSort_stable {r : α → α → Prop} {xs : List α} (given : xs.Pairwise r) :
    (xs.mergeSort le).Pairwise fun a b => le a b ∧ (le b a → r a b) := by
  induction xs with
  | nil => simp
  | cons x xs ih =>
      -- The sorted rest is cut where the first item goes in: what it comes before or ties with is after the cut.
      obtain ⟨before, after, whole, rest, larger⟩ := List.mergeSort_cons trans total x xs
      have sorted := List.pairwise_mergeSort trans total (x :: xs)
      rw [whole] at sorted ⊢
      have others := ih given.of_cons
      rw [rest] at others
      refine List.pairwise_append.mpr ⟨others.sublist (List.sublist_append_left _ _), ?_, ?_⟩
      · refine List.pairwise_cons.mpr ⟨fun y inAfter => ?_, others.sublist (List.sublist_append_right _ _)⟩
        have inList : y ∈ xs := List.mem_mergeSort.mp (rest ▸ List.mem_append_right before inAfter)
        exact ⟨List.rel_of_pairwise_cons (List.pairwise_append.mp sorted).2.1 inAfter,
          fun _ => List.rel_of_pairwise_cons given inList⟩
      · intro y inBefore z inRest
        rcases List.mem_cons.mp inRest with rfl | inAfter
        · refine ⟨(List.pairwise_append.mp sorted).2.2 y inBefore _ List.mem_cons_self, fun le => ?_⟩
          have notLe := larger y inBefore
          simp [le] at notLe
        · exact (List.pairwise_append.mp others).2.2 y inBefore z inAfter

theorem mergeSort_cons_eq (x : α) (xs : List α) :
    (x :: xs).mergeSort le = (xs.mergeSort le).filter (fun y => !le x y) ++ x :: (xs.mergeSort le).filter (le x) ∧
      (xs.mergeSort le).filter (fun y => !le x y) ++ (xs.mergeSort le).filter (le x) = xs.mergeSort le := by
  obtain ⟨before, after, whole, rest, larger⟩ := List.mergeSort_cons trans total x xs
  have sorted := List.pairwise_mergeSort trans total (x :: xs)
  rw [whole] at sorted
  have follows : ∀ y ∈ after, le x y = true := fun y member =>
    List.rel_of_pairwise_cons (List.pairwise_append.mp sorted).2.1 member
  have isBefore : (before ++ after).filter (fun y => !le x y) = before := by
    rw [List.filter_append, List.filter_eq_self.mpr larger, List.filter_eq_nil_iff.mpr (by simpa using follows),
      List.append_nil]
  have isAfter : (before ++ after).filter (le x) = after := by
    rw [List.filter_append, List.filter_eq_self.mpr follows, List.filter_eq_nil_iff.mpr (by simpa using larger),
      List.nil_append]
  rw [rest, isBefore, isAfter]
  exact ⟨whole, rfl⟩

theorem filter_mergeSort (p : α → Bool) (xs : List α) : (xs.mergeSort le).filter p = (xs.filter p).mergeSort le := by
  induction xs with
  | nil => simp
  | cons x xs ih =>
      obtain ⟨whole, rest⟩ := mergeSort_cons_eq trans total x xs
      cases keeps : p x with
      | true =>
          rw [whole, List.filter_append, List.filter_cons_of_pos keeps, List.filter_cons_of_pos keeps,
            (mergeSort_cons_eq trans total x (xs.filter p)).1, ← ih]
          simp only [List.filter_filter, Bool.and_comm]
      | false =>
          rw [whole, List.filter_append, List.filter_cons_of_neg (by simp [keeps]), ← List.filter_append, rest,
            List.filter_cons_of_neg (by simp [keeps]), ih]

end LogAnalysis
