import LogAnalysis.Proofs.Sorting
import LogAnalysis.SortOrder
import Mathlib.Data.String.Basic

/-!
# Rows in order

Rows come in the order of their keys, and rows with equal keys in the order of their places, in descending order too
(`SortOrder.rows_eq_ok`).
-/

namespace LogAnalysis

namespace SortOrder

def Key.Precedes : Key → Entry → Entry → Prop
  | id, a, b => a.id < b.id
  | part name, a, b => firstText (a.get name) < firstText (b.get name)
  | field name, a, b =>
    firstText (Value.ofOption (Members.get? a.fields name)) < firstText (Value.ofOption (Members.get? b.fields name))

def Key.Ties : Key → Entry → Entry → Prop
  | id, a, b => a.id = b.id
  | part name, a, b => firstText (a.get name) = firstText (b.get name)
  | field name, a, b =>
    firstText (Value.ofOption (Members.get? a.fields name)) = firstText (Value.ofOption (Members.get? b.fields name))

theorem Key.ascending_iff {k : Key} {a b : Entry} : k.ascending a b = true ↔ k.Precedes a b ∨ k.Ties a b := by
  cases k <;> exact decide_eq_true_iff.trans le_iff_lt_or_eq

theorem Key.Ties.symm {k : Key} {a b : Entry} (ties : k.Ties a b) : k.Ties b a := by
  cases k <;> exact Eq.symm ties

theorem Key.ascending_trans (k : Key) (a b c : Entry) (first : k.ascending a b = true)
    (second : k.ascending b c = true) : k.ascending a c = true := by
  cases k <;> exact decide_eq_true (le_trans (of_decide_eq_true first) (of_decide_eq_true second))

theorem Key.ascending_total (k : Key) (a b : Entry) : (k.ascending a b || k.ascending b a) = true := by
  rw [Bool.or_eq_true]
  cases k <;> exact (le_total _ _).imp decide_eq_true decide_eq_true

/-- The first row stands before the second one: its key comes first in the direction of the order, or the keys are equal
and its place comes first. -/
def InOrder (s : SortOrder) (k : Key) (a b : Entry × Nat) : Prop :=
  (if s.isDescending then k.Precedes b.1 a.1 else k.Precedes a.1 b.1) ∨ k.Ties a.1 b.1 ∧ a.2 < b.2

/-- A row whose key does not come after another one stands before it, if its place does where the keys are equal. -/
theorem inOrder_of_ascending {s : SortOrder} {k : Key} {a b : Entry × Nat}
    (ascending : (if s.isDescending then k.ascending b.1 a.1 else k.ascending a.1 b.1) = true)
    (places : (if s.isDescending then k.ascending a.1 b.1 else k.ascending b.1 a.1) = true → a.2 < b.2) :
    s.InOrder k a b := by
  unfold InOrder
  split
  · next descending =>
      rw [if_pos descending] at ascending places
      refine (Key.ascending_iff.mp ascending).imp_right fun ties => ⟨ties.symm, places ?_⟩
      exact Key.ascending_iff.mpr (.inr ties.symm)
  · next notDescending =>
      rw [if_neg notDescending] at ascending places
      refine (Key.ascending_iff.mp ascending).imp_right fun ties => ⟨ties, places ?_⟩
      exact Key.ascending_iff.mpr (.inr ties.symm)

theorem rows_eq_ok {s : SortOrder} {rows sorted : List (Entry × Nat)} (done : s.rows (·.1) rows = .ok sorted)
    (places : rows.Pairwise (·.2 < ·.2)) :
    ∃ name, s.field = .text name ∧ sorted.Perm rows ∧ sorted.Pairwise (s.InOrder (Key.ofName name)) := by
  unfold SortOrder.rows at done
  split at done
  · next name isText =>
      refine ⟨name, isText, ?_⟩
      obtain rfl := Except.ok.inj done
      refine ⟨List.mergeSort_perm _ _, ?_⟩
      refine (pairwise_mergeSort_stable ?_ ?_ places).imp fun both => inOrder_of_ascending both.1 both.2
      · intro a b c
        split
        · exact fun first second => Key.ascending_trans _ _ _ _ second first
        · exact Key.ascending_trans _ _ _ _
      · intro a b
        split
        · exact Key.ascending_total _ _ _
        · exact Key.ascending_total _ _ _
  · contradiction

end SortOrder

end LogAnalysis
