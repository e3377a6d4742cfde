/-!
Sets of characters given by ranges of code points.
-/

namespace LogAnalysis.Text

def inRanges (ranges : List (Nat × Nat)) (c : Char) : Bool :=
  ranges.any fun r => r.1 ≤ c.toNat && c.toNat ≤ r.2

theorem inRanges_iff (ranges : List (Nat × Nat)) (c : Char) :
    inRanges ranges c = true ↔ ∃ r ∈ ranges, r.1 ≤ c.toNat ∧ c.toNat ≤ r.2 := by
  simp [inRanges]

def findRange? (ranges : List (Nat × Nat)) (c : Char) : Option (Nat × Nat) :=
  ranges.find? fun r => r.1 ≤ c.toNat && c.toNat ≤ r.2

end LogAnalysis.Text
