import LogAnalysis.Proofs.Statistics.Counts
import LogAnalysis.Statistics.View
import Mathlib

/-!
# Statistics of views

Every entry with a level is counted once at its level, and every entry with a timestamp once in its minute. So the counts of
two views add up, and the order of a view does not matter (`Statistics.View.ofEntries_conserves`).
-/

namespace LogAnalysis.Statistics.View

variable {view a b : List Entry} {level minute : String} {n : Nat}

def minuteCount (v : View) (minute : String) : Nat := (v.minutes.lookup minute).getD 0

structure Counts (v : View) (view : List Entry) : Prop where
  total : v.total = view.length
  level_once : (v.levels.map (·.1)).Nodup
  mem_levels : ∀ level n, (level, n) ∈ v.levels ↔
    0 < n ∧ n = view.countP fun e => e.level ≠ "" ∧ e.level = level
  sum_levels : (v.levels.map (·.2)).sum = view.countP fun e => e.level ≠ ""
  ascending : (v.minutes.map (·.1)).Pairwise (· < ·)
  mem_minutes : ∀ minute n, (minute, n) ∈ v.minutes ↔
    0 < n ∧ n = view.countP fun e => e.timestamp ≠ "" ∧ e.timestamp.toList.take 16 = minute.toList
  sum_minutes : (v.minutes.map (·.2)).sum = view.countP fun e => e.timestamp ≠ ""

theorem minuteOf_eq_iff (timestamp minute : String) :
    minuteOf timestamp = minute ↔ timestamp.toList.take 16 = minute.toList := by
  rw [minuteOf, ← String.toList_inj, String.toList_ofList]

theorem count_filter_map (f : Entry → String) (view : List Entry) (x : String) :
    ((view.map f).filter (· ≠ "")).count x = view.countP fun e => f e ≠ "" ∧ f e = x := by
  rw [List.count, List.countP_filter, List.countP_map]
  apply List.countP_congr
  intro e _
  simp [and_comm]

theorem count_minutes (view : List Entry) (minute : String) :
    (((view.map (·.timestamp)).filter (· ≠ "")).map minuteOf).count minute =
      view.countP fun e => e.timestamp ≠ "" ∧ e.timestamp.toList.take 16 = minute.toList := by
  rw [List.count, List.countP_map, List.countP_filter, List.countP_map]
  apply List.countP_congr
  intro e _
  simp [minuteOf_eq_iff, and_comm]

theorem length_filter_map (f : Entry → String) (view : List Entry) :
    ((view.map f).filter (· ≠ "")).length = view.countP fun e => f e ≠ "" := by
  rw [← List.countP_eq_length_filter, List.countP_map]
  rfl

theorem minutes_perm (view : List Entry) : (ofEntries view).minutes.Perm
    (counts (((view.map (·.timestamp)).filter (· ≠ "")).map minuteOf)) := List.mergeSort_perm _ _

theorem ascending_minutes (view : List Entry) : ((ofEntries view).minutes.map (·.1)).Pairwise (· < ·) := by
  have sorted : (ofEntries view).minutes.Pairwise fun p q => decide (p.1 ≤ q.1) = true := by
    apply List.pairwise_mergeSort
    · intro p q r first second
      exact decide_eq_true (le_trans (of_decide_eq_true first) (of_decide_eq_true second))
    · intro p q
      simpa using le_total p.1 q.1
  have distinct : ((ofEntries view).minutes.map (·.1)).Nodup :=
    ((minutes_perm view).map _).nodup_iff.mpr (nodup_keys_counts _)
  rw [List.Nodup, List.pairwise_map] at distinct
  rw [List.pairwise_map]
  exact (sorted.and distinct).imp fun both => lt_of_le_of_ne (of_decide_eq_true both.1) both.2

theorem counts_ofEntries (view : List Entry) : Counts (ofEntries view) view where
  total := rfl
  level_once := nodup_keys_counts _
  mem_levels level n := by
    rw [← count_filter_map]
    exact mem_counts
  sum_levels := by
    rw [← length_filter_map]
    exact sum_counts _
  ascending := ascending_minutes view
  mem_minutes minute n := by
    rw [← count_minutes, (minutes_perm view).mem_iff]
    exact mem_counts
  sum_minutes := by
    rw [← length_filter_map, ((minutes_perm view).map _).sum_eq, sum_counts, List.length_map]

/-! ## Counts of a level and of a minute -/

theorem getD_lookup {counted : List (String × Nat)} {f : String → Nat}
    (isCount : ∀ x n, (x, n) ∈ counted ↔ 0 < n ∧ n = f x) (x : String) : (counted.lookup x).getD 0 = f x := by
  cases found : counted.lookup x with
  | none =>
      have absent : (x, f x) ∉ counted := fun member => by
        have := List.lookup_eq_none_iff.mp found (x, f x) member
        simp at this
      have := mt (isCount x (f x)).mpr absent
      simp only [Option.getD_none]
      omega
  | some n =>
      obtain ⟨before, after, parts, -⟩ := List.lookup_eq_some_iff.mp found
      have member : (x, n) ∈ counted := parts ▸ List.mem_append_right before List.mem_cons_self
      exact ((isCount x n).mp member).2

theorem levelCount_ofEntries (view : List Entry) (level : String) :
    (ofEntries view).levelCount level = view.countP fun e => e.level ≠ "" ∧ e.level = level :=
  getD_lookup (counts_ofEntries view).mem_levels level

theorem minuteCount_ofEntries (view : List Entry) (minute : String) : (ofEntries view).minuteCount minute =
    view.countP fun e => e.timestamp ≠ "" ∧ e.timestamp.toList.take 16 = minute.toList :=
  getD_lookup (counts_ofEntries view).mem_minutes minute

/-! ## Views in another order -/

theorem levels_perm (same : a.Perm b) : (ofEntries a).levels.Perm (ofEntries b).levels := by
  apply (List.perm_ext_iff_of_nodup _ _).mpr
  · rintro ⟨level, n⟩
    rw [(counts_ofEntries a).mem_levels, (counts_ofEntries b).mem_levels, same.countP_eq]
  · exact (counts_ofEntries a).level_once.of_map
  · exact (counts_ofEntries b).level_once.of_map

theorem minutes_eq (same : a.Perm b) : (ofEntries a).minutes = (ofEntries b).minutes := by
  have ascends (view : List Entry) : (ofEntries view).minutes.Pairwise (·.1 < ·.1) :=
    List.pairwise_map.mp (ascending_minutes view)
  have once (view : List Entry) : (ofEntries view).minutes.Nodup :=
    (ascends view).imp fun less equal => absurd (equal ▸ less) (lt_irrefl _)
  have perm : (ofEntries a).minutes.Perm (ofEntries b).minutes := by
    apply (List.perm_ext_iff_of_nodup (once a) (once b)).mpr
    rintro ⟨minute, n⟩
    rw [(counts_ofEntries a).mem_minutes, (counts_ofEntries b).mem_minutes, same.countP_eq]
  exact perm.eq_of_pairwise (fun p q _ _ less greater => absurd (less.trans greater) (lt_irrefl _)) (ascends a) (ascends b)

/-- The statistics of a view count every entry once; those of two views add up, and the order of the entries does not
matter. -/
theorem ofEntries_conserves :
    (∀ view, Counts (ofEntries view) view) ∧
    (∀ a b, (ofEntries (a ++ b)).total = (ofEntries a).total + (ofEntries b).total ∧
      (∀ level, (ofEntries (a ++ b)).levelCount level = (ofEntries a).levelCount level + (ofEntries b).levelCount level) ∧
      ∀ minute, (ofEntries (a ++ b)).minuteCount minute =
        (ofEntries a).minuteCount minute + (ofEntries b).minuteCount minute) ∧
    ∀ a b : List Entry, a.Perm b → (ofEntries a).total = (ofEntries b).total ∧
      (ofEntries a).levels.Perm (ofEntries b).levels ∧ (ofEntries a).minutes = (ofEntries b).minutes := by
  refine ⟨counts_ofEntries, fun a b => ⟨List.length_append, ?_, ?_⟩, fun a b same => ⟨same.length_eq, ?_, ?_⟩⟩
  · intro level
    simp only [levelCount_ofEntries, List.countP_append]
  · intro minute
    simp only [minuteCount_ofEntries, List.countP_append]
  · exact levels_perm same
  · exact minutes_eq same

def twoRows : List Entry :=
  [.make 1 "2024-01-15T10:30:05.000Z" "INFO" "a" "a" [], .make 2 "sometime" "" "b" "b" []]

theorem ofEntries_conserves_twoRows : twoRows.Perm twoRows.reverse ∧
    (ofEntries twoRows).total = (ofEntries twoRows.reverse).total ∧
      (ofEntries twoRows).levels.Perm (ofEntries twoRows.reverse).levels ∧
        (ofEntries twoRows).minutes = (ofEntries twoRows.reverse).minutes :=
  have turned : twoRows.Perm twoRows.reverse := twoRows.reverse_perm.symm
  ⟨turned, ofEntries_conserves.2.2 _ _ turned⟩

end LogAnalysis.Statistics.View
