import LogAnalysis.Proofs.Text.Characters
import LogAnalysis.Proofs.Text.Trimming
import LogAnalysis.Text.Case
import Mathlib

/-!
# Upper case

Text in upper case stays as it is when it is put into upper case again (`Text.upper_upper`), and it begins and ends with
white space only if the text does (`Text.isTrimmed_upper`).
-/

namespace LogAnalysis.Text

/-! ## Code points that upper case leaves alone -/

def CaseRun.codes (run : CaseRun) : List Nat := List.range' run.first ((run.last - run.first) / run.step + 1) run.step

theorem CaseRun.mem_codes {run : CaseRun} {n : Nat} (covers : run.covers n = true) : n ∈ run.codes := by
  simp only [CaseRun.covers, Bool.and_eq_true, decide_eq_true_eq, beq_iff_eq] at covers
  obtain ⟨⟨low, high⟩, onStep⟩ := covers
  refine List.mem_range'.mpr ⟨(n - run.first) / run.step, ?_, ?_⟩
  · exact Nat.lt_succ_of_le (Nat.div_le_div_right (Nat.sub_le_sub_right high _))
  · rw [Nat.mul_div_cancel' (Nat.dvd_of_mod_eq_zero onStep)]
    omega

def obstacles : List (List Nat) :=
  upperRuns.map CaseRun.codes ++
    [upperExpansions.map (·.1), blankRanges.flatMap fun r => List.range' r.1 (r.2 + 1 - r.1)]

def IsUpper (n : Nat) : Prop := ∀ codes ∈ obstacles, n ∉ codes

def bits (places : List Nat) : Nat := places.foldr (fun n more => 2 ^ n ||| more) 0

theorem testBit_bits {places : List Nat} {n : Nat} : (bits places).testBit n = true ↔ n ∈ places := by
  induction places with
  | nil => simp [bits]
  | cons m places ih =>
      have split : bits (m :: places) = 2 ^ m ||| bits places := rfl
      rw [split, Nat.testBit_or, Nat.testBit_two_pow, Bool.or_eq_true, ih, decide_eq_true_eq, List.mem_cons, eq_comm]

def obstacleBits : Nat := (obstacles.map bits).foldr (· ||| ·) 0

theorem isUpper_of_testBit {n : Nat} (free : obstacleBits.testBit n = false) : IsUpper n := by
  unfold IsUpper
  unfold obstacleBits at free
  generalize obstacles = all at free
  induction all with
  | nil => simp
  | cons codes more ih =>
      rw [List.map_cons, List.foldr_cons, Nat.testBit_or, Bool.or_eq_false_iff] at free
      refine List.forall_mem_cons.mpr ⟨fun member => ?_, ih free.2⟩
      rw [testBit_bits.mpr member] at free
      exact absurd free.1.symm Bool.false_ne_true

theorem isUpper_images :
    (∀ run ∈ upperRuns, ∀ n, run.covers n = true → IsUpper (n + run.shift).toNat) ∧
    ∀ e ∈ upperExpansions, e.2 ≠ [] ∧ ∀ n ∈ e.2, IsUpper n := by
  -- Comparing each image with each obstacle takes long: the digits of one number tell them all.
  have table : upperRuns.all (fun run => run.codes.all fun n => !obstacleBits.testBit (n + run.shift).toNat) = true ∧
      upperExpansions.all (fun e => !e.2.isEmpty && e.2.all fun n => !obstacleBits.testBit n) = true := by decide +kernel
  constructor
  · intro run member n covers
    have free := List.all_eq_true.mp (List.all_eq_true.mp table.1 run member) n (CaseRun.mem_codes covers)
    exact isUpper_of_testBit (by simpa using free)
  · intro e member
    obtain ⟨some, free⟩ := Bool.and_eq_true_iff.mp (List.all_eq_true.mp table.2 e member)
    refine ⟨by simpa using some, fun n code => ?_⟩
    have freeOfAll := List.all_eq_true.mp free n code
    exact isUpper_of_testBit (by simpa using freeOfAll)

/-! ## Characters -/

theorem mapCase_append {runs later : List CaseRun} {n : Nat} (behind : ∀ run ∈ later, n < run.first) :
    mapCase (runs ++ later) n = mapCase runs n := by
  have none : later.find? (·.covers n) = none := by
    refine List.find?_eq_none.mpr fun run member covers => ?_
    simp only [CaseRun.covers, Bool.and_eq_true, decide_eq_true_eq] at covers
    exact absurd covers.1.1 (Nat.not_le_of_lt (behind run member))
  rw [mapCase, mapCase, List.find?_append, none, Option.or_none]

theorem upperChar_eq (c : Char) : upperChar c =
    (upperExpansions.lookup c.toNat).elim [Char.ofNat (mapCase upperRuns c.toNat)] (·.map Char.ofNat) := by
  unfold upperChar
  split
  · next ascii =>
      have tables : (∀ e ∈ upperExpansions, 128 ≤ e.1) ∧ (∀ run ∈ upperRuns.drop 1, 128 ≤ run.first) ∧
          ∀ n < 128, (Char.ofNat n).toUpper = Char.ofNat (mapCase (upperRuns.take 1) n) := by decide +kernel
      obtain ⟨expansions, runs, codes⟩ := tables
      have single : upperExpansions.lookup c.toNat = none := by
        refine List.lookup_eq_none_iff.mpr fun e member => ?_
        have beyond := expansions e member
        exact bne_iff_ne.mpr (by omega)
      have first : mapCase (upperRuns.take 1 ++ upperRuns.drop 1) c.toNat = mapCase (upperRuns.take 1) c.toNat :=
        mapCase_append fun run member => Nat.lt_of_lt_of_le ascii (runs run member)
      rw [List.take_append_drop] at first
      have same := codes c.toNat ascii
      rw [Char.ofNat_toNat] at same
      rw [single, first, same]
      rfl
  · split
    · next found => rw [found]; rfl
    · next single => rw [single]; rfl

theorem mapCase_of_isUpper {n : Nat} (isUpper : IsUpper n) : mapCase upperRuns n = n := by
  have none : upperRuns.find? (·.covers n) = none := by
    refine List.find?_eq_none.mpr fun run member covers => ?_
    have obstacle : run.codes ∈ obstacles := List.mem_append_left _ (List.mem_map_of_mem member)
    exact isUpper _ obstacle (CaseRun.mem_codes covers)
  rw [mapCase, none]

theorem lookup_of_isUpper {n : Nat} (isUpper : IsUpper n) : upperExpansions.lookup n = none := by
  cases found : upperExpansions.lookup n with
  | none => rfl
  | some codes =>
      obtain ⟨before, after, split, -⟩ := List.lookup_eq_some_iff.mp found
      have member : (n, codes) ∈ upperExpansions := split ▸ List.mem_append_right before List.mem_cons_self
      have obstacle : upperExpansions.map (·.1) ∈ obstacles := List.mem_append_right _ List.mem_cons_self
      exact absurd (List.mem_map.mpr ⟨_, member, rfl⟩) (isUpper _ obstacle)

theorem IsUpper.upperChar {n : Nat} (isUpper : IsUpper n) : upperChar (Char.ofNat n) = [Char.ofNat n] := by
  rcases toNat_ofNat n with code | zero
  · rw [upperChar_eq, code, lookup_of_isUpper isUpper, mapCase_of_isUpper isUpper]
    rfl
  · rw [zero]
    decide

theorem IsUpper.isBlank {n : Nat} (isUpper : IsUpper n) : isBlank (Char.ofNat n) = false := by
  rcases toNat_ofNat n with code | zero
  · refine Bool.eq_false_iff.mpr fun blank => ?_
    obtain ⟨r, member, low, high⟩ := (inRanges_iff _ _).mp blank
    have obstacle : (blankRanges.flatMap fun r => List.range' r.1 (r.2 + 1 - r.1)) ∈ obstacles :=
      List.mem_append_right _ (List.mem_cons_of_mem _ List.mem_cons_self)
    rw [code] at low high
    exact isUpper _ obstacle (List.mem_flatMap.mpr ⟨r, member, List.mem_range'_1.mpr ⟨low, by omega⟩⟩)
  · rw [zero]
    decide

theorem upperChar_cases (c : Char) : upperChar c = [c] ∨
    ∃ codes : List Nat, codes ≠ [] ∧ (∀ n ∈ codes, IsUpper n) ∧ upperChar c = codes.map Char.ofNat := by
  rw [upperChar_eq]
  cases found : upperExpansions.lookup c.toNat with
  | some codes =>
      obtain ⟨before, after, split, -⟩ := List.lookup_eq_some_iff.mp found
      have member : (c.toNat, codes) ∈ upperExpansions := split ▸ List.mem_append_right before List.mem_cons_self
      obtain ⟨some, upper⟩ := isUpper_images.2 _ member
      exact .inr ⟨codes, some, upper, rfl⟩
  | none =>
      cases mapped : upperRuns.find? (·.covers c.toNat) with
      | none =>
          left
          rw [mapCase, mapped, Option.elim_none, Char.ofNat_toNat]
      | some run =>
          have covers : run.covers c.toNat = true := by simpa using List.find?_some mapped
          have isUpper := isUpper_images.1 run (List.mem_of_find?_eq_some mapped) _ covers
          refine .inr ⟨[(c.toNat + run.shift).toNat], List.cons_ne_nil _ _, List.forall_mem_singleton.mpr isUpper, ?_⟩
          rw [mapCase, mapped]
          rfl

theorem upperChar_ne_nil (c : Char) : upperChar c ≠ [] := by
  rcases upperChar_cases c with same | ⟨codes, some, -, mapped⟩
  · rw [same]
    exact List.cons_ne_nil _ _
  · rw [mapped]
    exact mt List.map_eq_nil_iff.mp some

theorem upperChar_of_mem {c d : Char} (member : d ∈ upperChar c) : upperChar d = [d] := by
  rcases upperChar_cases c with same | ⟨codes, -, upper, mapped⟩
  · rw [same] at member
    rwa [List.mem_singleton.mp member]
  · rw [mapped] at member
    obtain ⟨n, code, rfl⟩ := List.mem_map.mp member
    exact (upper n code).upperChar

theorem isBlank_of_mem_upperChar {c d : Char} (visible : isBlank c = false) (member : d ∈ upperChar c) :
    isBlank d = false := by
  rcases upperChar_cases c with same | ⟨codes, -, upper, mapped⟩
  · rw [same] at member
    rwa [List.mem_singleton.mp member]
  · rw [mapped] at member
    obtain ⟨n, code, rfl⟩ := List.mem_map.mp member
    exact (upper n code).isBlank

/-! ## Text -/

theorem upper_upper (cs : List Char) : upper (upper cs) = upper cs := by
  have alone : ∀ ds : List Char, (∀ d ∈ ds, upperChar d = [d]) → upper ds = ds := fun ds single => by
    rw [upper, List.flatMap_congr single, List.flatMap_singleton']
  refine alone (upper cs) fun d member => ?_
  obtain ⟨c, -, image⟩ := List.mem_flatMap.mp member
  exact upperChar_of_mem image

theorem isTrimmed_upper {cs : List Char} (trimmed : IsTrimmed cs) : IsTrimmed (upper cs) where
  first := fun d isFirst => by
    cases cs with
    | nil => contradiction
    | cons c cs =>
        rw [upper, List.flatMap_cons, List.head?_append_of_ne_nil _ (upperChar_ne_nil c)] at isFirst
        exact isBlank_of_mem_upperChar (trimmed.first c rfl) (List.mem_of_mem_head? isFirst)
  last := fun d isLast => by
    cases cs using List.reverseRecOn with
    | nil => contradiction
    | append_singleton cs c _ =>
        rw [upper, List.flatMap_append, List.flatMap_singleton,
          List.getLast?_append_of_ne_nil _ (upperChar_ne_nil c)] at isLast
        exact isBlank_of_mem_upperChar (trimmed.last c List.getLast?_concat) (List.mem_of_getLast? isLast)

end LogAnalysis.Text
