import LogAnalysis.Text.Blank
import LogAnalysis.Text.Caseless
import LogAnalysis.Text.Numeral
import LogAnalysis.Text.Word

/-!
# Classes of characters

White space is no part of a word (`isWord_of_isBlank`) or a number (`decimalValue?_of_isBlank`), and a comparison without
regard to case tells a colon from every other character (`sameCaseless_colon`).
-/

namespace LogAnalysis.Text

structure IsNoName (c : Char) : Prop where
  noAlpha : c.isAlpha = false
  noDigit : c.isDigit = false
  noLine : c ≠ '_'
  sameKey : caseKey c = c

theorem toNat_ofNat (n : Nat) : (Char.ofNat n).toNat = n ∨ Char.ofNat n = Char.ofNat 0 := by
  by_cases valid : n.isValidChar
  · left
    rw [Char.ofNat, dif_pos valid]
    rfl
  · right
    rw [Char.ofNat, dif_neg valid]
    rfl

theorem of_isBlank {p : Char → Prop}
    (codes : ∀ r ∈ blankRanges, ∀ n ∈ List.range' r.1 (r.2 + 1 - r.1), p (Char.ofNat n)) {c : Char}
    (blank : isBlank c = true) : p c := by
  obtain ⟨r, member, low, high⟩ := (inRanges_iff _ _).mp blank
  have holds := codes r member c.toNat (List.mem_range'_1.mpr ⟨low, by omega⟩)
  rwa [Char.ofNat_toNat] at holds

theorem ranges_apart : ∀ ranges ∈ [letterRanges, numeralRanges, decimalRanges],
    ranges.all (fun r => blankRanges.all fun b => b.2.blt r.1 || r.2.blt b.1) = true := by decide +kernel

theorem inRanges_of_isBlank {ranges : List (Nat × Nat)} (isClass : ranges ∈ [letterRanges, numeralRanges, decimalRanges])
    {c : Char} (blank : isBlank c = true) : inRanges ranges c = false := by
  refine Bool.eq_false_iff.mpr fun inside => ?_
  obtain ⟨b, isRange, low, high⟩ := (inRanges_iff _ _).mp blank
  obtain ⟨r, member, first, last⟩ := (inRanges_iff _ _).mp inside
  have disjoint := List.all_eq_true.mp (List.all_eq_true.mp (ranges_apart ranges isClass) r member) b isRange
  simp only [Bool.or_eq_true, Nat.blt_eq] at disjoint
  omega

theorem isNoName_of_isBlank {c : Char} (blank : isBlank c = true) : IsNoName c := by
  obtain ⟨noAlpha, noDigit, noLine, sameKey⟩ :=
    of_isBlank (p := fun c => c.isAlpha = false ∧ c.isDigit = false ∧ c ≠ '_' ∧ caseKey c = c) (by decide) blank
  exact ⟨noAlpha, noDigit, noLine, sameKey⟩

theorem isWord_of_isBlank {c : Char} (blank : isBlank c = true) : isWord c = false := by
  obtain ⟨noAlpha, noDigit, noLine, -⟩ := isNoName_of_isBlank blank
  have letter : inRanges letterRanges c = false := inRanges_of_isBlank (by simp) blank
  have numeral : inRanges numeralRanges c = false := inRanges_of_isBlank (by simp) blank
  simp [isWord, isLetter, isNumeral, noAlpha, noDigit, noLine, letter, numeral]

theorem isBlank_of_isWord {c : Char} (word : isWord c = true) : isBlank c = false := by
  cases blank : isBlank c with
  | false => rfl
  | true => simp [isWord_of_isBlank blank] at word

theorem decimalValue?_of_inRanges {c : Char} (outside : inRanges decimalRanges c = false) : decimalValue? c = none := by
  have none : findRange? decimalRanges c = none := List.find?_eq_none.mpr (List.any_eq_false.mp outside)
  rw [decimalValue?, none, Option.map_none]

theorem decimalValue?_of_isBlank {c : Char} (blank : isBlank c = true) : decimalValue? c = none :=
  decimalValue?_of_inRanges (inRanges_of_isBlank (by simp) blank)

theorem isAlpha_of_isBlank {c : Char} (blank : isBlank c = true) : c.isAlpha = false := (isNoName_of_isBlank blank).noAlpha

theorem isDecimal_of_isBlank {c : Char} (blank : isBlank c = true) : isDecimal c = false := by
  rw [isDecimal, decimalValue?_of_isBlank blank]
  rfl

theorem isBlank_of_isDecimal {c : Char} (decimal : isDecimal c = true) : isBlank c = false := by
  cases blank : isBlank c with
  | false => rfl
  | true =>
      rw [isDecimal, decimalValue?_of_isBlank blank] at decimal
      cases decimal

theorem isDecimal_of_isAlpha {c : Char} (letter : c.isAlpha = true) : isDecimal c = false := by
  have ranges : ∀ r ∈ decimalRanges, r.2 < 65 ∨ 122 < r.1 := by decide
  have letters : 65 ≤ c.toNat ∧ c.toNat ≤ 122 := by
    rcases Bool.or_eq_true_iff.mp letter with upper | lower
    · obtain ⟨first, last⟩ : 65 ≤ c.toNat ∧ c.toNat ≤ 90 := of_decide_eq_true upper
      omega
    · have first : 97 ≤ c.toNat := of_decide_eq_true (Bool.and_eq_true_iff.mp lower).1
      have last : c.toNat ≤ 122 := of_decide_eq_true (Bool.and_eq_true_iff.mp lower).2
      omega
  have outside : inRanges decimalRanges c = false := by
    refine Bool.eq_false_iff.mpr fun inside => ?_
    obtain ⟨r, member, low, high⟩ := (inRanges_iff _ _).mp inside
    have apart := ranges r member
    omega
  rw [isDecimal, decimalValue?_of_inRanges outside]
  rfl

/-! ## Comparisons without regard to case -/

theorem caseKey_of_isBlank {c : Char} (blank : isBlank c = true) : caseKey c = c := (isNoName_of_isBlank blank).sameKey

theorem sameCaseless_of_isBlank {a c : Char} (visible : isBlank (caseKey a) = false) (blank : isBlank c = true) :
    sameCaseless a c = false := by
  refine beq_eq_false_iff_ne.mpr fun same => ?_
  rw [same, caseKey_of_isBlank blank, blank] at visible
  contradiction

theorem ofNat_eq_colon {n : Nat} (colon : Char.ofNat n = ':') : n = 58 := by
  rcases toNat_ofNat n with code | zero
  · rw [← code, colon]
    rfl
  · rw [zero] at colon
    exact absurd colon (by decide)

theorem lt_mapCase_lowerRuns {n : Nat} (beyond : 128 ≤ n) : 58 < mapCase lowerRuns n := by
  have images : ∀ run ∈ lowerRuns, run.last < 128 ∨ (58 : Int) < run.first + run.shift := by decide +kernel
  unfold mapCase
  split
  · next run found =>
      have covers := List.find?_some found
      simp only [CaseRun.covers, Bool.and_eq_true, decide_eq_true_eq] at covers
      rcases images run (List.mem_of_find?_eq_some found) with ascii | image
      · omega
      · omega
  · omega

theorem caseKey_colon {c : Char} (colon : caseKey c = ':') : c = ':' := by
  by_cases ascii : c.toNat < 128
  · have codes : ∀ n < 128, caseKey (Char.ofNat n) = ':' → Char.ofNat n = ':' := by decide
    have key := codes c.toNat ascii
    rw [Char.ofNat_toNat] at key
    exact key colon
  · by_cases dotted : c.toNat = 0x130
    · have key : caseKey (Char.ofNat 0x130) ≠ ':' := by decide
      rw [← dotted, Char.ofNat_toNat] at key
      exact absurd colon key
    · have low : simpleLower c = Char.ofNat (mapCase lowerRuns c.toNat) := by
        simp [simpleLower, lowerChar, ascii, dotted]
      have variants : ∀ v ∈ caseVariants, v.2 ≠ 58 := by decide
      have image := lt_mapCase_lowerRuns (Nat.le_of_not_lt ascii)
      have noColon : simpleLower c ≠ ':' := by
        intro isColon
        have := ofNat_eq_colon (low ▸ isColon)
        omega
      unfold caseKey at colon
      dsimp only at colon
      split at colon
      · exact absurd colon noColon
      · split at colon
        · next code found =>
            obtain ⟨before, after, split, -⟩ := List.lookup_eq_some_iff.mp found
            have := variants (_, code) (split ▸ List.mem_append_right before List.mem_cons_self)
            exact absurd (ofNat_eq_colon colon) this
        · exact absurd colon noColon

theorem sameCaseless_colon {c : Char} : sameCaseless ':' c = true ↔ c = ':' := by
  constructor
  · intro same
    exact caseKey_colon (eq_of_beq same).symm
  · rintro rfl
    decide

end LogAnalysis.Text
