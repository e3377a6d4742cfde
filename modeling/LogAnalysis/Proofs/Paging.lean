import LogAnalysis.Session
import Mathlib

/-!
# Pages of a view

The number of pages is a quotient of doubles that is rounded up. For fewer than `2 ^ 53` rows the rounding of the quotient
does not show in it (`Dyadic.ceiling_le`, `Dyadic.lt_ceiling`), and so the pages are the view cut into pieces
(`Session.pages_partition`).
-/

namespace LogAnalysis

variable {num den : Nat}

/-! ## Quotients rounded up -/

theorem overPowerOfTwo_natCast (num den k : Nat) : overPowerOfTwo num den k = (num, den * 2 ^ k) := by
  simp [overPowerOfTwo]

theorem overPowerOfTwo_neg (num den k : Nat) : overPowerOfTwo num den (-(k : Int)) = (num * 2 ^ k, den) := by
  cases k with
  | zero => simp [overPowerOfTwo]
  | succ k =>
      rw [overPowerOfTwo, if_neg (by omega)]
      simp

theorem octave_le (num den : Nat) : octave num den ≤ num.log2 := by
  unfold octave
  dsimp only
  split <;> omega

theorem exists_octave (positive : 0 < den) (le : den ≤ num) : ∃ o : Nat, octave num den = o ∧ den * 2 ^ o ≤ num := by
  have nonzero : num ≠ 0 := by omega
  have logs : den.log2 ≤ num.log2 := (Nat.le_log2 nonzero).mpr ((Nat.log2_self_le (by omega)).trans le)
  obtain ⟨g, sum⟩ := Nat.exists_eq_add_of_le logs
  have guess : (num.log2 : Int) - den.log2 = (g : Nat) := by omega
  unfold octave
  simp only [guess, overPowerOfTwo_natCast]
  split
  · next reached => exact ⟨g, rfl, reached⟩
  · next missed =>
      cases g with
      | zero => exact absurd (by simpa using le) missed
      | succ g =>
          refine ⟨g, by omega, ?_⟩
          calc den * 2 ^ g ≤ 2 ^ (den.log2 + 1) * 2 ^ g := Nat.mul_le_mul_right _ (Nat.le_of_lt Nat.lt_log2_self)
            _ = 2 ^ num.log2 := by rw [← Nat.pow_add, sum, Nat.add_assoc, Nat.add_comm 1 g]
            _ ≤ num := Nat.log2_self_le nonzero

namespace Dyadic

theorem fraction_neg (m k : Nat) : fraction ⟨m, -(k : Int)⟩ = (m, 2 ^ k) := by
  cases k with
  | zero => simp [fraction]
  | succ k =>
      rw [fraction, if_neg (by dsimp only; omega)]
      simp

theorem exists_ofFraction (positive : 0 < den) (small : num < 2 ^ 53) :
    ∃ k : Nat, ofFraction num den = ⟨roundDiv (num * 2 ^ k) den, -(k : Int)⟩ ∧ (den ≤ num → den < 2 ^ (k + 1)) := by
  have top : octave num den ≤ 52 := by
    have digits : num.log2 ≤ 52 := by
      by_cases zero : num = 0
      · simp [zero]
      · exact Nat.lt_succ_iff.mp ((Nat.log2_lt zero).mpr small)
    have := octave_le num den
    omega
  obtain ⟨k, power, exponent⟩ : ∃ k : Nat, (if octave num den < -1022 then -1074 else octave num den - 52) = -(k : Int) ∧
      (0 ≤ octave num den → octave num den = 52 - k) := by
    split
    · exact ⟨1074, rfl, by omega⟩
    · exact ⟨(52 - octave num den).toNat, by omega, by omega⟩
  refine ⟨k, ?_, fun le => ?_⟩
  · rw [ofFraction, power, overPowerOfTwo_neg]
  · obtain ⟨o, start, reached⟩ := exists_octave positive le
    have places : k + 1 + o = 53 := by omega
    apply Nat.lt_of_mul_lt_mul_right (a := 2 ^ o)
    rw [← Nat.pow_add, places]
    exact reached.trans_lt small

theorem ceiling_le {c : Nat} (positive : 0 < den) (small : num < 2 ^ 53) (fits : num ≤ c * den) :
    (ofFraction num den).ceiling ≤ c := by
  obtain ⟨k, nearest, -⟩ := exists_ofFraction positive small
  have close := (roundDiv_close (num * 2 ^ k) den positive).2
  have whole : roundDiv (num * 2 ^ k) den ≤ c * 2 ^ k := by
    have scaled : num * 2 ^ k ≤ c * 2 ^ k * den := by
      rw [Nat.mul_right_comm]
      exact Nat.mul_le_mul_right _ fits
    by_contra above
    have next := Nat.mul_le_mul_right den (Nat.lt_of_not_le above)
    rw [Nat.succ_mul] at next
    omega
  rw [nearest, ceiling, fraction_neg]
  dsimp only
  apply Nat.lt_succ_iff.mp
  rw [Nat.div_lt_iff_lt_mul (Nat.two_pow_pos k), Nat.succ_mul]
  have := Nat.two_pow_pos k
  omega

theorem lt_ceiling {c : Nat} (positive : 0 < den) (small : num < 2 ^ 53) (one_le : 1 ≤ c) (above : c * den < num) :
    c < (ofFraction num den).ceiling := by
  have le : den ≤ num := (Nat.le_mul_of_pos_left den one_le).trans above.le
  obtain ⟨k, nearest, apart⟩ := exists_ofFraction positive small
  have close := (roundDiv_close (num * 2 ^ k) den positive).1
  have more : c * 2 ^ k < roundDiv (num * 2 ^ k) den := by
    have scaled : c * 2 ^ k * den + 2 ^ k ≤ num * 2 ^ k := by
      rw [Nat.mul_right_comm, ← Nat.succ_mul]
      exact Nat.mul_le_mul_right _ above
    by_contra below
    have doubled := Nat.mul_le_mul_right den (Nat.mul_le_mul_left 2 (Nat.le_of_not_lt below))
    rw [Nat.add_mul, Nat.one_mul] at close
    have bound := apart le
    rw [Nat.pow_succ] at bound
    rw [Nat.mul_assoc 2 (c * 2 ^ k) den] at doubled
    omega
  rw [nearest, ceiling, fraction_neg]
  dsimp only
  apply (Nat.le_div_iff_mul_le (Nat.two_pow_pos k)).mpr
  rw [Nat.succ_mul]
  omega

example : (ofFraction (2 ^ 53 + 1) 1).ceiling = 2 ^ 53 := by decide +kernel

end Dyadic

/-! ## A list cut into pieces -/

theorem take_pieces {α : Type} (xs : List α) (size count : Nat) :
    (List.range count).flatMap (fun i => (xs.drop (i * size)).take size) = xs.take (count * size) := by
  induction count with
  | zero => simp
  | succ count ih =>
      rw [List.range_succ, List.flatMap_append, ih, Nat.succ_mul, List.take_add]
      simp

namespace Session

/-- The view of a session is told in a number of pages, which hold these rows. -/
structure IsPaged (s : Session) (perPage : Int) (count : Nat) (rows : Int → List Entry) : Prop where
  answered : ∀ number, ∃ p, s.page number perPage = .ok p ∧ p.rows = rows number ∧ p.pageCount = count
  one_le : 1 ≤ count
  whole : (List.range count).flatMap (fun i : Nat => rows (i + 1)) = s.viewEntries
  full : ∀ i : Nat, 1 ≤ i → i < count → ((rows i).length : Int) = perPage
  last : rows count = [] → s.viewEntries = []
  beyond : ∀ number, (count : Int) < number → rows number = []
  below : ∀ number, number < 1 → rows number = rows 1

theorem page_eq_ok (s : Session) (number : Int) {perPage : Int} (positive : 0 < perPage) :
    s.page number perPage = .ok {
      rows := (s.viewEntries.drop (((max 1 number).toNat - 1) * perPage.toNat)).take perPage.toNat
      pageCount := max 1 (Dyadic.ofFraction s.viewEntries.length perPage.toNat).ceiling
      number := max 1 number
      rowCount := s.viewEntries.length } := by
  rw [page, if_neg (by omega)]

/-- The pages of a view of fewer than `2 ^ 53` rows are the view, piece by piece. -/
theorem pages_partition (s : Session) {perPage : Int} (positive : 0 < perPage)
    (small : s.viewEntries.length < 2 ^ 53) : ∃ count rows, s.IsPaged perPage count rows := by
  have one : 0 < perPage.toNat := by omega
  obtain ⟨count, counted⟩ : ∃ count, count = max 1 (Dyadic.ofFraction s.viewEntries.length perPage.toNat).ceiling := ⟨_, rfl⟩
  have enough : s.viewEntries.length ≤ count * perPage.toNat := by
    by_contra more
    have := Dyadic.lt_ceiling one small (by omega) (Nat.lt_of_not_le more)
    omega
  have needed (i : Nat) (less : i < count) (nonzero : 1 ≤ i) : i * perPage.toNat < s.viewEntries.length := by
    by_contra fits
    have := Dyadic.ceiling_le one small (Nat.le_of_not_lt fits)
    omega
  refine ⟨count, fun number => (s.viewEntries.drop (((max 1 number).toNat - 1) * perPage.toNat)).take perPage.toNat, ?_⟩
  constructor
  case answered => exact fun number => ⟨_, page_eq_ok s number positive, rfl, counted.symm⟩
  case one_le => omega
  case whole =>
    have offset (i : Nat) : (max 1 ((i : Int) + 1)).toNat - 1 = i := by omega
    simp only [offset]
    exact (take_pieces _ _ _).trans (List.take_of_length_le enough)
  case full =>
    intro i first less
    have rest := needed i less first
    obtain ⟨j, rfl⟩ := Nat.exists_eq_add_of_le' first
    have offset : (max 1 ((j + 1 : Nat) : Int)).toNat - 1 = j := by omega
    rw [Nat.succ_mul] at rest
    rw [offset, List.length_take, List.length_drop]
    omega
  case last =>
    intro none
    have offset : (max 1 (count : Int)).toNat - 1 = count - 1 := by omega
    rw [offset] at none
    by_contra some
    have start : (count - 1) * perPage.toNat < s.viewEntries.length := by
      by_cases more : 1 ≤ count - 1
      · exact needed (count - 1) (by omega) more
      · rw [Nat.eq_zero_of_not_pos more, Nat.zero_mul]
        exact List.length_pos_of_ne_nil some
    have size := congrArg List.length none
    rw [List.length_take, List.length_drop, List.length_nil] at size
    omega
  case beyond =>
    intro number above
    have offset : count ≤ (max 1 number).toNat - 1 := by omega
    have past := enough.trans (Nat.mul_le_mul_right _ offset)
    simp [List.drop_eq_nil_of_le past]
  case below =>
    intro number less
    have first : max 1 number = max 1 1 := by omega
    simp only [first]

def threeRows : Session where
  registry := { limit := 100 }
  entries := ["a", "b", "c"].map fun text => .make 1 "" "" text text []
  view := [2, 1, 0]

theorem pages_partition_threeRows : 0 < (2 : Int) ∧ threeRows.viewEntries.length < 2 ^ 53 ∧
    ∃ count rows, threeRows.IsPaged 2 count rows := by
  have rows : threeRows.viewEntries.length = 3 := by decide +kernel
  have small : threeRows.viewEntries.length < 2 ^ 53 := by rw [rows]; decide
  exact ⟨by decide, small, pages_partition threeRows (by decide) small⟩

end Session

end LogAnalysis
