import LogAnalysis.Decimal.Reader
import Mathlib

/-!
# Whole numbers as doubles

A double holds a positive whole number below `2 ^ 53` exactly (`Numeral.HasDouble.unpack_toFloat`), and so the doubles of such numbers
are in the order of the numbers (`Numeral.compare_toFloat`).
-/

namespace LogAnalysis

open Float.Model Float.Model.UnpackedFloat

/-! ## Normal doubles -/

namespace Double

structure IsNormal (m : Nat) (e : Int) : Prop where
  positive : 0 < m
  bits : m.log2 = 52
  least : -1074 ≤ e
  most : e ≤ 971

variable {m : Nat} {e : Int}

theorem IsNormal.unpack_pack (normal : IsNormal m e) :
    (Float.Model.pack (.finite .positive m e normal.positive)).unpack = .finite .positive m e normal.positive := by
  obtain ⟨positive, bits, least, most⟩ := normal
  obtain ⟨low, high⟩ := (Nat.log2_eq_iff (Nat.ne_of_gt positive)).mp bits
  obtain ⟨biased, rfl⟩ : ∃ biased : Nat, e = biased - 1075 := ⟨(e + 1075).toNat, by omega⟩
  have packed : UnpackedFloat.pack Format.binary64 (.finite .positive m (biased - 1075) positive) =
      packComponents Format.binary64 .positive (BitVec.ofNat 11 biased) (BitVec.ofNat 52 m) := by
    have field : ((biased : Int) - 1075 + (1023 : Nat) + (52 : Nat)).toNat = biased := by omega
    have fits : ¬ 2 ^ 11 ≤ biased + 1 := by omega
    rw [UnpackedFloat.pack]
    simp only [show Format.binary64.exponentBias = 1023 from rfl, field, fits, if_false, bits]
    rfl
  have field : (BitVec.ofNat 11 biased).toNat = biased := Nat.mod_eq_of_lt (by omega)
  have notLast : BitVec.ofNat 11 biased ≠ -1#11 := by
    intro same
    have values : biased = 2047 := field.symm.trans (congrArg BitVec.toNat same)
    omega
  have notFirst : BitVec.ofNat 11 biased ≠ 0#11 := by
    intro same
    have values : biased = 0 := field.symm.trans (congrArg BitVec.toNat same)
    omega
  -- The first digit of the mantissa is not stored; the exponent tells that it is there.
  have whole : (1#1 ++ BitVec.ofNat 52 m).toNat = m := by
    have rest : m % 2 ^ 52 < 2 ^ 52 := Nat.mod_lt _ (Nat.two_pow_pos 52)
    rw [BitVec.toNat_append, BitVec.toNat_ofNat, BitVec.toNat_ofNat, ← Nat.shiftLeft_add_eq_or_of_lt rest,
      Nat.shiftLeft_eq]
    omega
  rw [Float.Model.unpack, Float.Model.pack]
  simp only [packed]
  rw [UnpackedFloat.unpack]
  simp only [unpackExponent_packComponents, unpackMantissa_packComponents, notLast, notFirst, if_false,
    unpackSign_packComponents, whole, field]
  rfl

theorem log2_mul_two_pow (nonzero : m ≠ 0) (k : Nat) : (m * 2 ^ k).log2 = m.log2 + k := by
  induction k with
  | zero => rw [Nat.pow_zero, Nat.mul_one, Nat.add_zero]
  | succ k ih =>
      have shifted : m * 2 ^ k ≠ 0 := Nat.mul_ne_zero nonzero (Nat.ne_of_gt (Nat.two_pow_pos k))
      rw [Nat.pow_succ', Nat.mul_left_comm, Nat.log2_two_mul shifted, ih, Nat.add_assoc]

theorem shiftRight_zeros (m k : Nat) :
    (⟨m * 2 ^ k, false, false⟩ : ExtendedMantissa) >>> k = ⟨m, false, false⟩ := by
  show k.repeat ExtendedMantissa.shiftRightOne _ = _
  induction k generalizing m with
  | zero => simp [Nat.repeat]
  | succ k ih =>
      have once := ih (m * 2)
      rw [Nat.mul_assoc, ← Nat.pow_succ'] at once
      rw [Nat.repeat, once]
      simp [ExtendedMantissa.shiftRightOne]

theorem targetExponent_eq (m : Nat) (e : Int) :
    Format.binary64.targetExponent (totalExponent m e) = max (m.log2 + e - 52) (-1074) := by
  show max ((m.log2 : Int) + 1 + e - (53 : Nat)) (-1074) = _
  omega

theorem IsNormal.shift (normal : IsNormal m e) (k : Nat) :
    shiftToTargetExponent Format.binary64 (m * 2 ^ k) (e - k) .exact = (⟨m, false, false⟩, e) := by
  have target : Format.binary64.targetExponent (totalExponent (m * 2 ^ k) (e - k)) = e := by
    have least := normal.least
    rw [targetExponent_eq, log2_mul_two_pow (Nat.ne_of_gt normal.positive), normal.bits]
    omega
  have amount : (e - (e - k)).toNat = k := by omega
  rw [shiftToTargetExponent, target, shiftToExponent, amount]
  simp [ExtendedMantissa.ofMantissaAndAccuracy, shiftRight_zeros]

theorem IsNormal.round (normal : IsNormal m e) (k : Nat) :
    roundWithAccuracy Format.binary64 .positive (m * 2 ^ k) (e - k) .exact = .finite .positive m e normal.positive := by
  have again := normal.shift 0
  rw [Nat.pow_zero, Nat.mul_one, Int.natCast_zero, Int.sub_zero] at again
  rw [roundWithAccuracy, normal.shift k]
  simp only [ExtendedMantissa.roundedMantissa, ExtendedMantissa.accuracy, Accuracy.roundToNearestEven, again]
  exact dif_neg (Nat.ne_of_gt normal.positive)

/-! ## Products and comparisons -/

variable {x y : Float}

theorem unpack_mul (x y : Float) : (x * y).toModel.unpack =
    (Float.Model.pack (UnpackedFloat.mul Format.binary64 x.toModel.unpack y.toModel.unpack)).unpack := rfl

theorem unpack_one : Float.exactlyRepresentablePowersOfTen[0].toModel.unpack =
    .finite .positive (2 ^ 52) (-52) (Nat.two_pow_pos 52) := by
  rfl

theorem IsNormal.mul_one (normal : IsNormal m e) : UnpackedFloat.mul Format.binary64
    (.finite .positive m e normal.positive) (.finite .positive (2 ^ 52) (-52) (Nat.two_pow_pos 52)) =
      .finite .positive m e normal.positive :=
  normal.round 52

theorem lt_iff : x < y ↔ x.toModel.compare y.toModel = some .lt := by
  show decide (x.toModel < y.toModel) = true ↔ _
  rw [decide_eq_true_iff]
  show (x.toModel.unpack.compare y.toModel.unpack == some .lt) = true ↔ _
  rw [beq_iff_eq]
  rfl

theorem le_iff : x ≤ y ↔ ∃ order, x.toModel.compare y.toModel = some order ∧ order.isLE = true := by
  show decide (x.toModel ≤ y.toModel) = true ↔ _
  rw [decide_eq_true_iff]
  show (x.toModel.unpack.compare y.toModel.unpack).any (·.isLE) = true ↔ _
  rw [Option.any_eq_true]
  rfl

theorem compare_of_isNaN (isNaN : x.isNaN = true ∨ y.isNaN = true) : x.toModel.compare y.toModel = none := by
  rw [Float.Model.compare]
  rcases isNaN with left | right
  · rw [UnpackedFloat.isNaN_iff.mp left]
    rfl
  · rw [UnpackedFloat.isNaN_iff.mp right]
    cases x.toModel.unpack <;> rfl

end Double

/-! ## Whole numbers -/

namespace Numeral

open Double

structure HasDouble (n : Nat) : Prop where
  positive : 0 < n
  small : n < 2 ^ 53

def mantissa (n : Nat) : Nat := n * 2 ^ (52 - n.log2)

variable {m n : Nat}

theorem HasDouble.log2_le (held : HasDouble n) : n.log2 ≤ 52 :=
  Nat.lt_succ_iff.mp ((Nat.log2_lt (Nat.ne_of_gt held.positive)).mpr held.small)

theorem HasDouble.isNormal (held : HasDouble n) : IsNormal (mantissa n) (n.log2 - 52) := by
  have le := held.log2_le
  refine ⟨Nat.mul_pos held.positive (Nat.two_pow_pos _), ?_, by omega, by omega⟩
  rw [mantissa, log2_mul_two_pow (Nat.ne_of_gt held.positive)]
  omega

theorem HasDouble.ofNat_eq (held : HasDouble n) : UnpackedFloat.ofNat Format.binary64 n =
    .finite .positive (mantissa n) (n.log2 - 52) held.isNormal.positive := by
  have positive := held.positive
  have le := held.log2_le
  have target : Format.binary64.targetExponent (totalExponent n 0) = (n.log2 : Int) - 52 := by
    rw [targetExponent_eq]
    omega
  have shift : (0 - ((n.log2 : Int) - 52)).toNat = 52 - n.log2 := by omega
  have exponent : (0 : Int) - ((52 - n.log2 : Nat) : Int) = (n.log2 : Int) - 52 := by omega
  have sign : compare (n : Int) 0 = .gt := Int.compare_eq_gt.mpr (by omega)
  have rounded := held.isNormal.round 0
  rw [Nat.pow_zero, Nat.mul_one, Int.natCast_zero, Int.sub_zero] at rounded
  rw [UnpackedFloat.ofNat, UnpackedFloat.ofInt, UnpackedFloat.normalize, sign]
  simp only [Int.toNat_natCast]
  rw [UnpackedFloat.round]
  simp only [target, decreaseExponent, shift, exponent, Nat.shiftLeft_eq]
  exact rounded

theorem HasDouble.toFloat_eq_mul (held : HasDouble n) :
    toFloat ⟨n, 0⟩ = n.toUInt64.toFloat * Float.exactlyRepresentablePowersOfTen[0] := by
  obtain ⟨positive, small⟩ := held
  have short : (Nat.toDigits 10 n).length ≤ 16 :=
    (Nat.length_toDigits_le_iff (by decide) (by decide)).mpr (Nat.lt_trans small (by decide))
  rw [toFloat]
  dsimp only
  rw [if_neg (by omega), if_neg (by omega), if_neg (by omega), Float.ofScientific, dif_pos ⟨small, by decide⟩]
  rfl

theorem HasDouble.unpack_toFloat (held : HasDouble n) : (toFloat ⟨n, 0⟩).toModel.unpack =
    .finite .positive (mantissa n) (n.log2 - 52) held.isNormal.positive := by
  have same : n.toUInt64.toNat = n := UInt64.toNat_ofNat_of_lt (Nat.lt_trans held.small (by decide))
  have whole : n.toUInt64.toFloat.toModel.unpack =
      .finite .positive (mantissa n) (n.log2 - 52) held.isNormal.positive := by
    show (Float.Model.pack (UnpackedFloat.ofNat Format.binary64 n.toUInt64.toNat)).unpack = _
    rw [same, held.ofNat_eq]
    exact held.isNormal.unpack_pack
  rw [held.toFloat_eq_mul, unpack_mul, whole, unpack_one, held.isNormal.mul_one]
  exact held.isNormal.unpack_pack

theorem mantissa_lt_mantissa (same : m.log2 = n.log2) : mantissa m < mantissa n ↔ m < n := by
  rw [mantissa, mantissa, same]
  exact Nat.mul_lt_mul_right (Nat.two_pow_pos _)

theorem lt_of_log2_lt (less : m.log2 < n.log2) : m < n := by
  have nonzero : n ≠ 0 := by
    rintro rfl
    exact absurd less (Nat.not_lt_zero _)
  calc m < 2 ^ (m.log2 + 1) := Nat.lt_log2_self
    _ ≤ 2 ^ n.log2 := Nat.pow_le_pow_right (by decide) less
    _ ≤ n := Nat.log2_self_le nonzero

theorem compare_mantissa (m n : Nat) :
    (compare ((m.log2 : Int) - 52) (n.log2 - 52)).then (compare (mantissa m) (mantissa n)) = compare m n := by
  rcases Nat.lt_trichotomy m.log2 n.log2 with less | same | greater
  · have order := lt_of_log2_lt less
    rw [Int.compare_eq_lt.mpr (by omega), Nat.compare_eq_lt.mpr order]
    rfl
  · rw [Int.compare_eq_eq.mpr (by omega)]
    show compare (mantissa m) (mantissa n) = compare m n
    simp only [Nat.compare_eq_ite_lt, mantissa_lt_mantissa same, mantissa_lt_mantissa same.symm]
  · have order := lt_of_log2_lt greater
    rw [Int.compare_eq_gt.mpr (by omega), Nat.compare_eq_gt.mpr order]
    rfl

theorem compare_toFloat (held : HasDouble m) (held' : HasDouble n) :
    (toFloat ⟨m, 0⟩).toModel.compare (toFloat ⟨n, 0⟩).toModel = some (compare m n) := by
  rw [Float.Model.compare, held.unpack_toFloat, held'.unpack_toFloat]
  exact congrArg some (compare_mantissa m n)

theorem toFloat_lt_toFloat (held : HasDouble m) (held' : HasDouble n) : toFloat ⟨m, 0⟩ < toFloat ⟨n, 0⟩ ↔ m < n := by
  rw [lt_iff, compare_toFloat held held', Option.some.injEq]
  exact Nat.compare_eq_lt

theorem toFloat_le_toFloat (held : HasDouble m) (held' : HasDouble n) : toFloat ⟨m, 0⟩ ≤ toFloat ⟨n, 0⟩ ↔ m ≤ n := by
  rw [le_iff, compare_toFloat held held']
  simp [Nat.isLE_compare]

end Numeral

end LogAnalysis
