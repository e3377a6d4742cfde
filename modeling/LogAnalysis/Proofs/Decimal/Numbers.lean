import LogAnalysis.Proofs.Decimal.Doubles
import Mathlib

/-!
# Decimals are numbers

Only infinities and quotients of zeros lead out of the numbers, and reading a decimal meets neither: whatever its digits and its power of
ten are, the double nearest to it is a number (`Numeral.isNaN_toFloat`), if perhaps an infinite one.
-/

namespace LogAnalysis

open Float.Model Float.Model.UnpackedFloat

namespace Double

theorem isNaN_roundWithAccuracy (sign : Sign) (m : Nat) (e : Int) (accuracy : Accuracy) :
    (roundWithAccuracy Format.binary64 sign m e accuracy).isNaN = false := by
  rw [roundWithAccuracy]
  dsimp only
  split
  · rfl
  · rfl

theorem isNaN_unpack_packComponents {spec : Format} (sign : Sign) {exponent : BitVec spec.exponentBits}
    {mantissa : BitVec spec.mantissaBitsWithoutImplicit} (field : exponent = -1#_ → mantissa = 0#_) :
    (UnpackedFloat.unpack spec (packComponents spec sign exponent mantissa)).isNaN = false := by
  rw [UnpackedFloat.unpack]
  simp only [unpackExponent_packComponents, unpackMantissa_packComponents]
  split
  · next ones => rw [if_pos (field ones)]; rfl
  · split
    · split
      · rfl
      · rfl
    · rfl

theorem isNaN_unpack_pack {f : UnpackedFloat} (isNumber : f.isNaN = false) :
    (Float.Model.pack f).unpack.isNaN = false := by
  show (UnpackedFloat.unpack Format.binary64 (UnpackedFloat.pack Format.binary64 f)).isNaN = false
  cases f with
  | notANumber => contradiction
  | infinity sign =>
      simp only [UnpackedFloat.pack, packedInfinity]
      exact isNaN_unpack_packComponents sign fun _ => rfl
  | zero sign =>
      simp only [UnpackedFloat.pack, packedZero]
      exact isNaN_unpack_packComponents sign fun _ => rfl
  | finite sign m e positive =>
      simp only [UnpackedFloat.pack, packedInfinity]
      split
      · exact isNaN_unpack_packComponents sign fun _ => rfl
      · next fits =>
        split
        · apply isNaN_unpack_packComponents sign
          intro ones
          have value := congrArg BitVec.toNat ones
          have small : (e + (Format.binary64.exponentBias : Int) + (Format.binary64.mantissaBitsWithoutImplicit : Int)).toNat + 1
              < 2 ^ 11 := Nat.lt_of_not_le fits
          rw [BitVec.toNat_ofNat, Nat.mod_eq_of_lt (Nat.lt_of_succ_lt small)] at value
          have last : (-BitVec.ofNat Format.binary64.exponentBits 1).toNat = 2047 := rfl
          omega
        · apply isNaN_unpack_packComponents sign
          intro ones
          exact absurd ones (by decide)

/-! ### Arithmetic -/

theorem isNaN_mul_finite {f : UnpackedFloat} (isNumber : f.isNaN = false) (sign : Sign) (m : Nat) (e : Int)
    (positive : 0 < m) :
    (UnpackedFloat.mul Format.binary64 f (.finite sign m e positive)).isNaN = false := by
  cases f with
  | notANumber => contradiction
  | infinity _ => rfl
  | zero _ => rfl
  | finite => exact isNaN_roundWithAccuracy _ _ _ _

theorem isNaN_div_finite {f : UnpackedFloat} (isNumber : f.isNaN = false) (sign : Sign) (m : Nat) (e : Int)
    (positive : 0 < m) :
    (UnpackedFloat.div Format.binary64 f (.finite sign m e positive)).isNaN = false := by
  cases f with
  | notANumber => contradiction
  | infinity _ => rfl
  | zero _ => rfl
  | finite => exact isNaN_roundWithAccuracy _ _ _ _

theorem isNaN_ofNat (n : Nat) : (UnpackedFloat.ofNat Format.binary64 n).isNaN = false := by
  rw [UnpackedFloat.ofNat, UnpackedFloat.ofInt, UnpackedFloat.normalize]
  split
  · exact isNaN_roundWithAccuracy _ _ _ _
  · rfl
  · exact isNaN_roundWithAccuracy _ _ _ _

theorem isNaN_ofScientific (m : Nat) (e : Int) : (UnpackedFloat.ofScientific Format.binary64 m e).isNaN = false := by
  rw [UnpackedFloat.ofScientific]
  split
  · rfl
  · split
    · rfl
    · split
      · rfl
      · split
        · exact isNaN_mul_finite rfl _ _ _ _
        · exact isNaN_div_finite rfl _ _ _ _

theorem exists_unpack_powerOfTen {x : Float} (member : x ∈ Float.exactlyRepresentablePowersOfTen) :
    ∃ sign m e, ∃ positive : 0 < m, x.toModel.unpack = .finite sign m e positive := by
  have table : ∀ x ∈ Float.exactlyRepresentablePowersOfTen.toList,
      x.isFinite = true ∧ x.toModel.unpack.compare (.zero .positive) = some .gt := by
    decide
  obtain ⟨isFinite, above⟩ := table x (Array.mem_toList_iff.mpr member)
  change x.toModel.unpack.isFinite = true at isFinite
  cases unpacked : x.toModel.unpack with
  | notANumber => rw [unpacked] at isFinite; contradiction
  | infinity _ => rw [unpacked] at isFinite; contradiction
  | zero sign =>
      rw [unpacked] at above
      cases sign <;> exact absurd above (by decide)
  | finite sign m e positive => exact ⟨sign, m, e, positive, rfl⟩

theorem isNaN_toFloat (n : UInt64) : n.toFloat.toModel.unpack.isNaN = false :=
  isNaN_unpack_pack (isNaN_ofNat _)

theorem isNaN_scientific (m : Nat) (isNegative : Bool) (e : Nat) : (Float.ofScientific m isNegative e).isNaN = false := by
  rw [Float.ofScientific]
  split
  · dsimp only
    obtain ⟨sign, m', e', positive, power⟩ := exists_unpack_powerOfTen (Array.getElem_mem _)
    split
    · apply isNaN_unpack_pack
      rw [power]
      exact isNaN_div_finite (isNaN_toFloat _) _ _ _ _
    · apply isNaN_unpack_pack
      rw [power]
      exact isNaN_mul_finite (isNaN_toFloat _) _ _ _ _
  · exact isNaN_unpack_pack (isNaN_ofScientific _ _)

theorem isNaN_neg {x : Float} (isNumber : x.isNaN = false) : (-x).isNaN = false := by
  apply isNaN_unpack_pack
  have same : x.toModel.unpack.isNaN = false := isNumber
  cases unpacked : x.toModel.unpack with
  | notANumber => rw [unpacked] at same; contradiction
  | infinity _ => rfl
  | zero _ => rfl
  | finite => rfl

end Double

theorem Numeral.isNaN_toFloat (d : Decimal) : (toFloat d).isNaN = false := by
  unfold toFloat
  dsimp only
  split
  · decide
  · split
    · exact Double.isNaN_scientific _ _ _
    · split
      · decide
      · exact Double.isNaN_scientific _ _ _

theorem Numeral.isNaN_signed {x : Float} (isNumber : x.isNaN = false) (isNegative : Bool) :
    (signed isNegative x).isNaN = false := by
  cases isNegative with
  | false => exact isNumber
  | true => exact Double.isNaN_neg isNumber

end LogAnalysis
