/-!
Binary and decimal numbers as exact pairs of natural number and exponent.

`Dyadic` is the magnitude of a finite double and `Decimal` a number in positional notation. `decode` takes a
double apart; `roundDiv` is division that rounds to the nearest whole number, a tie to the even one.
-/

namespace LogAnalysis

structure Dyadic where
  mantissa : Nat
  exponent : Int
deriving Repr, DecidableEq

structure Decimal where
  significand : Nat
  exponent : Int
deriving Repr, DecidableEq

inductive Decoded
  | notANumber
  | infinite (negative : Bool)
  | finite (negative : Bool) (magnitude : Dyadic)
deriving Repr, DecidableEq

def decode (x : Float) : Decoded :=
  let bits := x.toBits.toNat
  let negative := bits / Nat.pow 2 63 == 1
  let biased : Nat := bits / Nat.pow 2 52 % Nat.pow 2 11
  let fraction : Nat := bits % Nat.pow 2 52
  if biased = 2047 then
    if fraction = 0 then .infinite negative else .notANumber
  else if biased = 0 then .finite negative ⟨fraction, -1074⟩
  else .finite negative ⟨fraction + Nat.pow 2 52, (biased : Int) - 1075⟩

def roundDiv (num den : Nat) : Nat :=
  let q := num / den
  let twice := 2 * (num % den)
  if twice < den then q
  else if den < twice then q + 1
  else if q % 2 = 0 then q else q + 1

theorem roundDiv_close (num den : Nat) (positive : 0 < den) :
    2 * num ≤ (2 * roundDiv num den + 1) * den ∧ 2 * (roundDiv num den * den) ≤ 2 * num + den := by
  have split := Nat.div_add_mod num den
  have small := Nat.mod_lt num positive
  have key : ∀ q r : Nat, den * q + r = num → r < den →
      (2 * num ≤ (2 * q + 1) * den ↔ 2 * r ≤ den) ∧
      2 * (q * den) ≤ 2 * num + den ∧
      2 * num ≤ (2 * (q + 1) + 1) * den ∧
      (den ≤ 2 * r → 2 * ((q + 1) * den) ≤ 2 * num + den) := by
    intro q r total less
    have h : q * den = den * q := Nat.mul_comm _ _
    refine ⟨?_, ?_, ?_, ?_⟩
    · rw [Nat.add_mul, Nat.mul_assoc, h]; omega
    · omega
    · rw [Nat.add_mul, Nat.mul_assoc, Nat.add_mul, h]; omega
    · intro big; rw [Nat.add_mul, h]; omega
  obtain ⟨low, below, high, above⟩ := key _ _ split small
  simp only [roundDiv]
  split
  · exact ⟨low.2 (by omega), below⟩
  · split
    · exact ⟨high, above (by omega)⟩
    · split
      · exact ⟨low.2 (by omega), below⟩
      · exact ⟨high, above (by omega)⟩

namespace Dyadic

def fraction (x : Dyadic) : Nat × Nat :=
  if 0 ≤ x.exponent then (x.mantissa * Nat.pow 2 x.exponent.toNat, 1)
  else (x.mantissa, Nat.pow 2 (-x.exponent).toNat)

end Dyadic

def overPowerOfTen (num den : Nat) (power : Int) : Nat × Nat :=
  if 0 ≤ power then (num, den * Nat.pow 10 power.toNat) else (num * Nat.pow 10 (-power).toNat, den)

def decade (num den : Nat) : Int :=
  let binary : Int := (Nat.log2 num : Int) - Nat.log2 den
  let guess := ((binary - 1) * 30103) / 100000
  let reaches (power : Int) : Bool :=
    let (n, d) := overPowerOfTen num den power
    d ≤ n
  if reaches (guess + 2) then guess + 2
  else if reaches (guess + 1) then guess + 1
  else if reaches guess then guess
  else guess - 1

namespace Decimal

def stripZeros : Nat → Decimal → Decimal
  | 0, d => d
  | fuel + 1, d =>
    if d.significand ≠ 0 ∧ d.significand % 10 = 0 then
      stripZeros fuel ⟨d.significand / 10, d.exponent + 1⟩
    else d

def digits (d : Decimal) : List Char := Nat.toDigits 10 d.significand

def ofDyadic (count : Nat) (x : Dyadic) : Decimal :=
  if x.mantissa = 0 then ⟨0, 0⟩
  else
    let (num, den) := x.fraction
    let power := decade num den - count + 1
    let (n, d) := overPowerOfTen num den power
    stripZeros (count + 1) ⟨roundDiv n d, power⟩

end Decimal

end LogAnalysis
