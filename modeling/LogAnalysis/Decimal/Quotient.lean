import LogAnalysis.Decimal.Basic

/-!
Quotients of whole numbers as doubles. The exponent has no upper bound, since quotients of sizes do not come near the
greatest double.
-/

namespace LogAnalysis

def overPowerOfTwo (num den : Nat) (power : Int) : Nat × Nat :=
  if 0 ≤ power then (num, den * Nat.pow 2 power.toNat) else (num * Nat.pow 2 (-power).toNat, den)

def octave (num den : Nat) : Int :=
  let guess : Int := (Nat.log2 num : Int) - Nat.log2 den
  let (n, d) := overPowerOfTwo num den guess
  if d ≤ n then guess else guess - 1

namespace Dyadic

/-- The double nearest to a fraction: its mantissa has 53 binary digits, or fewer at the least exponent, and a tie goes
to the even one. -/
def ofFraction (num den : Nat) : Dyadic :=
  let power := if octave num den < -1022 then -1074 else octave num den - 52
  let (n, d) := overPowerOfTwo num den power
  ⟨roundDiv n d, power⟩

def ceiling (x : Dyadic) : Nat :=
  let (num, den) := x.fraction
  (num + den - 1) / den

end Dyadic

end LogAnalysis
