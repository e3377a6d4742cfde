import LogAnalysis.Decimal.Basic

/-!
The shortest decimal that reads back as a given double.

Every real number within half a step of a double is read as that double, the ends of the interval
included when the mantissa is even. `shortest` takes the fewest digits for which a decimal lies in the
interval, and of two such decimals the nearer one.
-/

namespace LogAnalysis.Dyadic

structure Interval where
  low : Nat
  value : Nat
  high : Nat
  den : Nat
  closed : Bool

/-- The numbers that are read as this double. -/
def interval (x : Dyadic) : Interval :=
  -- Below a power of two the step is half as wide.
  let below := if x.mantissa = Nat.pow 2 52 ∧ -1074 < x.exponent then 1 else 2
  let quarter := x.exponent - 2
  let (scale, den) := if 0 ≤ quarter then (Nat.pow 2 quarter.toNat, 1) else (1, Nat.pow 2 (-quarter).toNat)
  { low := (4 * x.mantissa - below) * scale
    value := 4 * x.mantissa * scale
    high := (4 * x.mantissa + 2) * scale
    den := den
    closed := x.mantissa % 2 = 0 }

def Interval.onGrid (i : Interval) (power : Int) : Option Decimal :=
  let (value, den) := overPowerOfTen i.value i.den power
  let (low, _) := overPowerOfTen i.low i.den power
  let (high, _) := overPowerOfTen i.high i.den power
  let down := value / den
  let downFits := if i.closed then low ≤ down * den else low < down * den
  let upFits := if i.closed then (down + 1) * den ≤ high else (down + 1) * den < high
  let downNearer := 2 * (value - down * den) ≤ den
  if downFits ∧ (downNearer ∨ ¬ upFits) then some ⟨down, power⟩
  else if upFits then some ⟨down + 1, power⟩
  else none

/-- The decimal with the fewest digits that reads back as the number. -/
def shortest (x : Dyadic) : Decimal :=
  if x.mantissa = 0 then ⟨0, 0⟩
  else
    let i := x.interval
    let top := decade i.value i.den
    let grids := (List.range 17).map fun (n : Nat) => top - (n : Int)
    -- Seventeen digits always read back.
    (grids.findSome? i.onGrid).elim (Decimal.ofDyadic 17 x) (Decimal.stripZeros 20)

end LogAnalysis.Dyadic
