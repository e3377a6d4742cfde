import LogAnalysis.Decimal.Shortest

/-!
How numbers are written: positional or scientific layout, the default text of a double, the text with six
significant digits, and the text with one decimal place.
-/

namespace LogAnalysis.Decimal

structure Layout where
  lowest : Int
  below : Int
  showsPlace : Bool

def exponentDigits (n : Nat) : List Char :=
  let ds := Nat.toDigits 10 n
  if ds.length < 2 then '0' :: ds else ds

def write (layout : Layout) (d : Decimal) : List Char :=
  let ds := d.digits
  let leading : Int := if d.significand = 0 then 0 else d.exponent + ds.length - 1
  if layout.lowest ≤ leading ∧ leading < layout.below then
    if leading < 0 then '0' :: '.' :: (List.replicate (-leading - 1).toNat '0' ++ ds)
    else
      let whole := leading.toNat + 1
      if ds.length ≤ whole then
        ds ++ List.replicate (whole - ds.length) '0' ++ (if layout.showsPlace then ['.', '0'] else [])
      else ds.take whole ++ '.' :: ds.drop whole
  else
    let mantissa := match ds with
      | [] => []
      | [c] => [c]
      | c :: rest => c :: '.' :: rest
    let sign := if leading < 0 then '-' else '+'
    mantissa ++ 'e' :: sign :: exponentDigits leading.natAbs

def standardLayout : Layout := ⟨-4, 16, true⟩

def generalLayout : Layout := ⟨-4, 6, false⟩

def writeFloat (digits : Dyadic → List Char) (x : Float) : String :=
  match decode x with
  | .notANumber => "nan"
  | .infinite negative => if negative then "-inf" else "inf"
  | .finite negative magnitude =>
    String.ofList ((if negative then ['-'] else []) ++ digits magnitude)

def shortestText (x : Float) : String :=
  writeFloat (fun m => m.shortest.write standardLayout) x

def generalText (x : Float) : String :=
  writeFloat (fun m => (ofDyadic 6 m).write generalLayout) x

def onePlaceText (x : Float) : String :=
  writeFloat (fun m =>
    let (num, den) := m.fraction
    let tenths := roundDiv (num * 10) den
    Nat.toDigits 10 (tenths / 10) ++ '.' :: Nat.toDigits 10 (tenths % 10)) x

end LogAnalysis.Decimal
