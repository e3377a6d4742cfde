import LogAnalysis.Decimal.Basic
import LogAnalysis.Text.Basic
import LogAnalysis.Text.Numeral
import LogAnalysis.Text.Quoted

/-!
Reading whole numbers and decimals. White space around a number is ignored, digits of every script count,
and a single low line may stand between two digits.

`Numeral.integer?` and `Numeral.float?` accept whole texts; `Numeral.leading` takes the number that starts a
text.
-/

namespace LogAnalysis.Numeral

open Text

/-! ## Plain digits -/

def isPadding (c : Char) : Bool := isBlank c && !(0x1c ≤ c.toNat && c.toNat ≤ 0x1f)

def unpadded (cs : List Char) : List Char :=
  ((cs.dropWhile isPadding).reverse.dropWhile isPadding).reverse

def plainDigit (c : Char) : Char :=
  match decimalValue? c with
  | some d => Char.ofNat (48 + d)
  | none => c

def digitsValue (cs : List Char) : Nat := cs.foldl (fun n c => 10 * n + (c.toNat - 48)) 0

def joinDigits : List Char → Option (List Char)
  | [] => none
  | [c] => if c.isDigit then some [c] else none
  | c :: '_' :: rest => if c.isDigit then (joinDigits rest).map (c :: ·) else none
  | c :: rest => if c.isDigit then (joinDigits rest).map (c :: ·) else none

def takeSign : List Char → Bool × List Char
  | '-' :: rest => (true, rest)
  | '+' :: rest => (false, rest)
  | cs => (false, cs)

/-! ## Whole numbers -/

inductive IntegerFault
  | malformed (text : String)
  | tooLong (digits : Nat)
deriving Repr, DecidableEq

def maxDigits : Nat := 4300

def IntegerFault.message : IntegerFault → String
  | .malformed text =>
    "invalid literal for int() with base 10: " ++ String.ofList ((Quoted.encode text.toList).take 200)
  | .tooLong digits =>
    s!"Exceeds the limit (4300 digits) for integer string conversion: value has {digits} digits; " ++
      "use sys.set_int_max_str_digits() to increase the limit"

def integer (s : String) : Except IntegerFault Int :=
  let (negative, body) := takeSign ((unpadded s.toList).map plainDigit)
  match joinDigits body with
  | none => .error (.malformed s)
  | some ds =>
    if maxDigits < ds.length then .error (.tooLong ds.length)
    else .ok (if negative then -(digitsValue ds : Int) else digitsValue ds)

/-! ## Decimals -/

/-- The double nearest to a decimal. -/
def toFloat (d : Decimal) : Float :=
  let size := (Nat.toDigits 10 d.significand).length
  if d.significand = 0 then 0
  -- Beyond all powers of ten that a double can hold the digits do not matter.
  else if d.exponent + size > 400 then Float.ofScientific 1 false 400
  else if d.exponent + size < -400 then 0
  else Float.ofScientific d.significand (d.exponent < 0) d.exponent.natAbs

def signed (negative : Bool) (x : Float) : Float := if negative then -x else x

def dropLowLines (afterDigit : Bool) : List Char → Option (List Char)
  | [] => some []
  | '_' :: rest =>
    match rest with
    | d :: _ => if afterDigit && d.isDigit then dropLowLines false rest else none
    | [] => none
  | c :: rest => (dropLowLines c.isDigit rest).map (c :: ·)

/-- The exponent after a mantissa, and the rest of the text. -/
def takeExponent : List Char → Int × List Char
  | e :: rest =>
    if e = 'e' || e = 'E' then
      let (negative, body) := takeSign rest
      let ds := body.takeWhile Char.isDigit
      -- Without digits the letter is no part of the number.
      if ds.isEmpty then (0, e :: rest)
      else
        let n : Int := digitsValue ds
        (if negative then -n else n, body.dropWhile Char.isDigit)
    else (0, e :: rest)
  | [] => (0, [])

def takeDecimal (cs : List Char) : Option (Decimal × List Char) :=
  let whole := cs.takeWhile Char.isDigit
  let afterWhole := cs.dropWhile Char.isDigit
  let (places, rest) := match afterWhole with
    | '.' :: r => (r.takeWhile Char.isDigit, r.dropWhile Char.isDigit)
    | r => ([], r)
  -- One digit is needed before or after the point.
  if whole.isEmpty && places.isEmpty then none
  else
    let (power, rest) := takeExponent rest
    some (⟨digitsValue (whole ++ places), power - places.length⟩, rest)

def word? (cs : List Char) : Option Float :=
  match String.ofList (cs.map Char.toLower) with
  | "inf" | "infinity" => some (1 / 0)
  | "nan" => some (0 / 0)
  | _ => none

def float? (s : String) : Option Float := do
  let plain ← dropLowLines false ((unpadded s.toList).map plainDigit)
  let (negative, body) := takeSign plain
  match word? body with
  | some x => some (signed negative x)
  | none =>
    let (d, rest) ← takeDecimal body
    if rest.isEmpty then some (signed negative (toFloat d)) else none

def leading? (s : String) : Option Float :=
  let (negative, body) := takeSign ((s.toList.dropWhile isBlank).map plainDigit)
  (takeDecimal body).map fun (d, _) => signed negative (toFloat d)

def ofInteger? (n : Int) : Option Float :=
  let x := signed (n < 0) (toFloat ⟨n.natAbs, 0⟩)
  if x.isFinite then some x else none

end LogAnalysis.Numeral
