import LogAnalysis.Text.Case

/-!
Comparison of characters without regard to case. Two characters are the same letter when their lower-case forms
are, or when those are among the few lower-case letters that share an upper-case one, such as `s` and `ſ`.
-/

namespace LogAnalysis.Text

def caseVariants : List (Nat × Nat) := [
  (0x131, 0x69), (0x17f, 0x73), (0x3bc, 0xb5), (0x3b9, 0x345), (0x1fbe, 0x345), (0x1fd3, 0x390),
  (0x1fe3, 0x3b0), (0x3d0, 0x3b2), (0x3f5, 0x3b5), (0x3d1, 0x3b8), (0x3f0, 0x3ba), (0x3d6, 0x3c0),
  (0x3f1, 0x3c1), (0x3c3, 0x3c2), (0x3d5, 0x3c6), (0x1c80, 0x432), (0x1c81, 0x434),
  (0x1c82, 0x43e), (0x1c83, 0x441), (0x1c84, 0x442), (0x1c85, 0x442), (0x1c86, 0x44a),
  (0x1c87, 0x463), (0xa64b, 0x1c88), (0x1e9b, 0x1e61), (0xfb06, 0xfb05)]

def caseKey (c : Char) : Char :=
  let low := simpleLower c
  if low.toNat < 0x80 then low
  else match caseVariants.lookup low.toNat with
    | some n => Char.ofNat n
    | none => low

def sameCaseless (a b : Char) : Bool := caseKey a == caseKey b

def dropCaseless? : List Char → List Char → Option (List Char)
  | [], cs => some cs
  | _, [] => none
  | a :: start, c :: cs => if sameCaseless a c then dropCaseless? start cs else none

end LogAnalysis.Text
