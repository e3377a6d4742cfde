import LogAnalysis.Pattern.Syntax
import LogAnalysis.Text.Caseless
import LogAnalysis.Text.Word

/-!
Which characters a leaf of a pattern accepts.

Without regard to case a character is accepted if the set holds any of its case mates. Beyond the first 65536 code points
a set is asked only for the lower-case form of the character, and a range also for the upper-case form of that.
-/

namespace LogAnalysis.Pattern

open Text

def isPlainSpace (c : Char) : Bool := c = ' ' || (9 ≤ c.toNat && c.toNat ≤ 13)

def Category.holds (kind : Category) (plain : Bool) (c : Char) : Bool :=
  match kind, plain with
  | .digit, false => isDecimal c
  | .digit, true => c.isDigit
  | .space, false => isBlank c
  | .space, true => isPlainSpace c
  | .word, false => isWord c
  | .word, true => c.isAlphanum || c = '_'

def lowerOrigins (low : Nat) : List Nat :=
  let fromRuns := lowerRuns.filterMap fun run =>
    let n := ((low : Int) - run.shift).toNat
    if run.covers n then some n else none
  let self := if mapCase lowerRuns low = low then [low] else []
  let dotted := if low = 0x69 then [0x130] else []
  self ++ fromRuns ++ dotted

def caseMates (c : Char) : List Nat :=
  let key := (caseKey c).toNat
  let lows := key :: (caseVariants.filter (·.2 = key)).map (·.1)
  lows.flatMap lowerOrigins

def astral : Nat := 0x10000

def sameUnder (letters : CaseRule) (n : Nat) (c : Char) : Bool :=
  c.toNat = n ||
    ((Char.ofNat n).toNat = n &&
      match letters with
      | .exact => false
      | .ascii => c.toLower == (Char.ofNat n).toLower
      | .unicode => sameCaseless (Char.ofNat n) c)

def SetItem.holds (letters : CaseRule) (c : Char) : SetItem → Bool
  | .code n =>
    if letters = .unicode ∧ astral ≤ n then (simpleLower c).toNat = n else sameUnder letters n c
  | .range low high =>
    let spans (n : Nat) : Bool := low ≤ n && n ≤ high
    match letters with
    | .exact => spans c.toNat
    | .ascii => spans c.toLower.toNat || spans c.toUpper.toNat
    | .unicode =>
      (spans c.toNat && c.toNat < astral) ||
        (caseMates c).any (fun n => spans n && n < astral) ||
        (astral ≤ high &&
          (spans (simpleLower c).toNat || spans (simpleUpper (simpleLower c)).toNat))
  | .category kind negated plain => kind.holds plain c != negated

def Single.accepts (s : Single) (c : Char) : Bool :=
  match s.test with
  | .code n => sameUnder s.letters n c
  | .otherThan n => !sameUnder s.letters n c
  | .any => true
  | .anyButNewline => c != '\n'
  | .set negated items => items.any (·.holds s.letters c) != negated

def CaseRule.same (letters : CaseRule) (a b : Char) : Bool :=
  match letters with
  | .exact => a == b
  | .ascii => a.toLower == b.toLower
  | .unicode => simpleLower a == simpleLower b

end LogAnalysis.Pattern
