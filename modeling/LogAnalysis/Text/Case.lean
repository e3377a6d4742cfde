import LogAnalysis.Text.Case.Table

/-!
Lower and upper case of text, with the expansions of single characters and the final sigma, and the
one-to-one mappings that comparison without regard to case uses.
-/

namespace LogAnalysis.Text

/-! ## One character -/

def lowerChar (c : Char) : List Char :=
  if c.toNat < 128 then [c.toLower]
  else if c.toNat = 0x130 then ['i', Char.ofNat 0x307]
  else [Char.ofNat (mapCase lowerRuns c.toNat)]

def upperChar (c : Char) : List Char :=
  if c.toNat < 128 then [c.toUpper]
  else match upperExpansions.lookup c.toNat with
    | some codes => codes.map Char.ofNat
    | none => [Char.ofNat (mapCase upperRuns c.toNat)]

def simpleLower (c : Char) : Char := (lowerChar c).headD c

def simpleUpper (c : Char) : Char := (upperChar c).headD c

def hasCase (c : Char) : Bool := c != simpleLower c || c != simpleUpper c

/-! ## Text -/

def isCased (c : Char) : Bool :=
  if c.toNat < 128 then c.isAlpha else inRanges casedRanges c

def isCaseIgnorable (c : Char) : Bool := inRanges caseIgnorableRanges c

def leadsToCased : List Char → Bool
  | [] => false
  | c :: rest => if isCaseIgnorable c then leadsToCased rest else isCased c

def lowerAfter (afterCased : Bool) : List Char → List Char
  | [] => []
  | c :: rest =>
    let here :=
      -- A sigma that ends a word becomes the final sigma.
      if c = 'Σ' then [if afterCased && !leadsToCased rest then 'ς' else 'σ'] else lowerChar c
    let after := if isCaseIgnorable c then afterCased else isCased c
    here ++ lowerAfter after rest

def lower (cs : List Char) : List Char := lowerAfter false cs

def upper (cs : List Char) : List Char := cs.flatMap upperChar

def lowered (s : String) : String := String.ofList (lower s.toList)

def uppered (s : String) : String := String.ofList (upper s.toList)

end LogAnalysis.Text
