import LogAnalysis.Text.Basic

/-!
Names of characters that a rule forms: Korean syllables are named by their sounds, ideographs and the
characters of a few scripts by their code points.
-/

namespace LogAnalysis.Text

/-! ## Korean syllables -/

def syllableOpenings : List (List Char) :=
  ["G", "GG", "N", "D", "DD", "R", "M", "B", "BB", "S", "SS", "", "J", "JJ", "C", "K", "T", "P",
    "H"].map String.toList

def syllableVowels : List (List Char) :=
  ["A", "AE", "YA", "YAE", "EO", "E", "YEO", "YE", "O", "WA", "WAE", "OE", "YO", "U", "WEO", "WE",
    "WI", "YU", "EU", "YI", "I"].map String.toList

def syllableClosings : List (List Char) :=
  ["", "G", "GG", "GS", "N", "NJ", "NH", "D", "L", "LG", "LM", "LB", "LS", "LT", "LP", "LH", "M", "B",
    "BS", "S", "SS", "NG", "J", "C", "K", "T", "P", "H"].map String.toList

def longestSound? (sounds : List (List Char)) (cs : List Char) : Option (Nat × List Char) :=
  [3, 2, 1, 0].findSome? fun n => (sounds.idxOf? (cs.take n)).map fun place => (place, cs.drop n)

def syllable? (sounds : List Char) : Option Nat := do
  let (opening, rest) ← longestSound? syllableOpenings sounds
  let (vowel, rest) ← longestSound? syllableVowels rest
  let (closing, rest) ← longestSound? syllableClosings rest
  if rest.isEmpty then some (0xAC00 + (opening * 21 + vowel) * 28 + closing) else none

example : syllable? "GAG".toList = some 0xAC01 := by decide +kernel

/-! ## Names that end in the code point -/

def codeDigit? (c : Char) : Option Nat :=
  if c.isDigit then some (c.toNat - 48)
  else if 'A' ≤ c && c ≤ 'F' then some (c.toNat - 55)
  else none

def codeIn? (ranges : List (Nat × Nat)) (digits : List Char) : Option Nat := do
  if digits.length != 4 && digits.length != 5 then none
  let n ← digits.foldlM (fun n c => (codeDigit? c).map (16 * n + ·)) 0
  if ranges.any fun r => r.1 ≤ n && n ≤ r.2 then some n else none

def ideographRanges : List (Nat × Nat) :=
  [(0x3400, 0x4DBF), (0x4E00, 0x9FFF), (0x20000, 0x2A6DF), (0x2A700, 0x2B738), (0x2B740, 0x2B81D),
    (0x2B820, 0x2CEA1), (0x2CEB0, 0x2EBE0), (0x30000, 0x3134A)]

def compatibilityRanges : List (Nat × Nat) :=
  [(0xF900, 0xFA6D), (0xFA70, 0xFAD9), (0x2F800, 0x2FA1D)]

def after? (opening : String) (cs : List Char) : Option (List Char) :=
  if opening.toList.isPrefixOf cs then some (cs.drop opening.length) else none

def capitalRule? (name : List Char) : Option Nat :=
  ((after? "HANGUL SYLLABLE " name).bind syllable?).or
    ((after? "CJK UNIFIED IDEOGRAPH-" name).bind (codeIn? ideographRanges))

def codedRule? (name : List Char) : Option Nat :=
  [("CJK COMPATIBILITY IDEOGRAPH-", compatibilityRanges),
    ("KHITAN SMALL SCRIPT CHARACTER-", [(0x18B00, 0x18CD5)]),
    ("NUSHU CHARACTER-", [(0x1B170, 0x1B2FB)])].findSome? fun (opening, ranges) => do
      let digits ← after? opening name
      if digits.head? = some '0' then none else codeIn? ranges digits

end LogAnalysis.Text
