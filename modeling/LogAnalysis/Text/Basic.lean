import LogAnalysis.Text.Blank

/-!
Trimming, splitting and searching of character sequences, with the same operations on strings.

White space is `isBlank`. `splitOn` keeps empty pieces, so that joining the pieces with the separator gives
the sequence back (`joinWith_splitOn`); `words` keeps none.
-/

namespace LogAnalysis.Text

/-! ## Character sequences -/

def trimRight (cs : List Char) : List Char :=
  cs.foldr (fun c rest => if rest.isEmpty && isBlank c then [] else c :: rest) []

def trim (cs : List Char) : List Char := trimRight (cs.dropWhile isBlank)

def blank (cs : List Char) : Bool := cs.all isBlank

def splitOn (separator : Char) : List Char → List (List Char)
  | [] => [[]]
  | c :: rest =>
    if c = separator then [] :: splitOn separator rest
    else match splitOn separator rest with
      | [] => [[c]]
      | piece :: pieces => (c :: piece) :: pieces

def joinWith (separator : List Char) : List (List Char) → List Char
  | [] => []
  | [piece] => piece
  | piece :: pieces => piece ++ separator ++ joinWith separator pieces

def words : List Char → List (List Char)
  | [] => []
  | c :: rest =>
    if isBlank c then words rest
    else match rest with
      | [] => [[c]]
      | d :: _ =>
        if isBlank d then [c] :: words rest
        else match words rest with
          | [] => [[c]]
          | word :: others => (c :: word) :: others

def occursIn (needle : List Char) : List Char → Bool
  | [] => needle.isEmpty
  | c :: rest => needle.isPrefixOf (c :: rest) || occursIn needle rest

def indexOf? (needle : List Char) : List Char → Option Nat
  | [] => if needle.isEmpty then some 0 else none
  | c :: rest =>
    if needle.isPrefixOf (c :: rest) then some 0 else (indexOf? needle rest).map (· + 1)

theorem splitOn_ne_nil (separator : Char) (cs : List Char) : splitOn separator cs ≠ [] := by
  cases cs with
  | nil => simp [splitOn]
  | cons c rest =>
    simp only [splitOn]
    split
    · simp
    · split <;> simp

theorem joinWith_splitOn (separator : Char) (cs : List Char) :
    joinWith [separator] (splitOn separator cs) = cs := by
  induction cs with
  | nil => rfl
  | cons c rest ih =>
    have nonempty := splitOn_ne_nil separator rest
    simp only [splitOn]
    split
    · next h =>
      cases pieces : splitOn separator rest with
      | nil => exact absurd pieces nonempty
      | cons piece others => rw [pieces] at ih; simp [joinWith, ih, h]
    · split
      · next h => exact absurd h nonempty
      · next piece others h =>
        rw [h] at ih
        cases others <;> simp_all [joinWith]

theorem indexOf?_isSome (needle cs : List Char) : (indexOf? needle cs).isSome = occursIn needle cs := by
  induction cs with
  | nil => simp only [indexOf?, occursIn]; split <;> simp_all
  | cons c rest ih => simp only [indexOf?, occursIn]; split <;> simp_all

/-! ## Strings -/

def trimmed (s : String) : String := String.ofList (trim s.toList)

def isBlankString (s : String) : Bool := blank s.toList

def pieces (separator : Char) (s : String) : List String :=
  (splitOn separator s.toList).map String.ofList

def joined (separator : String) (parts : List String) : String := separator.intercalate parts

def within (needle s : String) : Bool := occursIn needle.toList s.toList

def startsWith (s start : String) : Bool := start.toList.isPrefixOf s.toList

def endsWith (s ending : String) : Bool := ending.toList.isSuffixOf s.toList

end LogAnalysis.Text
