/-!
Patterns of file names: a star for any text, a question mark for any character, and characters in brackets of
which one has to stand there.
-/

namespace LogAnalysis

inductive NamePiece
  | anything
  | anyCharacter
  | oneOf (ranges : List (Char × Char))
  | noneOf (ranges : List (Char × Char))
  | character (c : Char)
deriving Repr, DecidableEq

namespace NamePiece

def inRange (c : Char) (range : Char × Char) : Bool := range.1 ≤ c && c ≤ range.2

def admits : NamePiece → Char → Bool
  | anything, _ | anyCharacter, _ => true
  | oneOf ranges, c => ranges.any (inRange c)
  | noneOf ranges, c => !ranges.any (inRange c)
  | character d, c => c = d

end NamePiece

abbrev NamePattern := List NamePiece

namespace NamePattern

def isPattern (cs : List Char) : Bool := cs.any "*?[".toList.contains

/-! ## Reading -/

/-- The text up to the bracket that closes a set, and the text after it. -/
def bracketed? (cs : List Char) : Option (List Char × List Char) :=
  let mark := cs.takeWhile (· = '!') |>.take 1
  -- A bracket that comes first does not close the set.
  let bracket := (cs.drop mark.length).takeWhile (· = ']') |>.take 1
  let start := mark ++ bracket
  let inner := (cs.drop start.length).takeWhile (· ≠ ']')
  match cs.drop (start.length + inner.length) with
  | _ :: rest => some (start ++ inner, rest)
  | [] => none

structure SetMember where
  first : Char
  last : Option Char := none

def SetMember.range (m : SetMember) : Char × Char := (m.first, m.last.getD m.first)

def members : List Char → List SetMember
  | a :: '-' :: b :: rest => ⟨a, b⟩ :: members rest
  | a :: rest => { first := a } :: members rest
  | [] => []

/-- The part that a text between brackets stands for. -/
def setOf (cs : List Char) : NamePiece :=
  let all : List SetMember := match cs with
    | '!' :: rest => { first := '!' } :: members rest
    | cs => members cs
  -- Ranges that run backwards do not count.
  match all.filter fun m => m.range.1 ≤ m.range.2 with
  | ⟨'!', none⟩ :: rest => .noneOf (rest.map SetMember.range)
  -- The mark that excludes begins no range.
  | ⟨'!', some last⟩ :: rest => .noneOf (('-', '-') :: (last, last) :: rest.map SetMember.range)
  | rest => .oneOf (rest.map SetMember.range)

def parts : (fuel : Nat) → List Char → NamePattern
  | 0, _ | _, [] => []
  | fuel + 1, '*' :: rest => .anything :: parts fuel rest
  | fuel + 1, '?' :: rest => .anyCharacter :: parts fuel rest
  | fuel + 1, '[' :: rest =>
    match bracketed? rest with
    | some (inner, rest) => setOf inner :: parts fuel rest
    -- A bracket that is not closed stands for itself.
    | none => .character '[' :: parts fuel rest
  | fuel + 1, c :: rest => .character c :: parts fuel rest

def ofChars (cs : List Char) : NamePattern := parts cs.length cs

/-! ## Matching -/

def ends : List Char → List (List Char)
  | [] => [[]]
  | c :: rest => (c :: rest) :: ends rest

/-- What may be left of a text after one more part, if before it one of some ends was left; the longest come
first. -/
def leftAfter (rests : List (List Char)) : NamePiece → List (List Char)
  | .anything => (rests.head?.map ends).getD []
  | piece => rests.filterMap fun
    | [] => none
    | c :: rest => if piece.admits c then some rest else none

def admits (p : NamePattern) (cs : List Char) : Bool := (p.foldl leftAfter [cs]).contains []

end NamePattern

end LogAnalysis
