import LogAnalysis.Text.Basic
import LogAnalysis.Text.Letter
import LogAnalysis.Text.Numeral

/-!
The lexemes of a date in free form: words, numbers, single blanks and single other characters.

A point inside a word or between two points belongs to the run at first; a run that turned out to hold words or more than
one point is then broken at its points and commas, which stay as lexemes of their own.
-/

namespace LogAnalysis.Calendar.Lexeme

open Text

inductive Mode
  | word
  | number
  | pointedWord
  | pointedNumber
deriving DecidableEq

/-- A run that has been read: its mode at the end, whether letters were taken since its second character, its
characters in reverse, and the rest of the text. -/
structure Run where
  mode : Mode
  letters : Bool
  reversed : List Char
  rest : List Char

def extend (mode : Mode) (letters : Bool) (reversed : List Char) : List Char → Run
  | [] => ⟨mode, letters, reversed, []⟩
  | c :: rest =>
    let lastIsPoint := reversed.head? == some '.'
    match mode with
    | .word =>
      if isLetter c then extend .word true (c :: reversed) rest
      else if c = '.' then extend .pointedWord true (c :: reversed) rest
      else ⟨.word, true, reversed, c :: rest⟩
    | .number =>
      if isDigit c then extend .number letters (c :: reversed) rest
      else if c = '.' || (c = ',' && 2 ≤ reversed.length) then
        extend .pointedNumber letters (c :: reversed) rest
      else ⟨.number, letters, reversed, c :: rest⟩
    | .pointedWord =>
      if c = '.' || isLetter c then extend .pointedWord true (c :: reversed) rest
      else if isDigit c && lastIsPoint then extend .pointedNumber true (c :: reversed) rest
      else ⟨.pointedWord, true, reversed, c :: rest⟩
    | .pointedNumber =>
      if c = '.' || isDigit c then extend .pointedNumber letters (c :: reversed) rest
      else if isLetter c && lastIsPoint then extend .pointedWord letters (c :: reversed) rest
      else ⟨.pointedNumber, letters, reversed, c :: rest⟩

def breakUp : List Char → List (List Char)
  | [] => []
  | c :: rest =>
    if c = '.' || c = ',' then [c] :: breakUp rest
    else match breakUp rest with
      | [] => [[c]]
      | piece :: pieces =>
        if piece = ['.'] || piece = [','] then [c] :: piece :: pieces
        else (c :: piece) :: pieces

def Run.lexemes (run : Run) : List (List Char) :=
  let cs := run.reversed.reverse
  let pointed := run.mode = .pointedWord || run.mode = .pointedNumber
  let last := run.reversed.head?
  if pointed && (run.letters || 1 < cs.count '.' || last == some '.' || last == some ',') then
    breakUp cs
  else if run.mode = .pointedNumber && !cs.contains '.' then
    -- One comma and no point: a decimal comma.
    [cs.map fun c => if c = ',' then '.' else c]
  else [cs]

theorem length_rest_extend (mode : Mode) (letters : Bool) (reversed cs : List Char) :
    (extend mode letters reversed cs).rest.length ≤ cs.length := by
  induction cs generalizing mode letters reversed with
  | nil => simp [extend]
  | cons c rest ih =>
    have step : ∀ m l r, (extend m l r rest).rest.length ≤ (c :: rest).length := fun m l r =>
      Nat.le_trans (ih m l r) (by simp)
    unfold extend
    cases mode <;> simp only <;> (repeat' split) <;> first | exact step _ _ _ | simp

def ofText : List Char → List (List Char)
  | [] => []
  | c :: rest =>
    if isLetter c || isDigit c then
      let run := extend (if isLetter c then .word else .number) false [c] rest
      have := length_rest_extend (if isLetter c then .word else .number) false [c] rest
      run.lexemes ++ ofText run.rest
    else if isBlank c then [' '] :: ofText rest
    else [c] :: ofText rest
termination_by cs => cs.length
decreasing_by all_goals simp_wf <;> omega

end LogAnalysis.Calendar.Lexeme
