import LogAnalysis.Calendar.Lexeme
import LogAnalysis.Proofs.Calendar.Zoned

/-!
# Lexemes of timestamps

A number with its fraction is one lexeme in free form, and so is every mark and letter of a timestamp with a zone
(`Lexeme.ofText_text`).
-/

namespace LogAnalysis.Calendar

open Text
open Numeral (IsNumeral)

/-! ## Lexemes -/

namespace Lexeme

theorem classes_of_digit {c : Char} (digit : c.isDigit = true) : isLetter c = false ∧ Text.isDigit c = true ∧
    c ≠ '.' ∧ c ≠ ',' := by
  have table : ∀ n < 10, isLetter (Nat.digitChar n) = false ∧ Text.isDigit (Nat.digitChar n) = true ∧
      Nat.digitChar n ≠ '.' ∧ Nat.digitChar n ≠ ',' := by decide
  obtain ⟨n, small, rfl⟩ := exists_digitChar digit
  exact table n small

def Stops (c : Char) : Prop := Text.isDigit c = false ∧ c ≠ '.' ∧ c ≠ ','

theorem extend_number {ds cs : List Char} (digits : ∀ c ∈ ds, c.isDigit = true) (stops : ∀ c ∈ cs.head?, Stops c)
    (letters : Bool) (reversed : List Char) :
    extend .number letters reversed (ds ++ cs) = ⟨.number, letters, ds.reverse ++ reversed, cs⟩ := by
  induction ds generalizing reversed with
  | nil =>
      cases cs with
      | nil => rfl
      | cons c cs =>
          obtain ⟨noDigit, noPoint, noComma⟩ := stops c rfl
          simp [extend, noDigit, noPoint, noComma]
  | cons d ds ih =>
      obtain ⟨first, others⟩ := List.forall_mem_cons.mp digits
      simp [extend, (classes_of_digit first).2.1, ih others]

theorem extend_pointedNumber {ds cs : List Char} (digits : ∀ c ∈ ds, c.isDigit = true) (stops : ∀ c ∈ cs.head?, Stops c)
    (letters : Bool) {reversed : List Char} (last : ds = [] → reversed.head? ≠ some '.') :
    extend .pointedNumber letters reversed (ds ++ cs) = ⟨.pointedNumber, letters, ds.reverse ++ reversed, cs⟩ := by
  induction ds generalizing reversed with
  | nil =>
      cases cs with
      | nil => rfl
      | cons c cs =>
          obtain ⟨noDigit, noPoint, noComma⟩ := stops c rfl
          simp [extend, noDigit, noPoint, last rfl]
  | cons d ds ih =>
      obtain ⟨first, others⟩ := List.forall_mem_cons.mp digits
      have noPoint := (classes_of_digit first).2.2.1
      have rest := @ih others (d :: reversed) fun _ => by simp [noPoint]
      simp [extend, (classes_of_digit first).2.1, rest]

theorem ofText_number {ds cs : List Char} (digits : ∀ c ∈ ds, c.isDigit = true) (nonempty : ds ≠ [])
    (stops : ∀ c ∈ cs.head?, Stops c) : ofText (ds ++ cs) = ds :: ofText cs := by
  cases ds with
  | nil => exact absurd rfl nonempty
  | cons d ds =>
      obtain ⟨first, others⟩ := List.forall_mem_cons.mp digits
      obtain ⟨noLetter, isDigit, -⟩ := classes_of_digit first
      rw [List.cons_append, ofText]
      simp [noLetter, isDigit, extend_number others stops, Run.lexemes]

theorem extend_fraction {b mark : Char} {ds cs : List Char} (isDigit : b.isDigit = true)
    (digits : ∀ c ∈ ds, c.isDigit = true) (nonempty : ds ≠ []) (isMark : mark = '.' ∨ mark = ',') (stops : ∀ c ∈ cs.head?, Stops c) (a : Char) :
    extend .number false [a] (b :: mark :: (ds ++ cs)) = ⟨.pointedNumber, false, ds.reverse ++ [mark, b, a], cs⟩ := by
  rw [← extend_pointedNumber digits stops false fun none => absurd none nonempty]
  rcases isMark with rfl | rfl
  · simp [extend, (classes_of_digit isDigit).2.1, show Text.isDigit '.' = false by decide]
  · simp [extend, (classes_of_digit isDigit).2.1, show Text.isDigit ',' = false by decide]

theorem lexemes_fraction {a b mark : Char} {ds : List Char} (digits : ∀ c ∈ [a, b], c.isDigit = true)
    (digits' : ∀ c ∈ ds, c.isDigit = true) (nonempty : ds ≠ []) (isMark : mark = '.' ∨ mark = ',') (cs : List Char) :
    Run.lexemes ⟨.pointedNumber, false, ds.reverse ++ [mark, b, a], cs⟩ = [a :: b :: '.' :: ds] := by
  have noPoint : ∀ c ∈ ds, c ≠ '.' ∧ c ≠ ',' := fun c member => (classes_of_digit (digits' c member)).2.2
  have noPoint' : ∀ c ∈ [a, b], c ≠ '.' ∧ c ≠ ',' := fun c member => (classes_of_digit (digits c member)).2.2
  simp only [List.forall_mem_cons, List.not_mem_nil, false_implies, implies_true, and_true] at noPoint'
  obtain ⟨⟨noPointA, noCommaA⟩, noPointB, noCommaB⟩ := noPoint'
  have noPoints : ds.count '.' = 0 := List.count_eq_zero.mpr fun member => (noPoint '.' member).1 rfl
  have noCommas : ds.map (fun c => if c = ',' then '.' else c) = ds := by
    refine (List.map_congr_left fun c member => ?_).trans (List.map_id _)
    rw [if_neg (noPoint c member).2]
    rfl
  obtain ⟨start, last, rfl⟩ := (List.eq_nil_or_concat' ds).resolve_left nonempty
  have lastDigit := noPoint last (List.mem_append_right start List.mem_cons_self)
  have whole : ((start ++ [last]).reverse ++ [mark, b, a]).reverse = a :: b :: mark :: (start ++ [last]) := by simp
  have first : ((start ++ [last]).reverse ++ [mark, b, a]).head? = some last := by simp
  have points : (a :: b :: mark :: (start ++ [last])).count '.' ≤ 1 := by
    rw [List.count_cons_of_ne noPointA, List.count_cons_of_ne noPointB, List.count_cons, noPoints]
    split <;> decide
  unfold Run.lexemes
  dsimp only
  rw [whole, first]
  have noPointStart : '.' ∉ start := fun member => (noPoint '.' (List.mem_append_left _ member)).1 rfl
  rcases isMark with rfl | rfl
  · simp [Nat.not_lt.mpr points, lastDigit]
  · simp [Nat.not_lt.mpr points, lastDigit, noCommas, noCommaA, noCommaB, noPointA.symm, noPointB.symm, lastDigit.1.symm,
      noPointStart]

theorem ofText_fraction {a b mark : Char} {ds cs : List Char} (digits : ∀ c ∈ [a, b], c.isDigit = true)
    (digits' : ∀ c ∈ ds, c.isDigit = true) (nonempty : ds ≠ []) (isMark : mark = '.' ∨ mark = ',')
    (stops : ∀ c ∈ cs.head?, Stops c) : ofText (a :: b :: mark :: (ds ++ cs)) = (a :: b :: '.' :: ds) :: ofText cs := by
  obtain ⟨noLetter, isDigit, -⟩ := classes_of_digit (digits a List.mem_cons_self)
  have isDigit' := digits b (List.mem_cons_of_mem a List.mem_cons_self)
  rw [ofText]
  simp only [noLetter, isDigit, Bool.or_true, if_true, Bool.false_eq_true, if_false,
    extend_fraction isDigit' digits' nonempty isMark stops, lexemes_fraction digits digits' nonempty isMark]
  rfl

theorem ofText_mark {c : Char} (noLetter : isLetter c = false) (noDigit : Text.isDigit c = false)
    (noBlank : isBlank c = false) (cs : List Char) : ofText (c :: cs) = [c] :: ofText cs := by
  rw [ofText]
  simp [noLetter, noDigit, noBlank]

theorem ofText_padded {width n : Nat} (positive : 0 < width) (small : n < 10 ^ width) {c : Char} (stops : Stops c)
    (cs : List Char) : ofText ((padded width n).toList ++ c :: cs) = (padded width n).toList :: ofText (c :: cs) := by
  have numeral := isNumeral_padded positive small
  refine ofText_number numeral.digits ?_ fun d first => Option.some.inj first ▸ stops
  intro nothing
  rw [nothing] at numeral
  exact absurd numeral.length (Nat.ne_of_lt positive)

end Lexeme

def Written.seconds (w : Written) : List Char :=
  (padded 2 w.second).toList ++ if w.fraction = [] then [] else '.' :: w.fraction.drop 1

def WrittenZone.lexemes : WrittenZone → List (List Char)
  | universal => [['Z']]
  | offset behind hours minutes =>
      [[if behind then '-' else '+'], (padded 2 hours).toList, [':'], (padded 2 minutes).toList]

namespace Lexeme

theorem stops_zone (z : WrittenZone) : ∀ c ∈ z.text.head?, Stops c := by
  obtain ⟨c, rest, text, mark⟩ := Iso.exists_zone z
  intro d first
  rw [text] at first
  obtain rfl := Option.some.inj first
  rcases mark with rfl | rfl | rfl <;> exact ⟨by decide, by decide, by decide⟩

theorem ofText_zone (z : WrittenZone) : ofText z.text = z.lexemes := by
  cases z with
  | universal =>
      rw [WrittenZone.text, ofText]
      simp [show isLetter 'Z' = true by decide, extend, Run.lexemes, ofText, WrittenZone.lexemes]
  | offset behind hours minutes =>
      have last : ofText (padded 2 minutes).toList = [(padded 2 minutes).toList] := by
        have numeral := isNumeral_padded (show 0 < 2 by decide) minutes.isLt
        have nonempty : (padded 2 minutes).toList ≠ [] := by
          intro nothing
          rw [nothing] at numeral
          exact absurd numeral.length (by decide)
        have whole : ofText ((padded 2 minutes).toList ++ []) = _ := ofText_number numeral.digits nonempty (by simp)
        rwa [List.append_nil, ofText] at whole
      have rest : ofText ((padded 2 hours).toList ++ ':' :: (padded 2 minutes).toList) =
          [(padded 2 hours).toList, [':'], (padded 2 minutes).toList] := by
        rw [ofText_padded (by decide) hours.isLt ⟨by decide, by decide, by decide⟩,
          ofText_mark (by decide) (by decide) (by decide), last]
      cases behind with
      | true =>
          show ofText ('-' :: _) = _
          rw [ofText_mark (by decide) (by decide) (by decide), rest]
          rfl
      | false =>
          show ofText ('+' :: _) = _
          rw [ofText_mark (by decide) (by decide) (by decide), rest]
          rfl

theorem ofText_seconds (w : Written) (z : WrittenZone) :
    ofText ((padded 2 w.second).toList ++ (w.fraction ++ z.text)) = w.seconds :: z.lexemes := by
  obtain ⟨a, b, digits, digitA, digitB⟩ := exists_digits_padded w.second_lt
  have both : ∀ c ∈ [a, b], c.isDigit = true := List.forall_mem_cons.mpr ⟨digitA, List.forall_mem_singleton.mpr digitB⟩
  rw [Written.seconds, digits]
  rcases w.isFraction with none | ⟨mark, d, ds, some, isMark, isDigits⟩
  · rw [none, if_pos rfl, List.nil_append, List.append_nil, ofText_number both (List.cons_ne_nil _ _) (stops_zone z),
      ofText_zone]
  · have nonempty : w.fraction ≠ [] := some ▸ List.cons_ne_nil _ _
    rw [if_neg nonempty, some, ← ofText_zone]
    exact ofText_fraction both isDigits (List.cons_ne_nil _ _) isMark (stops_zone z)

theorem ofText_separator {sep c : Char} (separates : sep = ' ' ∨ sep = 'T') (digit : c.isDigit = true) (cs : List Char) :
    ofText (sep :: c :: cs) = [sep] :: ofText (c :: cs) := by
  rcases separates with rfl | rfl
  · rw [ofText]
    simp [show isLetter ' ' = false by decide, show Text.isDigit ' ' = false by decide, show isBlank ' ' = true by decide]
  · obtain ⟨noLetter, isDigit, noPoint, -⟩ := classes_of_digit digit
    rw [ofText]
    simp [show isLetter 'T' = true by decide, extend, noLetter, noPoint, Run.lexemes]

theorem ofText_text (w : Written) (z : WrittenZone) : ofText (w.text ++ z.text) =
    [(padded 4 w.date.year).toList, ['-'], (padded 2 w.date.month).toList, ['-'], (padded 2 w.date.day).toList,
      [w.separator], (padded 2 w.hour).toList, [':'], (padded 2 w.minute).toList, [':'], w.seconds] ++ z.lexemes := by
  have colon (cs : List Char) : ofText (':' :: cs) = [':'] :: ofText cs := ofText_mark (by decide) (by decide) (by decide) cs
  have dash (cs : List Char) : ofText ('-' :: cs) = ['-'] :: ofText cs := ofText_mark (by decide) (by decide) (by decide) cs
  have stopsColon : Stops ':' := ⟨by decide, by decide, by decide⟩
  have stopsDash : Stops '-' := ⟨by decide, by decide, by decide⟩
  have stopsSeparator : Stops w.separator := by
    rcases w.separates with blank | letter
    · rw [blank]
      exact ⟨by decide, by decide, by decide⟩
    · rw [letter]
      exact ⟨by decide, by decide, by decide⟩
  have time (cs : List Char) : ofText (w.separator :: ((padded 2 w.hour).toList ++ cs)) =
      [w.separator] :: ofText ((padded 2 w.hour).toList ++ cs) := by
    obtain ⟨a, b, digits, digit, -⟩ := exists_digits_padded w.hour_lt
    rw [digits]
    exact ofText_separator w.separates digit _
  rw [Written.text, Written.time]
  simp only [List.append_assoc, List.cons_append]
  rw [ofText_padded (by decide) w.year_lt stopsDash, dash, ofText_padded (by decide) w.month_lt stopsDash, dash,
    ofText_padded (by decide) w.day_lt stopsSeparator, time, ofText_padded (by decide) w.hour_lt stopsColon, colon,
    ofText_padded (by decide) w.minute_lt stopsColon, colon, ofText_seconds]
  rfl

end Lexeme

end LogAnalysis.Calendar
