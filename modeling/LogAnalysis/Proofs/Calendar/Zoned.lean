import LogAnalysis.Proofs.Calendar.Notation
import Mathlib.Tactic.Ring

/-!
# Timestamps with a zone

A date and a time in numbers (`Written`) with a zone after them (`WrittenZone`), and what international notation says of
their text (`Iso.parse?_text`).
-/

namespace LogAnalysis.Calendar

open Numeral (IsNumeral)

/-- A date and a time as they are written: numbers of four and two digits, a blank or a letter between date and time, and
perhaps a fraction of a second. -/
structure Written where
  date : Date
  hour : Nat
  minute : Nat
  second : Nat
  separator : Char
  fraction : List Char
  year_lt : date.year < 10000
  month_lt : date.month < 100
  day_lt : date.day < 100
  hour_lt : hour < 100
  minute_lt : minute < 100
  second_lt : second < 100
  separates : separator = ' ' ∨ separator = 'T'
  isFraction : fraction = [] ∨
    ∃ mark d ds, fraction = mark :: d :: ds ∧ (mark = '.' ∨ mark = ',') ∧ ∀ c ∈ d :: ds, c.isDigit = true

/-- A zone as it is written: the letter for universal time, or hours and minutes after a sign. -/
inductive WrittenZone
  | universal
  | offset (behind : Bool) (hours minutes : Fin 100)

namespace WrittenZone

def text : WrittenZone → List Char
  | universal => ['Z']
  | offset behind hours minutes =>
      (if behind then '-' else '+') :: ((padded 2 hours).toList ++ ':' :: (padded 2 minutes).toList)

def seconds : WrittenZone → Int
  | universal => 0
  | offset behind hours minutes => (if behind then -1 else 1) * (hours * 3600 + minutes * 60 : Nat)

theorem mem_text {z : WrittenZone} {c : Char} (member : c ∈ z.text) : c.isDigit = true ∨ c ∈ ['Z', '-', '+', ':'] := by
  cases z with
  | universal =>
      obtain rfl := List.mem_singleton.mp member
      decide
  | offset behind hours minutes =>
      have digit {n : Nat} (inNumeral : c ∈ (padded 2 n).toList) : c.isDigit = true := isDigit_of_mem_padded inNumeral
      simp only [text, List.mem_append, List.mem_cons, List.not_mem_nil, or_false] at member ⊢
      cases behind <;> grind

end WrittenZone

namespace Written

variable (w : Written)

def time : List Char :=
  (padded 2 w.hour).toList ++ ':' :: ((padded 2 w.minute).toList ++ ':' :: ((padded 2 w.second).toList ++ w.fraction))

def text : List Char :=
  (padded 4 w.date.year).toList ++ '-' :: ((padded 2 w.date.month).toList ++ '-' :: ((padded 2 w.date.day).toList ++
    w.separator :: w.time))

def wall : WallTime := ⟨w.date, w.hour, w.minute, w.second, Iso.microseconds (w.fraction.drop 1)⟩

theorem mem_time {w : Written} {c : Char} (member : c ∈ w.time) : c.isDigit = true ∨ c ∈ [':', '.', ','] := by
  have digit {n : Nat} (inNumeral : c ∈ (padded 2 n).toList) : c.isDigit = true := isDigit_of_mem_padded inNumeral
  have fraction (inFraction : c ∈ w.fraction) : c.isDigit = true ∨ c = '.' ∨ c = ',' := by
    rcases w.isFraction with none | ⟨mark, d, ds, some, isMark, digits⟩
    · rw [none] at inFraction
      cases inFraction
    · rw [some] at inFraction
      rcases List.mem_cons.mp inFraction with rfl | inDigits
      · exact .inr isMark
      · exact .inl (digits c inDigits)
  simp only [time, List.mem_append, List.mem_cons, List.not_mem_nil, or_false] at member ⊢
  grind

theorem exists_before_time (w : Written) : ∃ y before, w.text = y :: before ++ w.time ∧ y.isDigit = true := by
  have numeral := isNumeral_padded (show 0 < 4 by decide) w.year_lt
  obtain ⟨a, b, c, d, digits⟩ := List.length_eq_four.mp numeral.length
  have isDigit := numeral.digits
  rw [digits] at isDigit
  refine ⟨a, [b, c, d] ++ '-' :: ((padded 2 w.date.month).toList ++ '-' :: ((padded 2 w.date.day).toList ++ [w.separator])),
    ?_, isDigit a List.mem_cons_self⟩
  simp [text, digits]

end Written

theorem exists_digits_padded {n : Nat} (small : n < 100) :
    ∃ a b : Char, (padded 2 n).toList = [a, b] ∧ a.isDigit = true ∧ b.isDigit = true := by
  have numeral := isNumeral_padded (show 0 < 2 by decide) small
  obtain ⟨a, b, digits⟩ := List.length_eq_two.mp numeral.length
  have isDigit := numeral.digits
  rw [digits, List.forall_mem_cons, List.forall_mem_singleton] at isDigit
  exact ⟨a, b, digits, isDigit⟩

namespace Iso

theorem number?_padded {n : Nat} (small : n < 100) : number? (padded 2 n).toList = some (n : Int) :=
  number?_of_isNumeral (isNumeral_padded (by decide) small) (by decide) (by decide)

theorem zone?_text (z : WrittenZone) : zone? z.text = some z.seconds ∨ zone? z.text = none := by
  cases z with
  | universal => exact .inl rfl
  | offset behind hours minutes =>
    have readHours := number?_padded hours.isLt
    have readMinutes := number?_padded minutes.isLt
    obtain ⟨h, h', digits, -⟩ := exists_digits_padded hours.isLt
    obtain ⟨m, m', digits', -⟩ := exists_digits_padded minutes.isLt
    rw [digits] at readHours
    rw [digits'] at readMinutes
    have value : zone? (WrittenZone.offset behind hours minutes).text =
        if (hours : Int) = 0 ∧ (minutes : Int) = 0 then some 0
        else if 59 < (minutes : Int) ∨ 23 < (hours : Int) then none
        else some ((if behind then -1 else 1) * ((hours : Int) * 60 + minutes) * 60) := by
      cases behind <;> simp [WrittenZone.text, digits, digits', zone?, readHours, readMinutes]
    have seconds : (WrittenZone.offset behind hours minutes).seconds =
        (if behind then -1 else 1) * ((hours : Int) * 60 + minutes) * 60 := by
      unfold WrittenZone.seconds
      push_cast
      ring
    rw [value, seconds]
    by_cases zero : (hours : Int) = 0 ∧ (minutes : Int) = 0
    · left
      rw [if_pos zero, zero.1, zero.2]
      simp
    · rw [if_neg zero]
      split
      · exact .inr rfl
      · exact .inl rfl

theorem exists_zone (z : WrittenZone) : ∃ c rest, z.text = c :: rest ∧ (c = '-' ∨ c = '+' ∨ c = 'Z') := by
  cases z with
  | universal => exact ⟨'Z', [], rfl, .inr (.inr rfl)⟩
  | offset behind hours minutes =>
    cases behind with
    | true => exact ⟨'-', _, rfl, .inl rfl⟩
    | false => exact ⟨'+', _, rfl, .inr (.inl rfl)⟩

theorem timeFrom_fraction (w : Written) (z : WrittenZone) (steps : Nat) (hour minute second : Int) :
    timeFrom (steps + 2) 3 true ⟨hour, minute, second, 0, none⟩ (w.fraction ++ z.text) =
      (zone? z.text).map fun zone => ⟨hour, minute, second, w.wall.microsecond, some zone⟩ := by
  obtain ⟨c, rest, isZone, mark⟩ := exists_zone z
  have reads (steps part : Nat) (t : Time) : timeFrom (steps + 1) part true t z.text =
      (zone? z.text).map fun zone => { t with zone := some zone } := by
    have starts : c = '-' ∨ c = '+' ∨ c = 'Z' ∨ c = 'z' := by
      rcases mark with dash | plus | letter
      · exact .inl dash
      · exact .inr (.inl plus)
      · exact .inr (.inr (.inl letter))
    rw [isZone, timeFrom, if_pos starts]
    cases zone? (c :: rest) <;> rfl
  have noDigit : c.isDigit = false := by
    rcases mark with rfl | rfl | rfl <;> rfl
  rcases w.isFraction with none | ⟨mark', d, ds, some, isMark, digits⟩
  · rw [none, List.nil_append, reads]
    simp [Written.wall, none, microseconds, Numeral.digitsValue]
  · have takes : (d :: ds ++ z.text).takeWhile Char.isDigit = d :: ds := by
      rw [isZone, List.takeWhile_append_of_pos digits, List.takeWhile_cons_of_neg (by simp [noDigit]), List.append_nil]
    have drops : (d :: ds ++ z.text).dropWhile Char.isDigit = z.text := by
      rw [isZone, List.dropWhile_append_of_pos digits, List.dropWhile_cons_of_neg (by simp [noDigit])]
    have noZone : ¬ (mark' = '-' ∨ mark' = '+' ∨ mark' = 'Z' ∨ mark' = 'z') := by
      rcases isMark with rfl | rfl <;> decide
    rw [some, List.cons_append, timeFrom, if_neg noZone]
    rw [List.cons_append] at takes drops
    simp [takes, drops, isMark, reads, Written.wall, some]

theorem time?_text (w : Written) (z : WrittenZone) (inDay : w.hour < 24) :
    time? (w.time ++ z.text) = (zone? z.text).map fun zone =>
      ⟨w.hour, w.minute, w.second, w.wall.microsecond, some zone⟩ := by
  obtain ⟨h, h', digits, isDigit, -⟩ := exists_digits_padded w.hour_lt
  obtain ⟨m, m', digits', -⟩ := exists_digits_padded w.minute_lt
  obtain ⟨s, s', digits'', -⟩ := exists_digits_padded w.second_lt
  have readHour := number?_padded w.hour_lt
  have readMinute := number?_padded w.minute_lt
  have readSecond := number?_padded w.second_lt
  rw [digits] at readHour
  rw [digits'] at readMinute
  rw [digits''] at readSecond
  have notSign : ¬ (h = '-' ∨ h = '+' ∨ h = 'Z' ∨ h = 'z') := by
    rintro (rfl | rfl | rfl | rfl) <;> exact absurd isDigit (by decide)
  have notEnd : (w.hour : Int) ≠ 24 := by omega
  have rest := timeFrom_fraction w z 1 w.hour w.minute w.second
  cases zone : zone? z.text with
  | none =>
      rw [zone] at rest
      simp [time?, timeFrom, Written.time, digits, digits', digits'', notSign, readHour, readMinute, readSecond, Time.set,
        rest]
  | some seconds =>
      rw [zone] at rest
      simp [time?, timeFrom, Written.time, digits, digits', digits'', notSign, readHour, readMinute, readSecond, Time.set,
        rest, notEnd]

theorem mem_text {w : Written} {z : WrittenZone} {c : Char} (member : c ∈ w.text ++ z.text) :
    c.isDigit = true ∨ c ∈ ['-', '+', 'T', 'Z', ' ', ':', '.', ','] := by
  have digit {width n : Nat} (inNumeral : c ∈ (padded width n).toList) : c.isDigit = true :=
    isDigit_of_mem_padded inNumeral
  have time (inTime : c ∈ w.time) := w.mem_time inTime
  have zone (inZone : c ∈ z.text) := z.mem_text inZone
  have separates := w.separates
  simp only [Written.text, List.mem_append, List.mem_cons, List.not_mem_nil, or_false] at member time zone ⊢
  grind

theorem isAscii_text (w : Written) (z : WrittenZone) : (w.text ++ z.text).any (128 ≤ ·.toNat) = false := by
  refine List.any_eq_false.mpr fun c member => ?_
  rw [decide_eq_true_eq, Nat.not_le]
  rcases mem_text member with isDigit | isMark
  · have bounds : 48 ≤ c.toNat ∧ c.toNat ≤ 57 := Char.isDigit_iff_toNat.mp isDigit
    omega
  · have table : ['-', '+', 'T', 'Z', ' ', ':', '.', ','].all (·.toNat < 128) = true := by decide
    simpa using List.all_eq_true.mp table c isMark

theorem parse?_text (w : Written) (z : WrittenZone) (valid : w.wall.isValid = true) :
    parse? (String.ofList (w.text ++ z.text)) = (zone? z.text).map fun zone => (w.wall, some zone) := by
  have inDay : w.hour < 24 := by
    simp only [WallTime.isValid, Bool.and_eq_true, decide_eq_true_eq] at valid
    exact valid.1.1.1.2
  have ascii := isAscii_text w z
  have time := time?_text w z inDay
  have date := calendarDate?_of_numerals (isNumeral_padded (by decide) w.year_lt) (isNumeral_padded (by decide) w.month_lt)
    (isNumeral_padded (by decide) w.day_lt) (w.separator :: (w.time ++ z.text))
  have whole : w.text ++ z.text = (padded 4 w.date.year).toList ++ '-' :: ((padded 2 w.date.month).toList ++
      '-' :: ((padded 2 w.date.day).toList ++ w.separator :: (w.time ++ z.text))) := by
    simp [Written.text]
  rw [← whole] at date
  cases zone : zone? z.text with
  | some seconds =>
      rw [zone] at time
      refine parse?_of_parts w.separator ?_ ?_ time valid
      · rw [String.toList_ofList, ascii]
      · rw [String.toList_ofList]
        exact date
  | none =>
      rw [zone] at time
      simp [parse?, ascii, date, time]

end Iso

end LogAnalysis.Calendar
