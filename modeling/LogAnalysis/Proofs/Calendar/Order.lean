import LogAnalysis.Proofs.Calendar.Notation
import Mathlib.Data.String.Basic
import Mathlib.Tactic.IntervalCases

/-!
# Days and instants in order

Days that come later have greater numbers, and instants that come later have greater texts; no two instants share one.

* `Date.dayNumber_lt`: the numbers of days follow year, month and day of the month.
* `Instant.text_lt_text_iff`: the texts of instants in years of four digits are in the order of the instants.
* `Instant.eq_of_text_eq`: in any year the text tells the instant.
-/

namespace LogAnalysis

namespace Calendar.Date

def Precedes (d e : Date) : Prop :=
  d.year < e.year ∨ d.year = e.year ∧ (d.month < e.month ∨ d.month = e.month ∧ d.day < e.day)

def monthFromMarch (d : Date) : Int := if d.month ≤ 2 then (d.month : Int) + 9 else (d.month : Int) - 3

def yearFromMarch (d : Date) : Int := if d.month ≤ 2 then (d.year : Int) - 1 else d.year

def startOfYear (year : Int) : Int := 365 * year + year / 4 - year / 100 + year / 400

def startOfMonth (month : Int) : Int := (153 * month + 2) / 5

theorem dayNumber_eq_sum (d : Date) :
    d.dayNumber = startOfYear d.yearFromMarch + startOfMonth d.monthFromMarch + d.day - 719469 := by
  have inEra : d.yearFromMarch = d.yearFromMarch % 400 + d.yearFromMarch / 400 * 400 := by omega
  have eras := dayNumber_eq (by omega) (by omega) inEra (Eq.refl d.monthFromMarch)
  rw [eras, startOfYear, startOfMonth]
  omega

theorem startOfMonth_mono {m m' : Int} (le : m ≤ m') : startOfMonth m ≤ startOfMonth m' := by
  unfold startOfMonth
  omega

theorem startOfYear_le {y y' : Int} {year : Nat} (next : (year : Int) = y + 1) (later : y < y') :
    startOfYear y + 365 + (if isLeapYear year then 1 else 0) ≤ startOfYear y' := by
  unfold startOfYear
  split
  · next leap =>
      rw [isLeapYear_iff] at leap
      omega
  · omega

theorem endOfMonth {d : Date} (valid : d.isValid = true) :
    startOfMonth d.monthFromMarch + d.day ≤
      if d.month = 2 then 365 + (if isLeapYear d.year then 1 else 0) else startOfMonth (d.monthFromMarch + 1) := by
  obtain ⟨year, month, day⟩ := d
  simp only [isValid, Bool.and_eq_true, decide_eq_true_eq] at valid
  obtain ⟨⟨⟨⟨-, first⟩, last⟩, -⟩, inMonth⟩ := valid
  have days : (day : Int) ≤ daysInMonth year month := Int.ofNat_le.mpr inMonth
  simp only [monthFromMarch]
  cases leap : isLeapYear year <;> interval_cases month <;> simp [daysInMonth, startOfMonth, leap] at days ⊢ <;> omega

theorem Precedes.fromMarch {d e : Date} (valid : d.isValid = true) (valid' : e.isValid = true) (precedes : d.Precedes e) :
    d.yearFromMarch < e.yearFromMarch ∨ d.yearFromMarch = e.yearFromMarch ∧
      (d.monthFromMarch < e.monthFromMarch ∨ d.monthFromMarch = e.monthFromMarch ∧ d.day < e.day) := by
  simp only [isValid, Bool.and_eq_true, decide_eq_true_eq] at valid valid'
  unfold Precedes at precedes
  unfold yearFromMarch monthFromMarch
  split <;> split <;> omega

theorem dayNumber_lt {d e : Date} (valid : d.isValid = true) (valid' : e.isValid = true) (precedes : d.Precedes e) :
    d.dayNumber < e.dayNumber := by
  have endOfFirst := endOfMonth valid
  have fromMarch := precedes.fromMarch valid valid'
  simp only [isValid, Bool.and_eq_true, decide_eq_true_eq] at valid valid'
  have months : 0 ≤ e.monthFromMarch ∧ e.monthFromMarch ≤ 11 ∧ d.monthFromMarch ≤ 11 ∧
      (d.month = 2 ↔ d.monthFromMarch = 11) := by
    unfold monthFromMarch
    omega
  have day : 1 ≤ e.day := valid'.1.2
  have start : 0 ≤ startOfMonth e.monthFromMarch := startOfMonth_mono months.1
  rw [dayNumber_eq_sum, dayNumber_eq_sum]
  rcases fromMarch with earlierYear | ⟨sameYear, earlierMonth | ⟨sameMonth, earlierDay⟩⟩
  · by_cases february : d.month = 2
    · have next : (d.year : Int) = d.yearFromMarch + 1 := by
        rw [yearFromMarch, if_pos (by omega)]
        omega
      have year := startOfYear_le next earlierYear
      rw [if_pos february] at endOfFirst
      omega
    · have next : ((d.yearFromMarch + 1).toNat : Int) = d.yearFromMarch + 1 := by
        rw [yearFromMarch]
        omega
      have year := startOfYear_le next earlierYear
      have last : startOfMonth (d.monthFromMarch + 1) ≤ startOfMonth 11 := startOfMonth_mono (by omega)
      have startOfFebruary : startOfMonth 11 = 337 := rfl
      rw [if_neg february] at endOfFirst
      omega
  · have nextMonth := startOfMonth_mono (Int.add_one_le_of_lt earlierMonth)
    rw [if_neg (by omega)] at endOfFirst
    rw [sameYear]
    omega
  · rw [sameYear, sameMonth]
    omega

theorem precedes_ofDayNumber {m n : Int} (first : firstDay ≤ m) (last : n ≤ lastDay) (less : m < n) :
    (ofDayNumber m).Precedes (ofDayNumber n) := by
  have valid : (ofDayNumber m).isValid = true := isValid_ofDayNumber first (by omega)
  have valid' : (ofDayNumber n).isValid = true := isValid_ofDayNumber (by omega) last
  have number : (ofDayNumber m).dayNumber = m := dayNumber_ofDayNumber first
  have number' : (ofDayNumber n).dayNumber = n := dayNumber_ofDayNumber (by omega)
  by_contra notBefore
  have after : (ofDayNumber n).Precedes (ofDayNumber m) ∨ ofDayNumber n = ofDayNumber m := by
    unfold Precedes at notBefore ⊢
    rw [Date.mk.injEq]
    omega
  rcases after with precedes | same
  · have greater := dayNumber_lt valid' valid precedes
    omega
  · rw [same] at number'
    omega

end Calendar.Date

namespace Calendar.Instant

open Numeral (IsNumeral)

variable {i j : Instant}

theorem lt_of_part (write : Nat → List Char) {width m n : Nat} (first : IsNumeral width m (write m))
    (second : IsNumeral width n (write n)) (mark : Char) {more more' : List Char}
    (order : m < n ∨ m = n ∧ more < more') : write m ++ mark :: more < write n ++ mark :: more' := by
  rcases order with less | ⟨rfl, later⟩
  · exact first.lt second less _ _
  · exact List.append_left_lt (List.cons_lt_cons_iff.mpr (.inr ⟨rfl, later⟩))

theorem timeOfDay_parts (less : i.timeOfDay < j.timeOfDay) :
    i.wallTime.hour < j.wallTime.hour ∨ i.wallTime.hour = j.wallTime.hour ∧
      (i.wallTime.minute < j.wallTime.minute ∨ i.wallTime.minute = j.wallTime.minute ∧
        (i.wallTime.second < j.wallTime.second ∨ i.wallTime.second = j.wallTime.second ∧
          i.timeOfDay % 1000 < j.timeOfDay % 1000)) := by
  simp only [wallTime]
  omega

theorem parts_of_lt (inCalendar : i.InCalendar) (inCalendar' : j.InCalendar) (less : i.milliseconds < j.milliseconds) :
    i.date.year < j.date.year ∨ i.date.year = j.date.year ∧
      (i.date.month < j.date.month ∨ i.date.month = j.date.month ∧
        (i.date.day < j.date.day ∨ i.date.day = j.date.day ∧ i.timeOfDay < j.timeOfDay)) := by
  by_cases sameDay : i.milliseconds / 86400000 = j.milliseconds / 86400000
  · have date : i.date = j.date := congrArg Date.ofDayNumber sameDay
    have time : i.timeOfDay < j.timeOfDay := by
      unfold timeOfDay
      omega
    rw [date]
    exact .inr ⟨rfl, .inr ⟨rfl, .inr ⟨rfl, time⟩⟩⟩
  · have precedes : i.date.Precedes j.date := Date.precedes_ofDayNumber inCalendar.1 inCalendar'.2 (by omega)
    rcases precedes with year | ⟨sameYear, month | ⟨sameMonth, day⟩⟩
    · exact .inl year
    · exact .inr ⟨sameYear, .inl month⟩
    · exact .inr ⟨sameYear, .inr ⟨sameMonth, .inl day⟩⟩

theorem text_lt_text (inCalendar : i.InCalendar) (inCalendar' : j.InCalendar) (large : 1000 ≤ i.date.year)
    (large' : 1000 ≤ j.date.year) (less : i.milliseconds < j.milliseconds) : i.text < j.text := by
  have numerals := hasNumerals inCalendar large
  have numerals' := hasNumerals inCalendar' large'
  rw [String.lt_iff_toList_lt, toList_text, toList_text]
  refine lt_of_part (Nat.toDigits 10) numerals.year numerals'.year '-' ?_
  refine (parts_of_lt inCalendar inCalendar' less).imp_right (And.imp_right fun months => ?_)
  refine lt_of_part (fun n => (padded 2 n).toList) numerals.month numerals'.month '-' ?_
  refine months.imp_right (And.imp_right fun days => ?_)
  refine lt_of_part (fun n => (padded 2 n).toList) numerals.day numerals'.day 'T' ?_
  refine days.imp_right (And.imp_right fun time => ?_)
  refine lt_of_part (fun n => (padded 2 n).toList) numerals.hour numerals'.hour ':' ?_
  refine (timeOfDay_parts time).imp_right (And.imp_right fun minutes => ?_)
  refine lt_of_part (fun n => (padded 2 n).toList) numerals.minute numerals'.minute ':' ?_
  refine minutes.imp_right (And.imp_right fun seconds => ?_)
  refine lt_of_part (fun n => (padded 2 n).toList) numerals.second numerals'.second '.' ?_
  refine seconds.imp_right (And.imp_right fun thousandths => ?_)
  exact lt_of_part (fun n => (padded 3 n).toList) numerals.thousandth numerals'.thousandth 'Z' (.inl thousandths)

theorem text_lt_text_iff (inCalendar : i.InCalendar) (inCalendar' : j.InCalendar) (large : 1000 ≤ i.date.year)
    (large' : 1000 ≤ j.date.year) : i.text < j.text ↔ i.milliseconds < j.milliseconds := by
  refine ⟨fun before => ?_, text_lt_text inCalendar inCalendar' large large'⟩
  by_contra notLess
  rcases Int.lt_or_eq_of_le (Int.not_lt.mp notLess) with later | same
  · exact absurd (text_lt_text inCalendar' inCalendar large' large later) before.asymm
  · rw [show i = j from congrArg Instant.mk same.symm] at before
    exact lt_irrefl _ before

/-! ## Instants told by their texts -/

theorem padded_append_inj {width m n : Nat} {xs ys : List Char} (positive : 0 < width) (small : m < 10 ^ width)
    (small' : n < 10 ^ width) (same : (padded width m).toList ++ xs = (padded width n).toList ++ ys) : m = n ∧ xs = ys := by
  have numeral := isNumeral_padded positive small
  have numeral' := isNumeral_padded positive small'
  obtain ⟨digits, rest⟩ := List.append_inj same (numeral.length.trans numeral'.length.symm)
  exact ⟨numeral.value.symm.trans ((congrArg Numeral.digitsValue digits).trans numeral'.value), rest⟩

theorem toDigits_append_inj {m n : Nat} {xs ys : List Char}
    (same : Nat.toDigits 10 m ++ '-' :: xs = Nat.toDigits 10 n ++ '-' :: ys) : m = n ∧ xs = ys := by
  have digits (n : Nat) (xs : List Char) : (Nat.toDigits 10 n ++ '-' :: xs).takeWhile Char.isDigit = Nat.toDigits 10 n := by
    rw [List.takeWhile_append_of_pos fun c => Numeral.isDigit_of_mem_digits, List.takeWhile_cons_of_neg (by decide),
      List.append_nil]
  have number : Nat.toDigits 10 m = Nat.toDigits 10 n := by rw [← digits m xs, same, digits n ys]
  have equal : m = n := by rw [← Numeral.digitsValue_toDigits m, number, Numeral.digitsValue_toDigits]
  rw [number] at same
  exact ⟨equal, List.tail_eq_of_cons_eq (List.append_cancel_left same)⟩

theorem eq_of_text_eq (inCalendar : i.InCalendar) (inCalendar' : j.InCalendar)
    (same : i.text = j.text) : i = j := by
  have small {k : Instant} (inCalendar : k.InCalendar) : k.date.month < 100 ∧ k.date.day < 100 := by
    have valid : k.date.isValid = true := Date.isValid_ofDayNumber inCalendar.1 inCalendar.2
    obtain ⟨-, -, lastMonth, lastDay⟩ := Date.bounds_of_isValid valid
    omega
  obtain ⟨month, day⟩ := small inCalendar
  obtain ⟨month', day'⟩ := small inCalendar'
  obtain ⟨hour, minute, second⟩ := i.wallTime_lt
  obtain ⟨hour', minute', second'⟩ := j.wallTime_lt
  have whole := congrArg String.toList same
  rw [toList_text, toList_text] at whole
  obtain ⟨sameYear, whole⟩ := toDigits_append_inj whole
  obtain ⟨sameMonth, whole⟩ := padded_append_inj (by decide) month month' whole
  obtain ⟨sameDay, whole⟩ := padded_append_inj (by decide) day day' (List.tail_eq_of_cons_eq whole)
  obtain ⟨sameHour, whole⟩ := padded_append_inj (by decide) (by omega) (by omega) (List.tail_eq_of_cons_eq whole)
  obtain ⟨sameMinute, whole⟩ := padded_append_inj (by decide) (by omega) (by omega) (List.tail_eq_of_cons_eq whole)
  obtain ⟨sameSecond, whole⟩ := padded_append_inj (by decide) (by omega) (by omega) (List.tail_eq_of_cons_eq whole)
  obtain ⟨sameThousandth, -⟩ := padded_append_inj (by decide) (by omega) (by omega) (List.tail_eq_of_cons_eq whole)
  have date : i.date = j.date := by
    show Date.mk i.date.year i.date.month i.date.day = Date.mk j.date.year j.date.month j.date.day
    rw [sameYear, sameMonth, sameDay]
  have dayNumber : i.milliseconds / 86400000 = j.milliseconds / 86400000 := by
    rw [← Date.dayNumber_ofDayNumber inCalendar.1, ← Date.dayNumber_ofDayNumber inCalendar'.1]
    exact congrArg Date.dayNumber date
  have time : i.timeOfDay = j.timeOfDay := by
    simp only [wallTime] at sameHour sameMinute sameSecond
    omega
  have milliseconds : i.milliseconds = j.milliseconds := by
    unfold timeOfDay at time
    omega
  exact congrArg Instant.mk milliseconds

end Calendar.Instant

end LogAnalysis
