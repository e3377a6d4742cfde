import LogAnalysis.Calendar.Iso
import LogAnalysis.Proofs.Calendar.Dates
import LogAnalysis.Proofs.Text.Digits

/-!
# The text of an instant

The text of an instant in a year of four digits is international notation for that instant (`Instant.parse?_text`), and so it
is found again on any clock (`Instant.inZone?_wallTime`).
-/

namespace LogAnalysis.Calendar

open Numeral (IsNumeral)

theorem isNumeral_padded {width n : Nat} (positive : 0 < width) (small : n < 10 ^ width) :
    IsNumeral width n (padded width n).toList := by
  have short := (Nat.length_toDigits_le_iff (by decide) positive).mpr small
  have whole := Numeral.isNumeral_zeros (Numeral.isNumeral_toDigits n) (width - (Nat.toDigits 10 n).length)
  rw [Nat.sub_add_cancel short] at whole
  rw [padded, String.toList_ofList]
  exact whole

theorem isDigit_of_mem_padded {width n : Nat} {c : Char} (member : c ∈ (padded width n).toList) : c.isDigit = true := by
  rw [padded, String.toList_ofList] at member
  rcases List.mem_append.mp member with zero | digit
  · exact List.eq_of_mem_replicate zero ▸ rfl
  · exact Numeral.isDigit_of_mem_digits digit

/-! ## Reading the notation -/

namespace Iso

theorem number?_of_isNumeral {width n : Nat} {cs : List Char} (numeral : IsNumeral width n cs) (positive : 0 < width)
    (short : width ≤ Numeral.maxDigits) : number? cs = some (n : Int) := by
  rw [number?, numeral.integer_eq positive short]
  rfl

theorem calendarDate?_of_numerals {year month day : Nat} {ys ms ds : List Char} (isYear : IsNumeral 4 year ys)
    (isMonth : IsNumeral 2 month ms) (isDay : IsNumeral 2 day ds) (rest : List Char) :
    calendarDate? (ys ++ '-' :: (ms ++ '-' :: (ds ++ rest))) =
      some (((year : Int), (month : Int), (day : Int)), rest) := by
  obtain ⟨y1, y2, y3, y4, rfl⟩ := List.length_eq_four.mp isYear.length
  obtain ⟨m1, m2, rfl⟩ := List.length_eq_two.mp isMonth.length
  obtain ⟨d1, d2, rfl⟩ := List.length_eq_two.mp isDay.length
  have readYear := number?_of_isNumeral isYear (by decide) (by decide)
  have readMonth := number?_of_isNumeral isMonth (by decide) (by decide)
  have readDay := number?_of_isNumeral isDay (by decide) (by decide)
  simp [calendarDate?, readYear, readMonth, readDay]

theorem microseconds_of_numeral {thousandths : Nat} {fs : List Char} (isFraction : IsNumeral 3 thousandths fs) :
    microseconds fs = thousandths * 1000 := by
  have short : fs.take 6 = fs := List.take_of_length_le (by rw [isFraction.length]; decide)
  rw [microseconds, short, isFraction.value, isFraction.length]

theorem time?_of_numerals {hour minute second thousandths : Nat} {hs ms ss fs : List Char} (isHour : IsNumeral 2 hour hs)
    (isMinute : IsNumeral 2 minute ms) (isSecond : IsNumeral 2 second ss) (isFraction : IsNumeral 3 thousandths fs)
    (inDay : hour < 24) :
    time? (hs ++ ':' :: (ms ++ ':' :: (ss ++ '.' :: (fs ++ ['Z'])))) =
      some ⟨hour, minute, second, thousandths * 1000, some 0⟩ := by
  have fraction := microseconds_of_numeral isFraction
  obtain ⟨h1, h2, rfl⟩ := List.length_eq_two.mp isHour.length
  obtain ⟨m1, m2, rfl⟩ := List.length_eq_two.mp isMinute.length
  obtain ⟨s1, s2, rfl⟩ := List.length_eq_two.mp isSecond.length
  obtain ⟨f1, f2, f3, rfl⟩ := List.length_eq_three.mp isFraction.length
  have readHour := number?_of_isNumeral isHour (by decide) (by decide)
  have readMinute := number?_of_isNumeral isMinute (by decide) (by decide)
  have readSecond := number?_of_isNumeral isSecond (by decide) (by decide)
  have notSign : ¬ (h1 = '-' ∨ h1 = '+' ∨ h1 = 'Z' ∨ h1 = 'z') := by
    have isDigit := isHour.digits h1 List.mem_cons_self
    rintro (rfl | rfl | rfl | rfl) <;> exact absurd isDigit (by decide)
  have notEnd : (hour : Int) ≠ 24 := by omega
  have digits := isFraction.digits
  simp only [List.forall_mem_cons] at digits
  simp [time?, timeFrom, notSign, readHour, readMinute, readSecond, Time.set, List.takeWhile, List.dropWhile, digits, zone?,
    notEnd, fraction]

theorem parse?_of_parts {s : String} (c : Char) {rest : List Char} {w : WallTime} {zone : Option Int}
    (ascii : s.toList.any (128 ≤ ·.toNat) = false)
    (isDate : calendarDate? s.toList = some (((w.date.year : Int), (w.date.month : Int), (w.date.day : Int)), c :: rest))
    (isTime : time? rest = some ⟨w.hour, w.minute, w.second, w.microsecond, zone⟩) (valid : w.isValid = true) :
    parse? s = some (w, zone) := by
  have parts := valid
  simp only [WallTime.isValid, Bool.and_eq_true, decide_eq_true_eq] at parts
  obtain ⟨⟨⟨⟨dateValid, inDay⟩, -⟩, -⟩, -⟩ := parts
  have date : date? w.date.year w.date.month w.date.day = some w.date := by simp [date?, dateValid]
  have notEnd : (w.hour : Int) ≠ 24 := by omega
  simp [parse?, ascii, isDate, isTime, date, notEnd, valid]

end Iso

/-! ## Instants -/

namespace Instant

def InCalendar (i : Instant) : Prop := firstDay ≤ i.milliseconds / 86400000 ∧ i.milliseconds / 86400000 ≤ lastDay

def wallTime (i : Instant) : WallTime :=
  ⟨i.date, i.timeOfDay / 3600000, i.timeOfDay / 60000 % 60, i.timeOfDay / 1000 % 60, i.timeOfDay % 1000 * 1000⟩

variable {i : Instant}

theorem timeOfDay_lt (i : Instant) : i.timeOfDay < 86400000 := by
  unfold timeOfDay
  omega

theorem wallTime_lt (i : Instant) : i.wallTime.hour < 24 ∧ i.wallTime.minute < 60 ∧ i.wallTime.second < 60 := by
  have inDay := i.timeOfDay_lt
  exact ⟨show i.timeOfDay / 3600000 < 24 by omega, show i.timeOfDay / 60000 % 60 < 60 by omega,
    show i.timeOfDay / 1000 % 60 < 60 by omega⟩

theorem isValid_wallTime (inCalendar : i.InCalendar) : i.wallTime.isValid = true := by
  have date : i.wallTime.date.isValid = true := Date.isValid_ofDayNumber inCalendar.1 inCalendar.2
  obtain ⟨hour, minute, second⟩ := i.wallTime_lt
  have microsecond : i.wallTime.microsecond < 1000000 := show i.timeOfDay % 1000 * 1000 < 1000000 by omega
  simp [WallTime.isValid, date, hour, minute, second, microsecond]

theorem seconds_wallTime (inCalendar : i.InCalendar) : i.wallTime.seconds = i.milliseconds / 1000 := by
  have day : i.date.dayNumber = i.milliseconds / 86400000 := Date.dayNumber_ofDayNumber inCalendar.1
  simp only [WallTime.seconds, wallTime, day, timeOfDay]
  omega

theorem inZone?_wallTime (inCalendar : i.InCalendar) : i.wallTime.inZone? 0 = some i := by
  have seconds := seconds_wallTime inCalendar
  obtain ⟨first, last⟩ := inCalendar
  have within : Calendar.inCalendar (i.milliseconds / 1000) = true := by
    rw [Calendar.inCalendar, Bool.and_eq_true, decide_eq_true_eq, decide_eq_true_eq]
    omega
  have thousandths : i.wallTime.microsecond / 1000 = i.timeOfDay % 1000 :=
    show i.timeOfDay % 1000 * 1000 / 1000 = i.timeOfDay % 1000 by omega
  have milliseconds : i.milliseconds / 1000 * 1000 + (i.timeOfDay % 1000 : Nat) = i.milliseconds := by
    unfold timeOfDay
    omega
  simp only [WallTime.inZone?, seconds, Int.sub_zero, within, thousandths, milliseconds]
  rfl

theorem toList_text (i : Instant) : i.text.toList =
    Nat.toDigits 10 i.date.year ++ '-' :: ((padded 2 i.date.month).toList ++ '-' :: ((padded 2 i.date.day).toList ++
      'T' :: ((padded 2 i.wallTime.hour).toList ++ ':' :: ((padded 2 i.wallTime.minute).toList ++
        ':' :: ((padded 2 i.wallTime.second).toList ++ '.' :: ((padded 3 (i.timeOfDay % 1000)).toList ++ ['Z'])))))) := by
  have asText (s : String) : toString s = s := rfl
  simp [text, wallTime, asText, String.toList_append]

theorem mem_text {c : Char} (member : c ∈ i.text.toList) : c.isDigit = true ∨ c ∈ ['-', 'T', ':', '.', 'Z'] := by
  rw [toList_text] at member
  simp only [List.mem_append, List.mem_cons, List.not_mem_nil, or_false] at member ⊢
  have digit {n : Nat} (inNumeral : c ∈ Nat.toDigits 10 n) := Numeral.isDigit_of_mem_digits inNumeral
  have inPadded {width n : Nat} (inNumeral : c ∈ (padded width n).toList) := isDigit_of_mem_padded inNumeral
  grind

theorem reverse_text (i : Instant) : ∃ rest, i.text.toList.reverse = 'Z' :: rest := by
  rw [toList_text]
  simp only [List.reverse_append, List.reverse_cons, List.append_assoc, List.reverse_nil, List.nil_append, List.cons_append]
  exact ⟨_, rfl⟩

theorem text_isAscii (i : Instant) : i.text.toList.any (128 ≤ ·.toNat) = false := by
  refine List.any_eq_false.mpr fun c member => ?_
  rw [decide_eq_true_eq, Nat.not_le]
  rcases mem_text member with isDigit | isMark
  · have bounds : 48 ≤ c.toNat ∧ c.toNat ≤ 57 := Char.isDigit_iff_toNat.mp isDigit
    omega
  · simp only [List.mem_cons, List.not_mem_nil, or_false] at isMark
    rcases isMark with rfl | rfl | rfl | rfl | rfl <;> decide

structure HasNumerals (i : Instant) : Prop where
  year : IsNumeral 4 i.date.year (Nat.toDigits 10 i.date.year)
  month : IsNumeral 2 i.date.month (padded 2 i.date.month).toList
  day : IsNumeral 2 i.date.day (padded 2 i.date.day).toList
  hour : IsNumeral 2 i.wallTime.hour (padded 2 i.wallTime.hour).toList
  minute : IsNumeral 2 i.wallTime.minute (padded 2 i.wallTime.minute).toList
  second : IsNumeral 2 i.wallTime.second (padded 2 i.wallTime.second).toList
  thousandth : IsNumeral 3 (i.timeOfDay % 1000) (padded 3 (i.timeOfDay % 1000)).toList

theorem hasNumerals (inCalendar : i.InCalendar) (large : 1000 ≤ i.date.year) : i.HasNumerals := by
  have dateValid : i.date.isValid = true := Date.isValid_ofDayNumber inCalendar.1 inCalendar.2
  obtain ⟨-, lastYear, lastMonth, lastDay⟩ := Date.bounds_of_isValid dateValid
  obtain ⟨hour, minute, second⟩ := i.wallTime_lt
  have year := Numeral.isNumeral_toDigits i.date.year
  rw [Numeral.length_toDigits (show 0 < 3 by decide) large (Nat.lt_succ_of_le lastYear)] at year
  exact ⟨year, isNumeral_padded (by decide) (by omega), isNumeral_padded (by decide) (by omega),
    isNumeral_padded (by decide) (by omega), isNumeral_padded (by decide) (by omega),
    isNumeral_padded (by decide) (by omega), isNumeral_padded (by decide) (by omega)⟩

/-- The text of an instant in a year of four digits is read as what a clock of universal time shows at the instant. -/
theorem parse?_text (inCalendar : i.InCalendar) (large : 1000 ≤ i.date.year) :
    Iso.parse? i.text = some (i.wallTime, some 0) := by
  obtain ⟨isYear, isMonth, isDay, isHour, isMinute, isSecond, isFraction⟩ := hasNumerals inCalendar large
  have date := Iso.calendarDate?_of_numerals isYear isMonth isDay
  have time := Iso.time?_of_numerals isHour isMinute isSecond isFraction i.wallTime_lt.1
  refine Iso.parse?_of_parts 'T' i.text_isAscii ?_ time (isValid_wallTime inCalendar)
  rw [toList_text]
  exact date _

end Instant

end LogAnalysis.Calendar
