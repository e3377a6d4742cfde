import LogAnalysis.Calendar.Date

/-!
# Days and their numbers

The day with a number has that number (`Date.dayNumber_ofDayNumber`), and the numbers from `firstDay` to `lastDay` are those
of days that exist (`Date.isValid_ofDayNumber`). Both rest on the place of a day in its era of 400 years, which
begins in March (`IsEraDay`).
-/

namespace LogAnalysis.Calendar.Date

/-- A day of an era is this day of a year that begins in March, after so many centuries, groups of four years and single
years. Only the last year of a group has a 366th day, and not the last one of a century, but for the last of the era. -/
structure IsEraDay (dayOfEra century group single day : Int) : Prop where
  century_ge : 0 ≤ century
  century_le : century ≤ 3
  group_ge : 0 ≤ group
  group_le : group ≤ 24
  single_ge : 0 ≤ single
  single_le : single ≤ 3
  day_ge : 0 ≤ day
  day_le : day ≤ 365
  leap : day = 365 → single = 3 ∧ (group < 24 ∨ century = 3)
  whole : dayOfEra = 36524 * century + 1461 * group + 365 * single + day

variable {dayOfEra century group single day : Int}

theorem exists_isEraDay (first : 0 ≤ dayOfEra) (last : dayOfEra < 146097) :
    ∃ century group single day, IsEraDay dayOfEra century group single day := by
  -- The last century of an era and the last year of a group have a day that division would give to a next one.
  obtain ⟨century, dayOfCentury, inEra⟩ : ∃ century rest : Int, 0 ≤ century ∧ century ≤ 3 ∧ 0 ≤ rest ∧ rest ≤ 36524 ∧
      (rest = 36524 → century = 3) ∧ dayOfEra = 36524 * century + rest := by
    by_cases isLast : dayOfEra = 146096
    · exact ⟨3, 36524, by omega⟩
    · exact ⟨dayOfEra / 36524, dayOfEra % 36524, by omega⟩
  obtain ⟨single, day, inGroup⟩ : ∃ single day : Int, 0 ≤ single ∧ single ≤ 3 ∧ 0 ≤ day ∧ day ≤ 365 ∧
      (day = 365 → single = 3) ∧ dayOfCentury % 1461 = 365 * single + day := by
    by_cases isLast : dayOfCentury % 1461 = 1460
    · exact ⟨3, 365, by omega⟩
    · exact ⟨dayOfCentury % 1461 / 365, dayOfCentury % 1461 % 365, by omega⟩
  exact ⟨century, dayOfCentury / 1461, single, day, by constructor <;> omega⟩

theorem IsEraDay.yearOfEra (place : IsEraDay dayOfEra century group single day) :
    (dayOfEra - dayOfEra / 1460 + dayOfEra / 36524 - dayOfEra / 146096) / 365 = 100 * century + 4 * group + single := by
  obtain ⟨_, _, _, _, _, _, _, _, leap, whole⟩ := place
  have groups : dayOfEra / 1460 = 25 * century + group + (24 * century + group + 365 * single + day) / 1460 := by omega
  have centuries : dayOfEra / 36524 = century + dayOfEra / 146096 := by
    by_cases isLast : dayOfEra = 146096
    · omega
    · have inCentury : 1461 * group + 365 * single + day < 36524 := by omega
      have inEra : dayOfEra < 146096 := by omega
      omega
  omega

theorem IsEraDay.dayOfYear (place : IsEraDay dayOfEra century group single day) :
    dayOfEra - (365 * (100 * century + 4 * group + single) + (100 * century + 4 * group + single) / 4 -
      (100 * century + 4 * group + single) / 100) = day := by
  obtain ⟨_, _, _, _, _, _, _, _, -, whole⟩ := place
  omega

theorem exists_ofDayNumber (n : Int) : ∃ century group single day : Int,
    IsEraDay ((n + 719468) % 146097) century group single day ∧
      ∃ month : Int, month = (5 * day + 2) / 153 ∧
        ofDayNumber n = ⟨(100 * century + 4 * group + single + (n + 719468) / 146097 * 400 +
          if month < 10 then 0 else 1).toNat, (if month < 10 then month + 3 else month - 9).toNat,
          (day - (153 * month + 2) / 5 + 1).toNat⟩ := by
  obtain ⟨century, group, single, day, place⟩ := exists_isEraDay (show 0 ≤ (n + 719468) % 146097 by omega) (by omega)
  refine ⟨century, group, single, day, place, _, rfl, ?_⟩
  simp only [ofDayNumber, place.yearOfEra, place.dayOfYear]

theorem firstDay_eq : firstDay = -719162 := by decide

theorem lastDay_eq : lastDay = 2932896 := by decide

theorem dayNumber_eq {d : Date} {era year month : Int} (first : 0 ≤ year) (last : year < 400)
    (isYear : (if d.month ≤ 2 then (d.year : Int) - 1 else d.year) = year + era * 400)
    (isMonth : (if d.month ≤ 2 then (d.month : Int) + 9 else (d.month : Int) - 3) = month) :
    d.dayNumber = era * 146097 + (year * 365 + year / 4 - year / 100 + ((153 * month + 2) / 5 + d.day - 1)) - 719468 := by
  have isEra : (year + era * 400) / 400 = era := by omega
  have inEra : (year + era * 400) % 400 = year := by omega
  simp only [dayNumber, isYear, isMonth, isEra, inEra]

theorem dayNumber_ofDayNumber {n : Int} (first : firstDay ≤ n) : (ofDayNumber n).dayNumber = n := by
  rw [firstDay_eq] at first
  obtain ⟨century, group, single, day, place, month, isMonth, whole⟩ := exists_ofDayNumber n
  have dayOfYear := place.dayOfYear
  obtain ⟨_, _, _, _, _, _, _, _, -, -⟩ := place
  have isYear : (if (ofDayNumber n).month ≤ 2 then ((ofDayNumber n).year : Int) - 1 else (ofDayNumber n).year) =
      100 * century + 4 * group + single + (n + 719468) / 146097 * 400 := by
    simp only [whole]
    split <;> split <;> omega
  have monthBack : (if (ofDayNumber n).month ≤ 2 then ((ofDayNumber n).month : Int) + 9
      else ((ofDayNumber n).month : Int) - 3) = month := by
    simp only [whole]
    split <;> split <;> omega
  have dayBack : ((ofDayNumber n).day : Int) = day - (153 * month + 2) / 5 + 1 := by
    simp only [whole]
    omega
  rw [dayNumber_eq (by omega) (by omega) isYear monthBack, dayBack]
  omega

theorem isLeapYear_iff {year : Nat} : isLeapYear year = true ↔ year % 4 = 0 ∧ (year % 100 ≠ 0 ∨ year % 400 = 0) := by
  simp [isLeapYear]

theorem isValid_ofDayNumber {n : Int} (first : firstDay ≤ n) (last : n ≤ lastDay) : (ofDayNumber n).isValid = true := by
  rw [firstDay_eq] at first
  rw [lastDay_eq] at last
  obtain ⟨century, group, single, day, place, month, isMonth, whole⟩ := exists_ofDayNumber n
  have dayOfYear := place.dayOfYear
  obtain ⟨_, _, _, _, _, _, _, _, leap, inEra⟩ := place
  have year : ((ofDayNumber n).year : Int) =
      100 * century + 4 * group + single + (n + 719468) / 146097 * 400 + if month < 10 then 0 else 1 := by
    simp only [whole]
    split <;> omega
  have monthEq : ((ofDayNumber n).month : Int) = if month < 10 then month + 3 else month - 9 := by
    simp only [whole]
    split <;> omega
  have dayEq : ((ofDayNumber n).day : Int) = day - (153 * month + 2) / 5 + 1 := by
    simp only [whole]
    omega
  generalize ofDayNumber n = d at year monthEq dayEq
  have inYear : 1 ≤ d.year ∧ d.year ≤ 9999 ∧ 1 ≤ d.month ∧ d.month ≤ 12 ∧ 1 ≤ d.day := by
    refine ⟨?_, ?_, ?_, ?_, ?_⟩ <;> omega
  have inMonth : d.day ≤ daysInMonth d.year d.month := by
    unfold daysInMonth
    split
    · next february =>
        split
        · omega
        -- The 366th day of a year that begins in March is the 29th of February.
        · next common =>
            rw [isLeapYear_iff] at common
            omega
    · split
      · omega
      · rw [if_pos (by omega)]
        omega
  simp [isValid, inYear, inMonth]

theorem daysInMonth_le (year month : Nat) : daysInMonth year month ≤ 31 := by
  unfold daysInMonth
  split
  · split <;> decide
  · split
    · decide
    · split <;> decide

theorem bounds_of_isValid {d : Date} (valid : d.isValid = true) :
    1 ≤ d.year ∧ d.year ≤ 9999 ∧ d.month ≤ 12 ∧ d.day ≤ 31 := by
  simp only [isValid, Bool.and_eq_true, decide_eq_true_eq] at valid
  have days := daysInMonth_le d.year d.month
  omega

end LogAnalysis.Calendar.Date
