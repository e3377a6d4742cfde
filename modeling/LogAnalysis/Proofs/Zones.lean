import LogAnalysis.Proofs.Calendar.FreeForm
import LogAnalysis.Proofs.Calendar.Order
import LogAnalysis.Proofs.Normalization
import LogAnalysis.Proofs.Stamps
import Mathlib.Tactic.IntervalCases

/-!
# Zones in lines and in values

A timestamp with a zone means one thing as a value and another one in a line, where the zone is not read.

* `Timestamp.detect?_text`: what a line shows of a timestamp.
* `Timestamp.read?_zoned`: what the timestamp is as a value, whichever notation reads it.
* `Timestamp.line_zoned`: where the two agree.
-/

namespace LogAnalysis.Timestamp

open Calendar Text

variable (w : Written)

def stampOf : Stamp := ⟨w.date, (w.hour, w.minute, w.second), w.wall.microsecond / 1000⟩

theorem microseconds_div (ds : List Char) (digits : ∀ c ∈ ds, c.isDigit = true) :
    Iso.microseconds ds / 1000 = Numeral.digitsValue (ds.take 3) * 10 ^ (3 - (ds.take 3).length) := by
  have digits' : ∀ c ∈ (ds.drop 3).take 3, c.isDigit = true := fun c member =>
    digits c (List.mem_of_mem_drop (List.mem_of_mem_take member))
  have split : ds.take (3 + 3) = ds.take 3 ++ (ds.drop 3).take 3 := List.take_add
  have small := Numeral.digitsValue_lt digits'
  have atMost : ((ds.drop 3).take 3).length ≤ 3 := List.length_take_le 3 _
  rw [Iso.microseconds, split, Numeral.digitsValue_append, List.length_append]
  rcases Nat.lt_or_ge ds.length 3 with short | long
  · have none : ds.drop 3 = [] := List.drop_eq_nil_of_le (Nat.le_of_lt short)
    have all : ds.take 3 = ds := List.take_of_length_le (Nat.le_of_lt short)
    rw [none, all]
    generalize ds.length = n at short
    generalize Numeral.digitsValue ds = v
    interval_cases n <;> simp [Numeral.digitsValue] <;> omega
  · have three : (ds.take 3).length = 3 := List.length_take_of_le long
    rw [three]
    generalize ((ds.drop 3).take 3).length = k at small atMost
    generalize Numeral.digitsValue ((ds.drop 3).take 3) = r at small
    generalize Numeral.digitsValue (ds.take 3) = v
    interval_cases k <;> simp at small ⊢ <;> omega

theorem foldl_digits {ds : List Char} (digits : ∀ c ∈ ds, c.isDigit = true) :
    (ds.map fun d => (decimalValue? d).getD 0).foldl (fun n d => 10 * n + d) 0 = Numeral.digitsValue ds := by
  have values : (ds.map fun d => (decimalValue? d).getD 0) = ds.map fun d => d.toNat - 48 := by
    refine List.map_congr_left fun c member => ?_
    rw [decimalValue?_of_isDigit (digits c member)]
    rfl
  rw [values, List.foldl_map]
  rfl

theorem fraction_text {cs : List Char} (stops : ∀ c ∈ cs.head?, isDecimal c = false ∧ c ≠ '.' ∧ c ≠ ',') :
    fraction (w.fraction ++ cs) = (w.wall.microsecond / 1000, cs) := by
  have zero : Iso.microseconds [] / 1000 = 0 := by decide
  rcases w.isFraction with none | ⟨mark, d, ds, some, isMark, digits⟩
  · rw [none, Written.wall, none]
    cases cs with
    | nil => simp [fraction, zero]
    | cons c cs =>
        obtain ⟨-, noPoint, noComma⟩ := stops c rfl
        simp [fraction, noPoint, noComma, zero]
  · have decimal : ∀ c ∈ d :: ds, isDecimal c = true := fun c member => by
      rw [isDecimal, decimalValue?_of_isDigit (digits c member)]
      rfl
    have takes : (d :: ds ++ cs).takeWhile isDecimal = d :: ds := by
      rw [List.takeWhile_append_of_pos decimal]
      cases cs with
      | nil => exact List.append_nil _
      | cons c cs => rw [List.takeWhile_cons_of_neg (by simp [(stops c rfl).1]), List.append_nil]
    have drops : (d :: ds ++ cs).dropWhile isDecimal = cs := by
      rw [List.dropWhile_append_of_pos decimal]
      cases cs with
      | nil => rfl
      | cons c cs => rw [List.dropWhile_cons_of_neg (by simp [(stops c rfl).1])]
    have thousandths := microseconds_div (d :: ds) digits
    have taken := @foldl_digits ((d :: ds).take 3) fun c member => digits c (List.mem_of_mem_take member)
    rw [List.map_take] at taken
    have first : (mark = '.' || mark = ',') = true := by simpa using isMark
    rw [Written.wall, some, List.cons_append, fraction]
    simp only [takes, drops, taken, first, List.isEmpty_cons, Bool.not_false, Bool.and_true, if_true, List.length_take,
      List.length_map]
    rw [List.drop_one, List.tail_cons, thousandths, List.length_take]
    rfl

theorem stampAt?_text {cs : List Char} (stops : ∀ c ∈ cs.head?, isDecimal c = false ∧ c ≠ '.' ∧ c ≠ ',') :
    stampAt? (w.text ++ cs) = some (stampOf w, cs) := by
  have read : stampHead? (w.text ++ cs) = some ((w.date, w.hour, w.minute, w.second), w.fraction ++ cs) := by
    have between (rest : List Char) :
        (after? ' ' (w.separator :: rest)).or (after? 'T' (w.separator :: rest)) = some rest := by
      rcases w.separates with blank | letter
      · rw [blank]; rfl
      · rw [letter]; rfl
    have year := digits?_of_isNumeral (isNumeral_padded (show 0 < 4 by decide) w.year_lt)
    have month := digits?_of_isNumeral (isNumeral_padded (show 0 < 2 by decide) w.month_lt)
    have day := digits?_of_isNumeral (isNumeral_padded (show 0 < 2 by decide) w.day_lt)
    have hour := digits?_of_isNumeral (isNumeral_padded (show 0 < 2 by decide) w.hour_lt)
    have minute := digits?_of_isNumeral (isNumeral_padded (show 0 < 2 by decide) w.minute_lt)
    have second := digits?_of_isNumeral (isNumeral_padded (show 0 < 2 by decide) w.second_lt)
    simp only [Written.text, Written.time, List.append_assoc, List.cons_append, stampHead?, clockTime?, year, month, day,
      hour, minute, second, after?_cons, between, Option.bind_eq_bind, Option.bind_some]
  rw [stampAt?_of_stampHead? read, fraction_text w stops]
  rfl

theorem microsecond_lt : w.wall.microsecond < 1000000 := by
  have digits : ∀ c ∈ (w.fraction.drop 1).take 6, c.isDigit = true := by
    rcases w.isFraction with none | ⟨mark, d, ds, some, -, digits⟩
    · rw [none]
      exact fun c nothing => absurd nothing List.not_mem_nil
    · rw [some]
      exact fun c member => digits c (List.mem_of_mem_take member)
  have value := Numeral.digitsValue_lt digits
  have short : ((w.fraction.drop 1).take 6).length ≤ 6 := List.length_take_le 6 _
  calc Numeral.digitsValue ((w.fraction.drop 1).take 6) * 10 ^ (6 - ((w.fraction.drop 1).take 6).length)
      < 10 ^ ((w.fraction.drop 1).take 6).length * 10 ^ (6 - ((w.fraction.drop 1).take 6).length) :=
        Nat.mul_lt_mul_of_pos_right value (Nat.pow_pos (by decide))
    _ = 10 ^ 6 := by rw [← Nat.pow_add, Nat.add_sub_cancel' short]

theorem instant?_thousandths (wall : WallTime) (clock : Clock) :
    clock.instant? { wall with microsecond := wall.microsecond / 1000 * 1000 } = clock.instant? wall := by
  rw [Clock.instant?, Clock.instant?, WallTime.inZone?, WallTime.inZone?, Nat.mul_div_cancel _ (by decide)]
  rfl

theorem instant?_stampOf (clock : Clock) :
    (stampOf w).instant? clock = if w.wall.isValid then clock.instant? w.wall else none := by
  have small := microsecond_lt w
  have small' : w.wall.microsecond / 1000 * 1000 < 1000000 := by omega
  have same : WallTime.isValid { w.wall with microsecond := w.wall.microsecond / 1000 * 1000 } = w.wall.isValid := by
    rw [WallTime.isValid, WallTime.isValid, decide_eq_true small, decide_eq_true small']
  rw [← same, ← instant?_thousandths]
  rfl

theorem stops_zone (z : WrittenZone) (rest : List Char) :
    ∀ c ∈ (z.text ++ rest).head?, isDecimal c = false ∧ c ≠ '.' ∧ c ≠ ',' := by
  obtain ⟨c, more, text, mark⟩ := Iso.exists_zone z
  intro d first
  rw [text] at first
  obtain rfl := Option.some.inj first
  rcases mark with rfl | rfl | rfl <;> decide

theorem detect?_text (z : WrittenZone) (rest : List Char) (clock : Clock) :
    detect? clock (w.text ++ z.text ++ rest) = if w.wall.isValid then clock.instant? w.wall else none := by
  rw [detect?, List.append_assoc, stamp?_of_stampAt? (stampAt?_text w (stops_zone z rest))]
  exact instant?_stampOf w clock

theorem exists_sign_of_endsWithZone {cs : List Char} (ends : endsWithZone cs = true) :
    ∃ c ∈ cs.reverse.take 6, c ∈ ['z', 'Z', '+', '-'] := by
  unfold endsWithZone at ends
  split at ends
  · next c rest reversed =>
      rw [reversed]
      split at ends
      · next letter =>
          rw [Bool.or_eq_true, decide_eq_true_eq, decide_eq_true_eq] at letter
          rcases letter with rfl | rfl
          · exact ⟨'z', by simp, by decide⟩
          · exact ⟨'Z', by simp, by decide⟩
      · split at ends
        · next a b d e sign more whole =>
            rw [Bool.and_eq_true, Bool.or_eq_true, decide_eq_true_eq, decide_eq_true_eq] at ends
            rw [whole]
            exact ⟨sign, by simp, by simpa using .inr (.inr ends.2)⟩
        · next a b d e sign more _ whole =>
            rw [Bool.and_eq_true, Bool.or_eq_true, decide_eq_true_eq, decide_eq_true_eq] at ends
            rw [whole]
            exact ⟨sign, by simp, by simpa using .inr (.inr ends.2)⟩
        · cases ends
  · cases ends

theorem endsWithZone_local : endsWithZone w.text = false := by
  cases ends : endsWithZone w.text with
  | false => rfl
  | true =>
      obtain ⟨c, member, isSign⟩ := exists_sign_of_endsWithZone ends
      obtain ⟨y, before, whole, -⟩ := w.exists_before_time
      have long : 6 ≤ w.time.length := by
        have numeral {n : Nat} (small : n < 100) := (isNumeral_padded (show 0 < 2 by decide) small).length
        simp [Written.time, numeral w.hour_lt, numeral w.minute_lt, numeral w.second_lt]
        omega
      rw [whole, List.reverse_append, List.take_append_of_le_length (by rwa [List.length_reverse])] at member
      rcases Written.mem_time (List.mem_reverse.mp (List.mem_of_mem_take member)) with digit | mark
      · simp only [List.mem_cons, List.not_mem_nil, or_false] at isSign
        rcases isSign with rfl | rfl | rfl | rfl <;> exact absurd digit (by decide)
      · simp only [List.mem_cons, List.not_mem_nil, or_false] at isSign
        rcases isSign with rfl | rfl | rfl | rfl <;> exact absurd mark (by decide)

theorem endsWithZone_zoned (z : WrittenZone) (cs : List Char) : endsWithZone (cs ++ z.text) = true := by
  cases z with
  | universal => simp [endsWithZone, WrittenZone.text]
  | offset behind hours minutes =>
      obtain ⟨h, h', digits, digit, digit'⟩ := exists_digits_padded hours.isLt
      obtain ⟨m, m', digits', digit'', digit'''⟩ := exists_digits_padded minutes.isLt
      have decimal {c : Char} (isDigit : c.isDigit = true) : isDecimal c = true := by
        rw [isDecimal, decimalValue?_of_isDigit isDigit]
        rfl
      cases behind <;> simp [endsWithZone, WrittenZone.text, digits, digits', decimal digit, decimal digit', decimal digit'',
        decimal digit''']

theorem isTrimmed_written {before tail : List Char} {y : Char} (isDigit : y.isDigit = true) (nonempty : tail ≠ [])
    (written : ∀ c ∈ tail, c.isDigit = true ∨ c ∈ ['Z', '-', '+', ':', '.', ',']) : IsTrimmed (y :: before ++ tail) where
  first := fun c first => by
    obtain rfl := Option.some.inj first
    exact isBlank_of_isDigit isDigit
  last := fun c last => by
    rw [List.getLast?_append_of_ne_nil _ nonempty] at last
    rcases written c (List.mem_of_getLast? last) with digit | mark
    · exact isBlank_of_isDigit digit
    · simp only [List.mem_cons, List.not_mem_nil, or_false] at mark
      rcases mark with rfl | rfl | rfl | rfl | rfl | rfl <;> decide

theorem read?_local (clock : Clock) :
    read? clock (String.ofList w.text) = if w.wall.isValid then clock.instant? w.wall else none := by
  obtain ⟨y, before, whole, isDigit⟩ := w.exists_before_time
  have trimmed : IsTrimmed w.text := by
    rw [whole]
    refine isTrimmed_written isDigit (by simp [Written.time]) fun c member => ?_
    exact (Written.mem_time member).imp_right fun mark => List.mem_of_mem_drop (i := 3) mark
  have found : stamp? w.text = some (stampOf w) := by
    rw [← List.append_nil w.text]
    exact stamp?_of_stampAt? (stampAt?_text w (by simp))
  have nonempty : w.text.isEmpty = false := by
    rw [whole]
    rfl
  simp only [read?, String.toList_ofList, trimmed.trim_eq, nonempty, endsWithZone_local, found, instant?_stampOf,
    Bool.false_eq_true, if_false]

theorem read?_zoned (z : WrittenZone) (valid : w.wall.isValid = true) (clock : Clock) :
    read? clock (String.ofList (w.text ++ z.text)) = w.wall.inZone? z.seconds := by
  obtain ⟨y, before, whole, isDigit⟩ := w.exists_before_time
  have trimmed : IsTrimmed (w.text ++ z.text) := by
    obtain ⟨c, rest, text, -⟩ := Iso.exists_zone z
    rw [whole, List.append_assoc, List.cons_append, ← List.append_assoc, ← List.cons_append]
    refine isTrimmed_written isDigit (text ▸ List.cons_ne_nil c rest) fun c member => ?_
    exact (WrittenZone.mem_text member).imp_right fun mark => List.mem_of_mem_take (i := 4) mark
  have nonempty : (w.text ++ z.text).isEmpty = false := by
    rw [whole]
    rfl
  have iso : readIso? clock (String.ofList (w.text ++ z.text)) = (Iso.zone? z.text).bind w.wall.inZone? := by
    rw [readIso?, Iso.parse?_text w z valid]
    cases Iso.zone? z.text <;> rfl
  have freeForm : readFreeForm? clock (String.ofList (w.text ++ z.text)) = w.wall.inZone? z.seconds := by
    obtain ⟨zone, parsed, isZone⟩ := FreeForm.parse?_text w z valid clock
    rw [readFreeForm?, parsed]
    rcases isZone with rfl | ⟨rfl, same⟩
    · rfl
    · rw [← same]
      rfl
  simp only [read?, String.toList_ofList, trimmed.trim_eq, nonempty, endsWithZone_zoned, iso, freeForm, Bool.false_eq_true,
    if_false, if_true]
  -- A zone that international notation refuses is left to the free form, which reads it.
  rcases Iso.zone?_text z with read | refused
  · rw [read, Option.bind_some, Option.or_self]
  · rw [refused, Option.bind_none, Option.none_or]

theorem textOf_ne_empty {found : Option Instant} : textOf found ≠ "" ↔ ∃ i, found = some i := by
  cases found with
  | none => simp [textOf]
  | some i => simpa [textOf] using text_ne_empty i

theorem of_inZone? {wall : WallTime} {ahead : Int} {i : Instant} (found : wall.inZone? ahead = some i) :
    i.milliseconds = (wall.seconds - ahead) * 1000 + (wall.microsecond / 1000 : Nat) := by
  simp only [WallTime.inZone?] at found
  split at found
  · rw [← Option.some.inj found]
  · cases found

theorem inZone?_of_instant? {clock : Clock} {wall : WallTime} {i : Instant} (found : clock.instant? wall = some i) :
    wall.inZone? clock.aheadSeconds = some i := by
  rw [Clock.instant?] at found
  split at found
  · exact found
  · cases found

/-- The local clock shows the instant of a wall time in a zone just if the zone is its own and the time is on it. -/
theorem textOf_instant?_iff {wall : WallTime} (valid : wall.isValid = true) (clock : Clock) {ahead : Int} {i : Instant}
    (found : wall.inZone? ahead = some i) :
    textOf (clock.instant? wall) = textOf (some i) ↔ clock.aheadSeconds = ahead ∧ textOf (clock.instant? wall) ≠ "" := by
  constructor
  · intro same
    have nonempty : textOf (clock.instant? wall) ≠ "" := by
      rw [same]
      exact text_ne_empty i
    obtain ⟨j, found'⟩ := textOf_ne_empty.mp nonempty
    rw [found'] at same
    -- One text is one instant, and its seconds are those on the wall less those of either zone.
    have equal : j = i := Instant.eq_of_text_eq (instant?_inCalendar found' valid) (inZone?_inCalendar found valid) same
    have inZone := of_inZone? found
    have onClock := of_inZone? (inZone?_of_instant? found')
    rw [equal] at onClock
    exact ⟨by omega, nonempty⟩
  · rintro ⟨same, nonempty⟩
    obtain ⟨j, found'⟩ := textOf_ne_empty.mp nonempty
    have inZone := inZone?_of_instant? found'
    rw [same, found] at inZone
    rw [found', inZone]

/-- Of a timestamp with a zone a line shows what the timestamp shows without the zone, on the local clock. That is the
instant of the timestamp just if the zone is the local one and the local clock shows the time. -/
theorem line_zoned (clock : Clock) (w : Written) (z : WrittenZone) (rest : List Char) :
    Line.timestamp clock (String.ofList (w.text ++ z.text ++ rest)) = normalize clock (String.ofList w.text) ∧
    (normalize clock (String.ofList (w.text ++ z.text)) ≠ "" →
      (Line.timestamp clock (String.ofList (w.text ++ z.text ++ rest)) = normalize clock (String.ofList (w.text ++ z.text)) ↔
        clock.aheadSeconds = z.seconds ∧ normalize clock (String.ofList w.text) ≠ "")) := by
  have shown : Line.timestamp clock (String.ofList (w.text ++ z.text ++ rest)) = normalize clock (String.ofList w.text) := by
    rw [Line.timestamp, String.toList_ofList, detect?_text, normalize, read?_local]
  refine ⟨shown, fun accepted => ?_⟩
  rw [shown]
  by_cases valid : w.wall.isValid = true
  · have zoned : normalize clock (String.ofList (w.text ++ z.text)) = textOf (w.wall.inZone? z.seconds) := by
      rw [normalize, read?_zoned w z valid]
    have unzoned : normalize clock (String.ofList w.text) = textOf (clock.instant? w.wall) := by
      rw [normalize, read?_local, if_pos valid]
    rw [zoned] at accepted ⊢
    rw [unzoned]
    obtain ⟨i, found⟩ := textOf_ne_empty.mp accepted
    rw [found]
    exact textOf_instant?_iff valid clock found
  · have unread : normalize clock (String.ofList w.text) = "" := by
      rw [normalize, read?_local, if_neg valid]
      rfl
    rw [unread]
    exact ⟨fun same => absurd same.symm accepted, fun both => absurd rfl both.2⟩

def morning : Written where
  date := ⟨2024, 1, 15⟩
  hour := 10
  minute := 30
  second := 0
  separator := 'T'
  fraction := []
  year_lt := by decide
  month_lt := by decide
  day_lt := by decide
  hour_lt := by decide
  minute_lt := by decide
  second_lt := by decide
  separates := .inr rfl
  isFraction := .inl rfl

theorem line_zoned_universal : normalize (.ofSeconds 0 0) "2024-01-15T10:30:00Z" ≠ "" ∧
    Line.timestamp (.ofSeconds 0 0) "2024-01-15T10:30:00Z INFO" = normalize (.ofSeconds 0 0) "2024-01-15T10:30:00Z" := by
  have accepted : normalize (.ofSeconds 0 0) "2024-01-15T10:30:00Z" ≠ "" := by decide +kernel
  have shown : normalize (.ofSeconds 0 0) "2024-01-15T10:30:00" ≠ "" := by decide +kernel
  exact ⟨accepted, ((line_zoned (.ofSeconds 0 0) morning .universal " INFO".toList).2 accepted).mpr ⟨rfl, shown⟩⟩

/-- On a clock two hours ahead, half past ten in universal time is shown as half past eight. -/
theorem not_line_zoned_ahead :
    ¬ ∀ (clock : Clock) (w : Written) (z : WrittenZone) (rest : List Char), (∀ c ∈ rest.head?, isBlank c = true) →
      normalize clock (String.ofList (w.text ++ z.text)) ≠ "" →
        Line.timestamp clock (String.ofList (w.text ++ z.text ++ rest)) = normalize clock (String.ofList (w.text ++ z.text)) := by
  intro agree
  have same := agree (.ofSeconds 0 120) morning .universal " INFO started".toList (by simp; decide) (by decide +kernel)
  exact absurd same (by decide +kernel)

end LogAnalysis.Timestamp
