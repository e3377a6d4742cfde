import LogAnalysis.Proofs.Calendar.Order
import LogAnalysis.Proofs.Timestamps
import LogAnalysis.Value.Text

/-!
# Normal timestamps

The normal text of a value is empty or the text of an instant within the calendar. In years of four digits it is a normal
form: it is read back as the instant that it was written for, it is its own normal text on every clock, and it stands among
the others in the order of time.

* `Timestamp.read?_inCalendar`: whatever form a text has, the instant that it names is within the calendar.
* `Timestamp.ofText?_text`: texts of instants are read back.
* `Timestamp.parse_eq_reread`: to parse a text is to read its normal text back.
* `Timestamp.normalize_canonical`: what a value is parsed as, by its normal text.
-/

namespace LogAnalysis

open Calendar

/-! ## Every form names instants within the calendar -/

namespace Calendar

theorem WallTime.addDays?_isValid {w w' : WallTime} {days : Int} (valid : w.isValid = true)
    (found : w.addDays? days = some w') : w'.isValid = true := by
  obtain ⟨date, added, rfl⟩ := Option.map_eq_some_iff.mp found
  unfold Date.add? at added
  dsimp only at added
  split at added
  · next within =>
      obtain rfl := Option.some.inj added
      have inMonth := Date.isValid_ofDayNumber within.1 within.2
      simp only [isValid, Bool.and_eq_true] at valid ⊢
      exact ⟨⟨⟨⟨inMonth, valid.1.1.1.2⟩, valid.1.1.2⟩, valid.1.2⟩, valid.2⟩
  · contradiction

theorem Iso.parse?_isValid {s : String} {wall : WallTime} {zone : Option Int}
    (found : Iso.parse? s = some (wall, zone)) : wall.isValid = true := by
  unfold Iso.parse? at found
  dsimp only at found
  split at found
  · contradiction
  obtain ⟨⟨⟨year, month, day⟩, rest⟩, -, found⟩ := Option.bind_eq_some_iff.mp found
  -- With and without a time of day, the date and the time are put together in the same way.
  cases rest
  all_goals
    obtain ⟨t, -, found⟩ := Option.bind_eq_some_iff.mp found
    obtain ⟨date, -, found⟩ := Option.bind_eq_some_iff.mp found
    by_cases endOfDay : t.hour = 24
    · simp only [endOfDay, if_true] at found
      split at found
      · contradiction
      split at found
      · next valid =>
          obtain ⟨next, added, same⟩ := Option.bind_eq_some_iff.mp found
          obtain ⟨rfl, -⟩ := Prod.mk.inj (Option.some.inj same)
          exact WallTime.addDays?_isValid valid added
      · contradiction
    · simp only [endOfDay, if_false] at found
      split at found
      · contradiction
      split at found
      · next valid =>
          obtain ⟨rfl, -⟩ := Prod.mk.inj (Option.some.inj found)
          exact valid
      · contradiction

theorem FreeForm.parse?_isValid {clock : Clock} {s : String} {wall : WallTime} {zone : Zone}
    (found : FreeForm.parse? clock s = some (wall, zone)) : wall.isValid = true := by
  unfold FreeForm.parse? at found
  obtain ⟨r, -, found⟩ := Option.bind_eq_some_iff.mp found
  obtain ⟨roles, -, found⟩ := Option.bind_eq_some_iff.mp found
  split at found
  · contradiction
  obtain ⟨date, -, found⟩ := Option.bind_eq_some_iff.mp found
  dsimp only at found
  split at found
  · next valid =>
      obtain ⟨rfl, -⟩ := Prod.mk.inj (Option.some.inj found)
      exact valid
  · contradiction

end Calendar

namespace Timestamp

variable {clock : Clock} {i : Instant} {s : String}

theorem readIso?_inCalendar (found : readIso? clock s = some i) : i.InCalendar := by
  obtain ⟨⟨wall, zone⟩, parsed, found⟩ := Option.bind_eq_some_iff.mp found
  have valid := Iso.parse?_isValid parsed
  cases zone with
  | some ahead => exact inZone?_inCalendar found valid
  | none => exact instant?_inCalendar found valid

theorem readFreeForm?_inCalendar (found : readFreeForm? clock s = some i) : i.InCalendar := by
  obtain ⟨⟨wall, zone⟩, parsed, found⟩ := Option.bind_eq_some_iff.mp found
  have valid := FreeForm.parse?_isValid parsed
  cases zone with
  | unknown => exact instant?_inCalendar found valid
  | localZone => exact inZone?_inCalendar found valid
  | ahead seconds => exact inZone?_inCalendar found valid

theorem read?_inCalendar (found : read? clock s = some i) : i.InCalendar := by
  unfold read? at found
  dsimp only at found
  split at found
  · contradiction
  split at found
  · rcases Option.or_eq_some_iff.mp found with iso | ⟨-, freeForm⟩
    · exact readIso?_inCalendar iso
    · exact readFreeForm?_inCalendar freeForm
  split at found
  · exact Stamp.instant?_inCalendar found
  split at found
  · next byMonth => exact monthStamp?_inCalendar (byMonth.trans (congrArg some found))
  · exact readFreeForm?_inCalendar found

/-! ## Reading texts of instants back -/

/-- The instant for which a text was written, with four digits for the year. -/
def ofText? (s : String) : Option Instant := do
  let (year, cs) ← digits? 4 s.toList
  let (month, cs) ← digits? 2 (← after? '-' cs)
  let (day, cs) ← digits? 2 (← after? '-' cs)
  let ((hour, minute, second), cs) ← clockTime? (digits? 2) (← after? 'T' cs)
  let (thousandths, cs) ← digits? 3 (← after? '.' cs)
  let wall : WallTime := ⟨⟨year, month, day⟩, hour, minute, second, thousandths * 1000⟩
  if cs = ['Z'] ∧ wall.isValid then wall.inZone? 0 else none

open Numeral (IsNumeral)

theorem digits?_of_isNumeral {width n : Nat} {cs : List Char} (numeral : IsNumeral width n cs) (rest : List Char) :
    digits? width (cs ++ rest) = some (n, rest) := by
  obtain ⟨rfl, digits, rfl⟩ := numeral
  induction cs with
  | nil => rfl
  | cons c cs ih =>
      obtain ⟨first, others⟩ := List.forall_mem_cons.mp digits
      have tail := ih others
      simp [digits?, decimalValue?_of_isDigit first, tail, Numeral.digitsValue_cons]

theorem digits?_of_mem_take {c : Char} {width : Nat} {cs : List Char} (noDigit : Text.decimalValue? c = none)
    (member : c ∈ cs.take width) : digits? width cs = none := by
  induction cs generalizing width with
  | nil => simp at member
  | cons d cs ih =>
      cases width with
      | zero => simp at member
      | succ width =>
          rcases List.mem_cons.mp member with rfl | later
          · simp [digits?, noDigit]
          · simp [digits?, ih later]

theorem ofText?_text (inCalendar : i.InCalendar) (large : 1000 ≤ i.date.year) : ofText? i.text = some i := by
  obtain ⟨year, month, day, hour, minute, second, thousandth⟩ := Instant.hasNumerals inCalendar large
  have valid : i.wallTime.isValid = true := Instant.isValid_wallTime inCalendar
  have again : i.wallTime.inZone? 0 = some i := Instant.inZone?_wallTime inCalendar
  rw [ofText?, Instant.toList_text]
  simp only [digits?_of_isNumeral year, digits?_of_isNumeral month, digits?_of_isNumeral day, digits?_of_isNumeral hour,
    digits?_of_isNumeral minute, digits?_of_isNumeral second, digits?_of_isNumeral thousandth, clockTime?, after?_cons,
    Option.bind_eq_bind, Option.bind_some]
  exact (if_pos ⟨trivial, valid⟩).trans again

theorem ofText?_text_of_short (short : i.date.year < 1000) : ofText? i.text = none := by
  have few : (Nat.toDigits 10 i.date.year).length ≤ 3 := (Nat.length_toDigits_le_iff (by decide) (by decide)).mpr short
  have unread : digits? 4 i.text.toList = none := by
    refine digits?_of_mem_take (c := '-') (by decide) ?_
    rw [Instant.toList_text, List.take_append, List.take_cons (by omega)]
    exact List.mem_append_right _ List.mem_cons_self
  rw [ofText?, unread]
  rfl

/-! ## Normal texts of values -/

def normalizeValue (clock : Clock) : Value → String
  | .null => ""
  | v => normalize clock v.display

def parseValue (clock : Clock) : Value → Outcome (Option Instant)
  | .null => .ok none
  | v => parse clock v.display

def reread (s : String) : Outcome (Option Instant) :=
  if s = "" then .ok none
  else match ofText? s with
    | some i => .ok (some i)
    | none => Fault.refuse (.shortYear s)

theorem text_ne_empty (i : Instant) : i.text ≠ "" := by
  intro empty
  obtain ⟨rest, reversed⟩ := i.reverse_text
  rw [empty] at reversed
  contradiction

theorem reread_text (inCalendar : i.InCalendar) : reread i.text =
    if i.date.year < 1000 then Fault.refuse (.shortYear i.text) else .ok (some i) := by
  rw [reread, if_neg (text_ne_empty i)]
  by_cases short : i.date.year < 1000
  · rw [if_pos short, ofText?_text_of_short short]
  · rw [if_neg short, ofText?_text inCalendar (Nat.le_of_not_lt short)]

theorem parse_eq_reread (clock : Clock) (s : String) : parse clock s = reread (normalize clock s) := by
  unfold parse normalize textOf
  split
  · next unread => rw [unread]; rfl
  · next i found => rw [found]; exact (reread_text (read?_inCalendar found)).symm

theorem parseValue_eq_reread (clock : Clock) (v : Value) : parseValue clock v = reread (normalizeValue clock v) := by
  cases v with
  | null => rfl
  | _ => exact parse_eq_reread clock _

theorem normalizeValue_cases (clock : Clock) (v : Value) :
    normalizeValue clock v = "" ∨ ∃ i : Instant, i.InCalendar ∧ normalizeValue clock v = i.text := by
  have ofString (s : String) : normalize clock s = "" ∨ ∃ i : Instant, i.InCalendar ∧ normalize clock s = i.text := by
    unfold normalize
    cases found : read? clock s with
    | none => exact .inl rfl
    | some i => exact .inr ⟨i, read?_inCalendar found, rfl⟩
  cases v with
  | null => exact .inl rfl
  | _ => exact ofString _

theorem of_ofText? {v : Value} (back : ofText? (normalizeValue clock v) = some i) :
    i.InCalendar ∧ 1000 ≤ i.date.year ∧ normalizeValue clock v = i.text := by
  rcases normalizeValue_cases clock v with empty | ⟨k, inCalendar, text⟩
  · rw [empty] at back
    contradiction
  · rw [text] at back ⊢
    rcases Nat.lt_or_ge k.date.year 1000 with short | large
    · rw [ofText?_text_of_short short] at back
      contradiction
    · obtain rfl := Option.some.inj ((ofText?_text inCalendar large).symm.trans back)
      exact ⟨inCalendar, large, rfl⟩

/-- What a value is parsed as is told by its normal text: nothing by the empty one, and an instant in a year of four digits
by the text of that instant, which is normal on every clock and stands among all of them in the order of time. Any other
normal text is of an earlier year, and is refused. -/
theorem normalize_canonical (clock : Clock) (v : Value) :
    (normalizeValue clock v = "" → parseValue clock v = .ok none) ∧
    (∀ i, ofText? (normalizeValue clock v) = some i → 1000 ≤ i.date.year ∧
      parseValue clock v = .ok (some i) ∧ i.text = normalizeValue clock v ∧
      (∀ clock', normalizeValue clock' (.text (normalizeValue clock v)) = normalizeValue clock v) ∧
      ∀ clock' w j, ofText? (normalizeValue clock' w) = some j →
        (normalizeValue clock v < normalizeValue clock' w ↔ i.milliseconds < j.milliseconds)) ∧
    (normalizeValue clock v ≠ "" → ofText? (normalizeValue clock v) = none →
      parseValue clock v = Fault.refuse (.shortYear (normalizeValue clock v)) ∧
        ∃ i : Instant, i.text = normalizeValue clock v ∧ i.date.year < 1000) := by
  rw [parseValue_eq_reread]
  refine ⟨fun empty => ?_, fun i back => ?_, fun nonempty unread => ?_⟩
  · rw [empty]
    rfl
  · obtain ⟨inCalendar, large, text⟩ := of_ofText? back
    refine ⟨large, ?_, text.symm, fun clock' => ?_, fun clock' w j back' => ?_⟩
    · rw [text, reread_text inCalendar, if_neg (Nat.not_lt.mpr large)]
    · rw [text]
      show textOf (read? clock' i.text) = i.text
      rw [read?_text inCalendar large]
      rfl
    · obtain ⟨inCalendar', large', text'⟩ := of_ofText? back'
      rw [text, text']
      exact Instant.text_lt_text_iff inCalendar inCalendar' large large'
  · rcases normalizeValue_cases clock v with empty | ⟨k, inCalendar, text⟩
    · exact absurd empty nonempty
    · have short : k.date.year < 1000 := by
        by_contra notShort
        rw [text, ofText?_text inCalendar (Nat.le_of_not_lt notShort)] at unread
        contradiction
      rw [text, reread_text inCalendar, if_pos short]
      exact ⟨rfl, k, rfl, short⟩

theorem normalize_canonical_zoned :
    parseValue (.ofSeconds 0 0) (.text "2024-05-01T02:00:00+02:00") = .ok (some ⟨1714521600000⟩) ∧
      normalizeValue (.ofSeconds 0 0) (.text "2024-05-01T02:00:00+02:00") = "2024-05-01T00:00:00.000Z" := by
  have back : ofText? (normalizeValue (.ofSeconds 0 0) (.text "2024-05-01T02:00:00+02:00")) = some ⟨1714521600000⟩ := by
    decide +kernel
  obtain ⟨-, parsed, text, -⟩ := (normalize_canonical (.ofSeconds 0 0) (.text "2024-05-01T02:00:00+02:00")).2.1 _ back
  exact ⟨parsed, text.symm.trans (by decide +kernel)⟩

end Timestamp

end LogAnalysis
