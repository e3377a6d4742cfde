import LogAnalysis.Line
import LogAnalysis.Proofs.Calendar.Notation
import LogAnalysis.Proofs.Text.Trimming

/-!
# Timestamps of lines

A timestamp that is found in a line is an instant within the calendar (`detect?_inCalendar`), and its text names that instant
again on every clock if the year has four digits (`read?_text`).
-/

namespace LogAnalysis.Timestamp

open Calendar Text

variable {clock : Clock} {i : Instant}

@[simp]
theorem after?_cons (c : Char) (cs : List Char) : after? c (c :: cs) = some cs := if_pos rfl

/-! ## Instants on clocks -/

theorem inZone?_inCalendar {w : WallTime} {ahead : Int} (found : w.inZone? ahead = some i)
    (valid : w.isValid = true) : i.InCalendar := by
  simp only [WallTime.isValid, Bool.and_eq_true, decide_eq_true_eq] at valid
  obtain ⟨-, thousandths⟩ := valid
  unfold WallTime.inZone? at found
  dsimp only at found
  split at found
  · next within =>
      simp only [inCalendar, Bool.and_eq_true, decide_eq_true_eq] at within
      obtain ⟨-, first, last⟩ := within
      obtain rfl := Option.some.inj found
      unfold Instant.InCalendar
      dsimp only
      omega
  · contradiction

theorem instant?_inCalendar {w : WallTime} (found : clock.instant? w = some i) (valid : w.isValid = true) :
    i.InCalendar := by
  unfold Clock.instant? at found
  split at found
  · exact inZone?_inCalendar found valid
  · contradiction

theorem Stamp.instant?_inCalendar {s : Stamp} (found : s.instant? clock = some i) : i.InCalendar := by
  unfold Stamp.instant? at found
  dsimp only at found
  split at found
  · next valid => exact Timestamp.instant?_inCalendar found valid
  · contradiction

theorem monthStamp?_inCalendar {cs : List Char} (found : monthStamp? clock cs = some (some i)) : i.InCalendar := by
  obtain ⟨⟨⟨name, day, time⟩, rest⟩, -, isInstant⟩ := Option.map_eq_some_iff.mp found
  obtain ⟨place, -, isInstant⟩ := Option.bind_eq_some_iff.mp isInstant
  exact Stamp.instant?_inCalendar isInstant

theorem detect?_inCalendar {line : List Char} (found : detect? clock line = some i) : i.InCalendar := by
  unfold detect? at found
  split at found
  · exact Stamp.instant?_inCalendar found
  · exact monthStamp?_inCalendar (Option.join_eq_some_iff.mp found)

/-! ## Reading the text of an instant -/

theorem isBlank_of_isDigit {c : Char} (isDigit : c.isDigit = true) : isBlank c = false := by
  have table : ∀ n < 10, isBlank (Nat.digitChar n) = false := by decide
  obtain ⟨n, small, rfl⟩ := exists_digitChar isDigit
  exact table n small

theorem isTrimmed_text (i : Instant) : IsTrimmed i.text.toList where
  first := fun c isFirst => by
    obtain ⟨y, ys, digits, isDigit⟩ := toDigits_eq_cons i.date.year
    rw [Instant.toList_text, digits, List.cons_append, List.head?_cons] at isFirst
    obtain rfl := Option.some.inj isFirst
    exact isBlank_of_isDigit isDigit
  last := fun c isLast => by
    obtain ⟨rest, reversed⟩ := i.reverse_text
    rw [List.getLast?_eq_head?_reverse, reversed, List.head?_cons] at isLast
    obtain rfl := Option.some.inj isLast
    decide

theorem read?_text (inCalendar : i.InCalendar) (large : 1000 ≤ i.date.year) (clock : Clock) :
    read? clock i.text = some i := by
  have read : readIso? clock i.text = some i := by
    rw [readIso?, Instant.parse?_text inCalendar large]
    exact Instant.inZone?_wallTime inCalendar
  obtain ⟨rest, reversed⟩ := i.reverse_text
  have zoned : endsWithZone i.text.toList = true := by
    rw [endsWithZone, reversed]
    rfl
  have nonempty : i.text.toList.isEmpty = false := by
    rw [← List.isEmpty_reverse, reversed]
    rfl
  simp only [read?, (isTrimmed_text i).trim_eq, nonempty, zoned, String.ofList_toList, read, Option.some_or]
  rfl

/-! ## Years of four digits -/

/-- Where the text names an instant, the year of the instant has four digits. -/
def HasFullYear (clock : Clock) (s : String) : Prop := ∀ i, read? clock s = some i → 1000 ≤ i.date.year

theorem exists_parse_iff {s : String} : (∃ date, parse clock s = .ok date) ↔ HasFullYear clock s := by
  unfold parse HasFullYear
  split
  · next none => simp [none]
  · next i found =>
      split
      · next short =>
          constructor
          · rintro ⟨date, impossible⟩
            exact nomatch impossible
          · exact fun full => absurd (full i found) (Nat.not_le_of_lt short)
      · next notShort => simpa [found] using Nat.le_of_not_lt notShort

theorem read?_of_blank {s : String} (blank : isBlankString s = true) : read? clock s = none := by
  have nothing : trim s.toList = [] := by
    rw [trim, List.dropWhile_eq_nil_iff.mpr (List.all_eq_true.mp blank)]
    rfl
  simp only [read?, nothing]
  rfl

theorem hasFullYear_of_blank {s : String} (blank : isBlankString s = true) : HasFullYear clock s := by
  simp [HasFullYear, read?_of_blank blank]

end LogAnalysis.Timestamp
