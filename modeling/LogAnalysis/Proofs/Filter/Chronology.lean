import LogAnalysis.Proofs.Decimal.Doubles
import LogAnalysis.Proofs.Filter.Conditions
import LogAnalysis.Proofs.Normalization
import LogAnalysis.Proofs.Outcome

/-!
# Comparisons of timestamps

The comparisons of numbers belong to no date. Asked of a timestamp they compare the number at the start of its text, which is
the year, with the number at the start of the text of the condition; in the order of time stand `before` and `after` alone.

* `Timestamp.leading?_text`: the text of an instant starts with the number of its year.
* `Condition.holds_timestamp_iff`: what the comparisons ask of a timestamp.
-/

namespace LogAnalysis

open Calendar

/-! ## The number that starts a timestamp -/

theorem Timestamp.leading?_text (i : Instant) : Numeral.leading? i.text = some (Numeral.toFloat ⟨i.date.year, 0⟩) := by
  obtain ⟨d, ds, digits, isDigit⟩ := toDigits_eq_cons i.date.year
  have plain : (Nat.toDigits 10 i.date.year).map Numeral.plainDigit = Nat.toDigits 10 i.date.year :=
    Numeral.map_plainDigit fun c member => .inr (Numeral.isDigit_of_mem_digits member)
  have mark : Numeral.plainDigit '-' = '-' := by decide
  obtain ⟨rest, whole⟩ : ∃ rest, i.text.toList = Nat.toDigits 10 i.date.year ++ '-' :: rest := ⟨_, i.toList_text⟩
  have visible : i.text.toList.dropWhile Text.isBlank = i.text.toList := by
    rw [whole, digits, List.cons_append, List.dropWhile_cons_of_neg (by simp [isBlank_of_isDigit isDigit])]
  have unsigned (more : List Char) : Numeral.takeSign (Nat.toDigits 10 i.date.year ++ more) =
      (false, Nat.toDigits 10 i.date.year ++ more) := by
    rw [digits, List.cons_append, Numeral.takeSign_of_digit isDigit]
  rw [Numeral.leading?, visible, whole, List.map_append, plain, List.map_cons, mark]
  simp only [unsigned, Numeral.takeDecimal_of_digits i.date.year (c := '-') rfl (by decide) rfl]
  rfl

theorem Timestamp.isBlankString_text (i : Instant) : Text.isBlankString i.text = false := by
  obtain ⟨d, ds, digits, isDigit⟩ := toDigits_eq_cons i.date.year
  refine List.all_eq_false.mpr ⟨d, ?_, by simp [isBlank_of_isDigit isDigit]⟩
  rw [Instant.toList_text, digits, List.cons_append]
  exact List.mem_cons_self

/-! ## Comparisons -/

def Operator.Compares {α : Type} [LT α] [LE α] : Operator → α → α → Prop
  | .greaterThan, a, b => b < a
  | .greaterOrEqual, a, b => b ≤ a
  | .lessThan, a, b => a < b
  | .lessOrEqual, a, b => a ≤ b
  | _, _, _ => False

def Operator.comparisons : List Operator := [.greaterThan, .greaterOrEqual, .lessThan, .lessOrEqual]

namespace Operator

variable {op : Operator}

theorem not_compares_of_isNaN {x y : Float} (isNaN : x.isNaN = true ∨ y.isNaN = true) : ¬ op.Compares x y := by
  have apart := Double.compare_of_isNaN isNaN
  have apart' := Double.compare_of_isNaN isNaN.symm
  cases op <;> simp [Compares, Double.lt_iff, Double.le_iff, apart, apart']

theorem resolve?_comparison (clock : Clock) (isComparison : op ∈ comparisons) : ∃ holds : Float → Float → Bool,
    resolve? clock .date op = some (numericTest holds) ∧ ∀ x y, holds x y = true ↔ op.Compares x y := by
  simp only [comparisons, List.mem_cons, List.not_mem_nil, or_false] at isComparison
  rcases isComparison with rfl | rfl | rfl | rfl
  all_goals exact ⟨_, rfl, fun x y => decide_eq_true_iff⟩

end Operator

namespace Condition

variable {clock : Clock} {registry : Option Registry} {e : Entry} {i j : Instant} {op : Operator} {name v : String}

theorem passes_numericTest_iff {holds : Float → Float → Bool} (asks : ∀ x y, holds x y = true ↔ op.Compares x y)
    (s v : String) : passes (Operator.numericTest holds (.text s) (.text v)) = true ↔
      ∃ x y, Numeral.leading? s = some x ∧ Numeral.leading? v = some y ∧ op.Compares x y := by
  have number (s : String) : Value.leadingNumber (.text s) = .ok ((Numeral.leading? s).getD Value.nan) := by
    show Except.ok ((Numeral.leading? (Value.plain (.text s))).getD Value.nan) = _
    rw [Value.plain]
  have noNumber : Value.nan.isNaN = true := by decide
  rw [Operator.numericTest, show (Value.text s).scalar = .text s from rfl, number, number, Outcome.ok_bind, Outcome.ok_bind]
  cases Numeral.leading? s with
  | none =>
      rw [Option.getD_none, noNumber]
      simp [passes]
  | some x =>
      cases Numeral.leading? v with
      | none =>
          rw [Option.getD_none, noNumber]
          simp [passes]
      | some y =>
          have numbers (compares : op.Compares x y) : x.isNaN = false ∧ y.isNaN = false := by
            by_contra notBoth
            refine Operator.not_compares_of_isNaN ?_ compares
            rwa [not_and_or, Bool.not_eq_false, Bool.not_eq_false] at notBoth
          simp only [passes, Option.getD_some, Outcome.pure_eq, Bool.and_eq_true, Bool.not_eq_true', asks, Option.some.injEq]
          constructor
          · rintro ⟨-, compares⟩
            exact ⟨x, y, rfl, rfl, compares⟩
          · rintro ⟨_, _, rfl, rfl, compares⟩
            exact ⟨numbers compares, compares⟩

/-- The entry has a timestamp in a year of four digits, and no other type than that of dates is registered for it. -/
structure IsStamped (registry : Option Registry) (e : Entry) (i : Instant) : Prop where
  text : e.timestamp = i.text
  inCalendar : i.InCalendar
  large : 1000 ≤ i.date.year
  isDate : ∀ t, registry.bind (·.type? "ts") = some t → t = .date

theorem holds_of_question (stamped : IsStamped registry e i) (named : Entry.resolveName name = "ts")
    (given : Text.isBlankString v = false) {question : Operator.Test}
    (asked : Operator.resolve? clock .date op = some question) :
    Condition.holds clock registry e ⟨.text name, .text op.name, .text v⟩ =
      .ok (passes (question (.text i.text) (.text v))) := by
  have present : (Value.text i.text).isEmpty = false := by
    show Text.isBlankString (Value.plain (.text i.text)) = false
    rw [Value.plain]
    exact Timestamp.isBlankString_text i
  have shown : Text.isBlankString (Value.plain (.text v)) = false := by
    rw [Value.plain]
    exact given
  have isDate : FieldType.of registry "ts" (.text i.text) = .date := by
    unfold FieldType.of
    split
    · next t registered => exact stamped.isDate t registered
    · rfl
  have found : e.get "ts" = .text i.text := congrArg Value.text stamped.text
  have tested := test_of_present present shown "ts" (isDate.symm ▸ asked)
  show Except.ok (test clock registry (Entry.resolveName name) (e.get (Entry.resolveName name)) op.name (.text v)) = _
  rw [named, found, tested]
  rfl

theorem holds_comparison_iff (clock : Clock) (stamped : IsStamped registry e i) (named : Entry.resolveName name = "ts")
    (given : Text.isBlankString v = false) (isComparison : op ∈ Operator.comparisons) :
    Condition.holds clock registry e ⟨.text name, .text op.name, .text v⟩ = .ok true ↔
      ∃ y, Numeral.leading? v = some y ∧ op.Compares (Numeral.toFloat ⟨i.date.year, 0⟩) y := by
  obtain ⟨holds, asked, asks⟩ := Operator.resolve?_comparison clock isComparison
  rw [holds_of_question stamped named given asked, Except.ok.injEq, passes_numericTest_iff asks, Timestamp.leading?_text]
  constructor
  · rintro ⟨x, y, isYear, number, compares⟩
    obtain rfl := Option.some.inj isYear
    exact ⟨y, number, compares⟩
  · rintro ⟨y, number, compares⟩
    exact ⟨_, y, rfl, number, compares⟩

theorem hasDouble_year (inCalendar : i.InCalendar) : Numeral.HasDouble i.date.year := by
  have valid : i.date.isValid = true := Date.isValid_ofDayNumber inCalendar.1 inCalendar.2
  obtain ⟨first, last, -⟩ := Date.bounds_of_isValid valid
  constructor <;> omega

theorem compares_years (inCalendar : i.InCalendar) (inCalendar' : j.InCalendar) :
    op.Compares (Numeral.toFloat ⟨i.date.year, 0⟩) (Numeral.toFloat ⟨j.date.year, 0⟩) ↔
      op.Compares i.date.year j.date.year := by
  have held := hasDouble_year inCalendar
  have held' := hasDouble_year inCalendar'
  cases op <;> simp only [Operator.Compares]
  case greaterThan => exact Numeral.toFloat_lt_toFloat held' held
  case greaterOrEqual => exact Numeral.toFloat_le_toFloat held' held
  case lessThan => exact Numeral.toFloat_lt_toFloat held held'
  case lessOrEqual => exact Numeral.toFloat_le_toFloat held held'

theorem compares_instants (inCalendar : i.InCalendar) (inCalendar' : j.InCalendar) (differ : i.date.year ≠ j.date.year) :
    op.Compares i.date.year j.date.year ↔ op.Compares i.milliseconds j.milliseconds := by
  have earlier (less : i.milliseconds < j.milliseconds) := Instant.parts_of_lt inCalendar inCalendar' less
  have later (less : j.milliseconds < i.milliseconds) := Instant.parts_of_lt inCalendar' inCalendar less
  have same (equal : i.milliseconds = j.milliseconds) : i.date.year = j.date.year := by
    rw [show i = j from congrArg Instant.mk equal]
  cases op <;> simp only [Operator.Compares] <;> omega

theorem passes_dateTest {holds : Instant → Instant → Bool} (stamped : IsStamped registry e i)
    (parsed : Timestamp.parse clock v = .ok (some j)) :
    passes (Operator.dateTest clock holds (.text i.text) (.text v)) = holds i j := by
  have own : Timestamp.parse clock i.text = .ok (some i) := by
    rw [Timestamp.parse, Timestamp.read?_text stamped.inCalendar stamped.large]
    exact if_neg (Nat.not_lt.mpr stamped.large)
  rw [Operator.dateTest, show (Value.text i.text).scalar = .text i.text from rfl, Value.plain, Value.plain, own, parsed]
  rfl

theorem exists_read_of_parse (parsed : Timestamp.parse clock v = .ok (some j)) : Timestamp.read? clock v = some j := by
  unfold Timestamp.parse at parsed
  split at parsed
  · cases parsed
  · next k found =>
      split at parsed
      · cases parsed
      · rw [found, Option.some.inj (Except.ok.inj parsed)]

/-- The comparisons of numbers, asked of a timestamp, compare its year with the number that starts the text `v`. Where that is
the year of the instant that `v` names, they compare the years, and so the instants if the years differ. The questions
`before` and `after` compare the instants. -/
theorem holds_timestamp_iff (stamped : IsStamped registry e i) (named : Entry.resolveName name = "ts")
    (parsed : Timestamp.parse clock v = .ok (some j)) :
    (∀ op ∈ Operator.comparisons,
      (holds clock registry e ⟨.text name, .text op.name, .text v⟩ = .ok true ↔
        ∃ y, Numeral.leading? v = some y ∧ op.Compares (Numeral.toFloat ⟨i.date.year, 0⟩) y) ∧
      (Numeral.leading? v = some (Numeral.toFloat ⟨j.date.year, 0⟩) →
        (holds clock registry e ⟨.text name, .text op.name, .text v⟩ = .ok true ↔
          op.Compares i.date.year j.date.year) ∧
        (i.date.year ≠ j.date.year → (holds clock registry e ⟨.text name, .text op.name, .text v⟩ = .ok true ↔
          op.Compares i.milliseconds j.milliseconds)))) ∧
    (holds clock registry e ⟨.text name, .text Operator.before.name, .text v⟩ = .ok true ↔
      i.milliseconds < j.milliseconds) ∧
    (holds clock registry e ⟨.text name, .text Operator.after.name, .text v⟩ = .ok true ↔
      j.milliseconds < i.milliseconds) := by
  have read := exists_read_of_parse parsed
  have inCalendar' := Timestamp.read?_inCalendar read
  have given : Text.isBlankString v = false := by
    by_contra blank
    rw [Timestamp.read?_of_blank (Bool.of_not_eq_false blank)] at read
    contradiction
  refine ⟨fun op isComparison => ?_, ?_, ?_⟩
  · have compared := holds_comparison_iff clock stamped named given isComparison
    refine ⟨compared, fun startsWithYear => ?_⟩
    have years : holds clock registry e ⟨.text name, .text op.name, .text v⟩ = .ok true ↔
        op.Compares i.date.year j.date.year := by
      rw [compared, ← compares_years stamped.inCalendar inCalendar', startsWithYear]
      simp
    exact ⟨years, fun differ => years.trans (compares_instants stamped.inCalendar inCalendar' differ)⟩
  · rw [holds_of_question stamped named given rfl, passes_dateTest stamped parsed]
    simp
  · rw [holds_of_question stamped named given rfl, passes_dateTest stamped parsed]
    simp

def mayEntry : Entry := .make 1 "2024-05-01T00:00:00.000Z" "" "" "" []

theorem isStamped_mayEntry : IsStamped none mayEntry ⟨1714521600000⟩ where
  text := by decide
  inCalendar := ⟨by decide, by decide⟩
  large := by decide
  isDate := by
    intro t registered
    contradiction

theorem holds_timestamp_iff_lastYear :
    holds (.ofSeconds 0 0) none mayEntry ⟨.text "timestamp", .text "greaterThan", .text "2023-12-31T00:00:00Z"⟩ = .ok true ∧
      holds (.ofSeconds 0 0) none mayEntry ⟨.text "timestamp", .text "after", .text "2023-12-31T00:00:00Z"⟩ = .ok true := by
  have parsed : Timestamp.parse (.ofSeconds 0 0) "2023-12-31T00:00:00Z" = .ok (some ⟨1703980800000⟩) := by decide +kernel
  have startsWithYear : Numeral.leading? "2023-12-31T00:00:00Z" = some (Numeral.toFloat ⟨2023, 0⟩) := by decide +kernel
  have earlier : (1703980800000 : Int) < 1714521600000 := by decide
  obtain ⟨comparisons, -, after⟩ := holds_timestamp_iff isStamped_mayEntry (show Entry.resolveName "timestamp" = "ts" by decide) parsed
  obtain ⟨-, years⟩ := comparisons .greaterThan (by decide)
  exact ⟨((years startsWithYear).2 (by decide)).mpr earlier, after.mpr earlier⟩

/-- Instants of one year are not told apart by the comparisons. -/
theorem greaterThan_of_later_sameYear : IsStamped none mayEntry ⟨1714521600000⟩ ∧
    Timestamp.parse (.ofSeconds 0 0) "2024-01-01T00:00:00Z" = .ok (some ⟨1704067200000⟩) ∧
    (1704067200000 : Int) < 1714521600000 ∧
    holds (.ofSeconds 0 0) none mayEntry ⟨.text "ts", .text "greaterThan", .text "2024-01-01T00:00:00Z"⟩ = .ok false :=
  ⟨isStamped_mayEntry, by decide +kernel, by decide, by decide +kernel⟩

end Condition

end LogAnalysis
