import LogAnalysis.Proofs.Stamps

/-!
# What is cut off a line

The part of a line that `Line.withoutTimestamp` takes off is a timestamp with white space and square brackets around it
(`Line.cut_cases`). It is the timestamp that is recorded for the line unless a date and a time in numbers stands further on
(`Line.timestamp_of_cut`).
-/

namespace LogAnalysis.Line

open Text Timestamp Calendar

/-- White space and square brackets, which may stand around a timestamp. -/
def isEdge (c : Char) : Bool := isBlank c || c = '[' || c = ']'

/-- The string without white space and square brackets at either end. -/
def bare (s : String) : String := String.ofList ((s.toList.dropWhile isEdge).rdropWhile isEdge)

theorem isEdge_of_isBlank {c : Char} (blank : isBlank c = true) : isEdge c = true := by
  rw [isEdge, blank]
  rfl

theorem isEdge_of_isDecimal {c : Char} (decimal : isDecimal c = true) : isEdge c = false := by
  rw [isEdge, isBlank_of_isDecimal decimal, Bool.false_or, Bool.or_eq_false_iff, decide_eq_false_iff_not,
    decide_eq_false_iff_not]
  constructor
  · rintro rfl
    exact absurd decimal (by decide)
  · rintro rfl
    exact absurd decimal (by decide)

theorem isDecimal_of_isEdge {c : Char} (edge : isEdge c = true) : isDecimal c = false := by
  cases decimal : isDecimal c with
  | false => rfl
  | true =>
      rw [isEdge_of_isDecimal decimal] at edge
      cases edge

theorem isEdge_of_isAlpha {c : Char} (letter : c.isAlpha = true) : isEdge c = false := by
  have notBlank : isBlank c = false := by
    cases blank : isBlank c with
    | false => rfl
    | true =>
        rw [isAlpha_of_isBlank blank] at letter
        cases letter
  rw [isEdge, notBlank, Bool.false_or, Bool.or_eq_false_iff, decide_eq_false_iff_not, decide_eq_false_iff_not]
  constructor
  · rintro rfl
    exact absurd letter (by decide)
  · rintro rfl
    exact absurd letter (by decide)

theorem toList_bare {before text after : List Char} {c d : Char} {s : String}
    (whole : s.toList = before ++ (c :: (text ++ [d]) ++ after)) (edges : ∀ c ∈ before, isEdge c = true)
    (edges' : ∀ c ∈ after, isEdge c = true) (first : isEdge c = false) (last : isEdge d = false) :
    (bare s).toList = c :: (text ++ [d]) := by
  have start : s.toList.dropWhile isEdge = c :: (text ++ [d]) ++ after := by
    rw [whole, List.dropWhile_append_of_pos edges, List.cons_append,
      List.dropWhile_cons_of_neg (by rw [first]; exact Bool.false_ne_true)]
  have stop : (c :: (text ++ [d]) ++ after).rdropWhile isEdge = c :: (text ++ [d]) := by
    have reversed : ∀ c ∈ after.reverse, isEdge c = true := fun c member => edges' c (List.mem_reverse.mp member)
    rw [List.rdropWhile, List.reverse_append, List.dropWhile_append_of_pos reversed, ← List.rdropWhile,
      ← List.cons_append, List.rdropWhile_concat_neg isEdge _ _ (by rw [last]; exact Bool.false_ne_true)]
  rw [bare, String.toList_ofList, start, stop]

theorem exists_body (cs : List Char) : ∃ before, cs = before ++ body cs ∧ ∀ c ∈ before, isEdge c = true := by
  have blanks : ∀ c ∈ cs.takeWhile isBlank, isEdge c = true :=
    fun c member => isEdge_of_isBlank (List.mem_takeWhile_imp member)
  cases opening : after? '[' (cs.dropWhile isBlank) with
  | none =>
      refine ⟨cs.takeWhile isBlank, ?_, blanks⟩
      rw [body, afterOpening, opening, Option.getD_none, List.takeWhile_append_dropWhile]
  | some rest =>
      refine ⟨cs.takeWhile isBlank ++ ['['], ?_, ?_⟩
      · rw [body, afterOpening, opening, Option.getD_some, List.append_assoc, List.singleton_append, ← of_after? opening,
          List.takeWhile_append_dropWhile]
      · simp only [List.mem_append, List.mem_singleton]
        rintro c (blank | rfl)
        · exact blanks c blank
        · decide

/-- A text that ends with a digit, together with the fraction after it, ends where white space and brackets begin. -/
theorem exists_afterStamp {d : Char} (isDigit : isDecimal d = true) (text rest : List Char) :
    ∃ places text' d' after, text ++ d :: places = text' ++ [d'] ∧
      text ++ d :: rest = text' ++ [d'] ++ (after ++ afterStamp rest) ∧ isDecimal d' = true ∧
      (∀ c ∈ after, isEdge c = true) ∧ fraction places = ((fraction rest).1, []) ∧
      (fraction rest).2 = after ++ afterStamp rest := by
  obtain ⟨places, split, reads, ends⟩ := exists_fraction rest
  obtain ⟨text', d', isText, last⟩ := exists_last_digit text isDigit ends
  suffices ∃ after, (fraction rest).2 = after ++ afterStamp rest ∧ ∀ c ∈ after, isEdge c = true by
    obtain ⟨after, same, edges⟩ := this
    refine ⟨places, text', d', after, isText, ?_, last, edges, reads, same⟩
    rw [← isText, List.append_assoc, List.cons_append, ← same, ← split]
  have blanks (cs : List Char) : ∀ c ∈ cs.takeWhile isBlank, isEdge c = true :=
    fun c member => isEdge_of_isBlank (List.mem_takeWhile_imp member)
  cases closing : after? ']' (fraction rest).2 with
  | none =>
      refine ⟨(fraction rest).2.takeWhile isBlank, ?_, blanks _⟩
      rw [afterStamp, closing, Option.getD_none, List.takeWhile_append_dropWhile]
  | some cs =>
      refine ⟨']' :: cs.takeWhile isBlank, ?_, List.forall_mem_cons.mpr ⟨by decide, blanks cs⟩⟩
      rw [afterStamp, closing, Option.getD_some, List.cons_append, List.takeWhile_append_dropWhile, of_after? closing]

theorem cut_cases (line : String) : withoutTimestamp line = line ∨
    ∃ before text after c d, line.toList = before ++ (c :: (text ++ [d]) ++ (after ++ (withoutTimestamp line).toList)) ∧
      (∀ c ∈ before, isEdge c = true) ∧ (∀ c ∈ after, isEdge c = true) ∧ isDecimal d = true ∧
      ((isDecimal c = true ∧ ∃ s, stampAt? (c :: (text ++ [d]) ++ (after ++ (withoutTimestamp line).toList)) =
          some (s, after ++ (withoutTimestamp line).toList)) ∨
        (c.isAlpha = true ∧ ∀ clock,
          monthStamp? clock (c :: (text ++ [d]) ++ (after ++ (withoutTimestamp line).toList)) =
            monthStamp? clock (c :: (text ++ [d])))) := by
  obtain ⟨before, split, edges⟩ := exists_body line.toList
  cases numeric : stampHead? (body line.toList) with
  | some found =>
      obtain ⟨value, rest⟩ := found
      have cut : (withoutTimestamp line).toList = afterStamp rest := by
        simp only [withoutTimestamp, numeric, String.toList_ofList]
      obtain ⟨c, text, d, whole, first, last, -⟩ := of_stampHead? numeric
      obtain ⟨-, text', d', after, -, isText, last', edges', -, isAfter⟩ := exists_afterStamp last text rest
      have isBody : body line.toList = c :: (text' ++ [d']) ++ (after ++ afterStamp rest) := by rw [whole, isText]; rfl
      refine .inr ⟨before, text', after, c, d', ?_, edges, edges', last', .inl ⟨first, ?_⟩⟩
      · rw [cut, ← isBody, ← split]
      · rw [cut, ← isBody, stampAt?_of_stampHead? numeric, ← isAfter]
        exact ⟨_, rfl⟩
  | none =>
      cases named : monthHead? (body line.toList) with
      | none =>
          left
          simp only [withoutTimestamp, numeric, named]
      | some found =>
          obtain ⟨value, rest⟩ := found
          have cut : (withoutTimestamp line).toList = afterStamp rest := by
            simp only [withoutTimestamp, numeric, named, String.toList_ofList]
          obtain ⟨c, text, d, whole, first, last, reads⟩ := of_monthHead? named
          obtain ⟨places, text', d', after, alone, isText, last', edges', isFraction, -⟩ :=
            exists_afterStamp last text rest
          have isBody : body line.toList = c :: (text' ++ [d']) ++ (after ++ afterStamp rest) := by rw [whole, isText]; rfl
          refine .inr ⟨before, text', after, c, d', ?_, edges, edges', last', .inr ⟨first, fun clock => ?_⟩⟩
          · rw [cut, ← isBody, ← split]
          · rw [cut, ← isBody, ← alone]
            exact monthStamp?_congr named (reads places) (by rw [isFraction]) clock

theorem exists_cut (line : String) : ∃ cut, line = cut ++ withoutTimestamp line := by
  rcases cut_cases line with same | ⟨before, text, after, c, d, whole, -⟩
  · exact ⟨"", by rw [same, String.empty_append]⟩
  · refine ⟨String.ofList (before ++ (c :: (text ++ [d]) ++ after)), String.toList_inj.mp ?_⟩
    rw [String.toList_append, String.toList_ofList, whole]
    simp

theorem stampAt?_drop_of_isEdge {before : List Char} (edges : ∀ c ∈ before, isEdge c = true) (cs : List Char) :
    ∀ n < before.length, stampAt? ((before ++ cs).drop n) = none := by
  intro n less
  rw [List.drop_append_of_le_length (Nat.le_of_lt less), List.drop_eq_getElem_cons less, List.cons_append]
  exact stampAt?_of_not_isDecimal (isDecimal_of_isEdge (edges _ (List.getElem_mem less))) _

/-- The timestamp that is cut off a line is the one recorded for it where it is a date and a time in numbers. Else the
first date and time in numbers in the line goes before it; without one it is recorded if it stands at the very start. -/
theorem timestamp_of_cut (clock : Clock) (line cut : String) (whole : line = cut ++ withoutTimestamp line)
    (nonempty : cut ≠ "") :
    ((∃ s, stampAt? (bare cut).toList = some (s, [])) → timestamp clock line = timestamp clock (bare cut)) ∧
    (∀ stamp : String, FirstStamp line.toList stamp.toList → timestamp clock line = timestamp clock stamp) ∧
    ((∀ stamp : String, ¬ FirstStamp line.toList stamp.toList) → (∀ c ∈ cut.toList.head?, isEdge c = false) →
      timestamp clock line = timestamp clock (bare cut)) := by
  have byFirst {stamp : String} (first : FirstStamp line.toList stamp.toList) :
      timestamp clock line = timestamp clock stamp := by rw [timestamp, first.detect?_eq, timestamp]
  have cutAppend : line.toList = cut.toList ++ (withoutTimestamp line).toList := by
    rw [← String.toList_append, ← whole]
  rcases cut_cases line with same | ⟨before, text, after, c, d, split, edges, edges', last, kind⟩
  · rw [same] at cutAppend
    exact absurd (String.toList_eq_nil_iff.mp (List.self_eq_append_left.mp cutAppend)) nonempty
  have isCut : cut.toList = before ++ (c :: (text ++ [d]) ++ after) := by
    rw [split, ← List.append_assoc _ after, ← List.append_assoc before] at cutAppend
    exact (List.append_cancel_right cutAppend).symm
  refine ⟨fun numeric => ?_, fun stamp => byFirst, fun without unindented => ?_⟩
  · rcases kind with ⟨first, s, read⟩ | ⟨letter, -⟩
    · have isBare := toList_bare isCut edges edges' (isEdge_of_isDecimal first) (isEdge_of_isDecimal last)
      refine byFirst ⟨before, after ++ (withoutTimestamp line).toList, s, ?_, ?_, ?_⟩
      · rw [isBare, split]
      · rw [isBare, read]
      · rw [split]
        exact stampAt?_drop_of_isEdge edges _
    · obtain ⟨s, read⟩ := numeric
      rw [toList_bare isCut edges edges' (isEdge_of_isAlpha letter) (isEdge_of_isDecimal last),
        stampAt?_of_not_isDecimal (isDecimal_of_isAlpha letter)] at read
      cases read
  · have none : stamp? line.toList = .none := by
      cases found : stamp? line.toList with
      | none => rfl
      | some s =>
          obtain ⟨stamp, first⟩ := exists_firstStamp found
          rw [← String.toList_ofList (l := stamp)] at first
          exact absurd first (without _)
    obtain rfl : before = [] := by
      cases before with
      | nil => rfl
      | cons b before =>
          have notEdge := unindented b (by rw [isCut]; rfl)
          rw [edges b List.mem_cons_self] at notEdge
          cases notEdge
    rw [List.nil_append] at split
    rcases kind with ⟨-, s, read⟩ | ⟨letter, same⟩
    · rw [split, stamp?_of_stampAt? read] at none
      cases none
    · have isBare := toList_bare isCut edges edges' (isEdge_of_isAlpha letter) (isEdge_of_isDecimal last)
      have noneAlone : stamp? (c :: (text ++ [d])) = .none := stamp?_of_append (split ▸ none)
      rw [timestamp, detect?, none, timestamp, isBare, detect?, noneAlone, split, same clock]

theorem timestamp_of_cut_bracketed :
    let line := "[2024-01-15 10:30:00.5] started"
    line = "[2024-01-15 10:30:00.5] " ++ withoutTimestamp line ∧
      timestamp (.ofSeconds 0 0) line = timestamp (.ofSeconds 0 0) (bare "[2024-01-15 10:30:00.5] ") := by
  have whole : "[2024-01-15 10:30:00.5] started" =
      "[2024-01-15 10:30:00.5] " ++ withoutTimestamp "[2024-01-15 10:30:00.5] started" := by decide +kernel
  have numeric : (stampAt? (bare "[2024-01-15 10:30:00.5] ").toList).map Prod.snd = some [] := by decide +kernel
  obtain ⟨⟨s, rest⟩, read, rfl⟩ := Option.map_eq_some_iff.mp numeric
  exact ⟨whole, (timestamp_of_cut (.ofSeconds 0 0) _ _ whole (by decide)).1 ⟨s, read⟩⟩

/-- A date in numbers further on goes before the month, day and time at the start of the line. -/
theorem not_timestamp_of_cut_mention :
    ¬ ∀ (clock : Clock) (line cut : String), line = cut ++ withoutTimestamp line → cut ≠ "" →
      timestamp clock line = timestamp clock (bare cut) := by
  intro agree
  have same := agree (.ofSeconds 1718452800 0)
    "Jan  5 03:04:05 host: certificate expires 2030-01-01 00:00:00" "Jan  5 03:04:05 " (by decide +kernel) (by decide)
  exact absurd same (by decide +kernel)

end LogAnalysis.Line
