import LogAnalysis.Session
import Mathlib.Data.List.TakeDrop

/-!
# Loading in chunks

However a text is cut into chunks, the same entries come of it.

* `lines_append_newline`: the lines of a text are those before any of its line breaks and those after it, although only
  one of the two sides knows whether a carriage return belongs to the break.
* `feed_finish` (one step): to take a chunk and then the rest as the last chunk is to take both as the last one. It
  holds of every state, so that the open entry, the text held back and the numbering need no invariant of their own.
* `feedAll_finish` and `Session.finishParse_feedAll` (whole runs): the same for any list of chunks, of an assembler and
  of a session.
-/

namespace LogAnalysis

namespace Assembler

/-! ## Lines on both sides of a break -/

def withoutReturn (cs : List Char) : List Char :=
  if cs.getLast? = some '\r' then cs.dropLast else cs

theorem withoutReturn_cons {c : Char} {cs : List Char} (kept : c = '\r' → cs ≠ []) :
    withoutReturn (c :: cs) = c :: withoutReturn cs := by
  cases cs with
  | nil => simp_all [withoutReturn]
  | cons d ds =>
      simp only [withoutReturn, List.getLast?_cons_cons, List.dropLast_cons_cons]
      split <;> rfl

theorem head?_withoutReturn {c : Char} {cs : List Char} (h : (withoutReturn cs).head? = some c) :
    cs.head? = some c := by
  unfold withoutReturn at h
  split at h
  · cases cs with
    | nil => simp at h
    | cons d ds => cases ds <;> simp_all
  · exact h

theorem lines_ne_nil (cs : List Char) : lines cs ≠ [] := by
  fun_cases lines cs <;> simp_all

theorem lines_cons {c : Char} {cs line : List Char} {more : List (List Char)} (noBreak : c ≠ '\n')
    (noReturn : c = '\r' → cs.head? ≠ some '\n') (pieces : lines cs = line :: more) :
    lines (c :: cs) = (c :: line) :: more := by
  rw [lines, pieces]
  · intro rest isReturn newline
    subst newline
    exact noReturn isReturn rfl
  · exact noBreak

theorem lines_append_newline (before after : List Char) :
    lines (before ++ '\n' :: after) = lines (withoutReturn before) ++ lines after := by
  -- The lines of the text before the break are followed. Only its last character meets the break.
  fun_induction lines before with
  | case1 => simp [withoutReturn, lines]
  | case2 rest ih =>
      rw [withoutReturn_cons (by simp), withoutReturn_cons (by simp)]
      simp only [List.cons_append, lines, ih]
  | case3 rest ih =>
      rw [withoutReturn_cons (by simp)]
      simp only [List.cons_append, lines, ih]
  | case4 c rest _ _ pieces => exact absurd pieces (lines_ne_nil rest)
  | case5 c rest noReturn noBreak line more pieces ih =>
      by_cases last : c = '\r' ∧ rest = []
      · obtain ⟨rfl, rfl⟩ := last
        simp [withoutReturn, lines]
      · have inside : c = '\r' → rest ≠ [] := fun isReturn isLast => last ⟨isReturn, isLast⟩
        have head : c = '\r' → rest.head? ≠ some '\n' := by
          intro isReturn newline
          obtain ⟨tail, rfl⟩ := List.head?_eq_some_iff.mp newline
          exact noReturn tail isReturn rfl
        have headBefore : c = '\r' → (withoutReturn rest).head? ≠ some '\n' :=
          fun isReturn newline => head isReturn (head?_withoutReturn newline)
        have headWhole : c = '\r' → (rest ++ '\n' :: after).head? ≠ some '\n' := by
          intro isReturn newline
          cases rest with
          | nil => exact inside isReturn rfl
          | cons d ds => exact head isReturn newline
        obtain ⟨first, others, first_eq⟩ := List.exists_cons_of_ne_nil (lines_ne_nil (withoutReturn rest))
        rw [first_eq] at ih
        rw [withoutReturn_cons inside, List.cons_append, lines_cons noBreak headWhole ih,
          lines_cons noBreak headBefore first_eq]
        rfl

theorem cutLast?_eq_some {cs before after : List Char} (cut : cutLast? cs = some (before, after)) :
    ∃ whole, cs = whole ++ '\n' :: after ∧ before = withoutReturn whole := by
  unfold cutLast? at cut
  rw [List.span_eq_takeWhile_dropWhile] at cut
  have parts := List.takeWhile_append_dropWhile (p := (· != '\n')) (l := cs.reverse)
  have stop := List.head?_dropWhile_not (· != '\n') cs.reverse
  cases found : cs.reverse.dropWhile (· != '\n') with
  | nil => simp [found] at cut
  | cons d ds =>
      simp only [found, Option.some.injEq, Prod.mk.injEq] at cut
      obtain ⟨rfl, rfl⟩ := cut
      have newline : d = '\n' := by simpa [found] using stop
      refine ⟨ds.reverse, ?_, ?_⟩
      · rw [found, newline] at parts
        calc cs = cs.reverse.reverse := (List.reverse_reverse cs).symm
          _ = (cs.reverse.takeWhile (· != '\n') ++ '\n' :: ds).reverse := by rw [parts]
          _ = ds.reverse ++ '\n' :: (cs.reverse.takeWhile (· != '\n')).reverse := by simp
      · simp only [withoutReturn, List.getLast?_reverse, List.dropLast_reverse, List.drop_one]
        split <;> rfl

theorem lines_append_of_cut {cs before after : List Char} (cut : cutLast? cs = some (before, after))
    (rest : List Char) : lines (cs ++ rest) = lines before ++ lines (after ++ rest) := by
  obtain ⟨whole, rfl, rfl⟩ := cutLast?_eq_some cut
  rw [List.append_assoc, List.cons_append, lines_append_newline]

/-! ## Taking lines -/

variable (clock : Calendar.Clock)

theorem takeLines_append (a : Assembler) (first second : List String) :
    a.takeLines clock (first ++ second) =
      (((a.takeLines clock first).1.takeLines clock second).1,
        (a.takeLines clock first).2 ++ ((a.takeLines clock first).1.takeLines clock second).2) := by
  induction first generalizing a with
  | nil => rfl
  | cons line rest ih => simp only [List.cons_append, takeLines, ih, List.append_assoc]

def recounted (a : Assembler) (pending : String) (totalChars : Nat) : Assembler :=
  { a with pending, totalChars }

theorem takeLine_recounted (a : Assembler) (pending : String) (totalChars : Nat) (line : String) :
    (a.recounted pending totalChars).takeLine clock line =
      ((a.takeLine clock line).1.recounted pending totalChars, (a.takeLine clock line).2) := by
  unfold takeLine recounted
  split
  · rfl
  · dsimp only
    split <;> rfl

theorem takeLines_recounted (a : Assembler) (pending : String) (totalChars : Nat) (ls : List String) :
    (a.recounted pending totalChars).takeLines clock ls =
      ((a.takeLines clock ls).1.recounted pending totalChars, (a.takeLines clock ls).2) := by
  induction ls generalizing a with
  | nil => rfl
  | cons line rest ih => simp only [takeLines, takeLine_recounted, ih]

theorem takeText_recounted (a : Assembler) (pending : String) (totalChars : Nat) (cs : List Char) :
    (a.recounted pending totalChars).takeText clock cs =
      ((a.takeText clock cs).1.recounted pending totalChars, (a.takeText clock cs).2) :=
  takeLines_recounted clock a pending totalChars _

theorem takeText_cut (a : Assembler) {cs before after : List Char}
    (cut : cutLast? cs = some (before, after)) (rest : List Char) :
    a.takeText clock (cs ++ rest) =
      (((a.takeText clock before).1.takeText clock (after ++ rest)).1,
        (a.takeText clock before).2 ++ ((a.takeText clock before).1.takeText clock (after ++ rest)).2) := by
  simp only [takeText, lines_append_of_cut cut, List.map_append, takeLines_append]

/-! ## Taking chunks -/

def closed (taken : Assembler × List Entry) (totalChars : Nat) : Assembler × List Entry :=
  ({ taken.1.recounted "" totalChars with opened := none }, taken.2 ++ taken.1.opened.toList)

theorem finish_eq (a : Assembler) (chunk : String) :
    a.finish clock chunk =
      closed (a.takeText clock (a.pending.toList ++ chunk.toList)) (a.totalChars + chunk.length) := by
  have taken := takeText_recounted clock a "" (a.totalChars + chunk.length) (a.pending.toList ++ chunk.toList)
  simp only [recounted] at taken
  simp only [finish, taken, closed, recounted]

theorem feed_of_cut (a : Assembler) {chunk : String} {before after : List Char}
    (cut : cutLast? (a.pending.toList ++ chunk.toList) = some (before, after)) :
    a.feed clock chunk =
      ((a.takeText clock before).1.recounted (String.ofList after) (a.totalChars + chunk.length),
        (a.takeText clock before).2) := by
  have taken := takeText_recounted clock a (String.ofList after) (a.totalChars + chunk.length) before
  simp only [recounted] at taken
  simp only [feed, cut, taken, recounted]

theorem feed_finish (a : Assembler) (chunk rest : String) :
    a.finish clock (chunk ++ rest) =
      (((a.feed clock chunk).1.finish clock rest).1,
        (a.feed clock chunk).2 ++ ((a.feed clock chunk).1.finish clock rest).2) := by
  have count : a.totalChars + (chunk ++ rest).length = a.totalChars + chunk.length + rest.length := by
    rw [String.length_append, Nat.add_assoc]
  cases cut : cutLast? (a.pending.toList ++ chunk.toList) with
  | none =>
      simp only [feed, finish, cut, count, String.toList_append, String.toList_ofList, List.append_assoc,
        List.nil_append]
  | some parts =>
      obtain ⟨before, after⟩ := parts
      have whole := takeText_cut clock a cut rest.toList
      rw [List.append_assoc, ← String.toList_append] at whole
      rw [finish_eq, whole, feed_of_cut clock a cut, finish_eq]
      simp only [recounted, String.toList_ofList]
      have taken := takeText_recounted clock (a.takeText clock before).1 (String.ofList after)
        (a.totalChars + chunk.length) (after ++ rest.toList)
      simp only [recounted] at taken
      simp only [taken, closed, recounted, count, List.append_assoc]

/-- Takes chunks one after the other; the entries are those completed by them. -/
def feedAll (a : Assembler) : List String → Assembler × List Entry
  | [] => (a, [])
  | chunk :: rest =>
    let (a, done) := a.feed clock chunk
    let (a, more) := feedAll a rest
    (a, done ++ more)

theorem feedAll_finish (a : Assembler) (chunks : List String) (last : String) :
    a.finish clock (String.join chunks ++ last) =
      (((a.feedAll clock chunks).1.finish clock last).1,
        (a.feedAll clock chunks).2 ++ ((a.feedAll clock chunks).1.finish clock last).2) := by
  induction chunks generalizing a with
  | nil => simp [feedAll]
  | cons chunk rest ih =>
      rw [String.join_cons, String.append_assoc, feed_finish, ih]
      simp only [feedAll, List.append_assoc]

end Assembler

/-! ## Sessions -/

namespace Session

variable (clock : Calendar.Clock)

def feedAll (s : Session) (chunks : List String) : Session :=
  chunks.foldl (fun s chunk => (s.feed clock chunk).1) s

theorem feedAll_of_log (s : Session) (log : s.format = .log) (chunks : List String) :
    s.feedAll clock chunks =
      { s with
        assembler := (s.assembler.feedAll clock chunks).1
        entries := s.entries ++ (s.assembler.feedAll clock chunks).2 } := by
  induction chunks generalizing s with
  | nil => simp [feedAll, Assembler.feedAll]
  | cons chunk rest ih =>
      rw [feedAll, List.foldl_cons, ← feedAll, ih _ (by simp [feed, log])]
      simp only [feed, log, Assembler.feedAll, List.append_assoc]

theorem feedAll_of_table (s : Session) (table : s.format ≠ .log) (chunks : List String) :
    s.feedAll clock chunks = { s with pending := s.pending ++ chunks } := by
  induction chunks generalizing s with
  | nil => simp [feedAll]
  | cons chunk rest ih =>
      have fed : (s.feed clock chunk).1 = { s with pending := s.pending ++ [chunk] } := by
        cases format : s.format <;> simp_all [feed]
      rw [feedAll, List.foldl_cons, ← feedAll, fed, ih { s with pending := s.pending ++ [chunk] } table,
        List.append_assoc, List.singleton_append]

theorem finishParse_of_log (s : Session) (chunks : List String) :
    ((s.startParse .log).feedAll clock chunks).finishParse clock =
      settle clock { s.startParse .log with
        assembler := (Assembler.start.finish clock (String.join chunks)).1
        entries := (Assembler.start.finish clock (String.join chunks)).2 } := by
  have whole := Assembler.feedAll_finish clock .start chunks ""
  rw [String.append_empty] at whole
  rw [feedAll_of_log clock _ rfl, whole]
  simp only [finishParse, startParse, Assembler.flush, List.nil_append]

def withoutPending (s : Session) : Session := { s with pending := [] }

/-- Of the chunks of a table only their whole text counts; where it cannot be read, they stay with the session. -/
theorem finishParse_of_table (s : Session) (table : s.format ≠ .log) {chunks others : List String}
    (same : String.join chunks = String.join others) :
    let left := finishParse clock { s with pending := chunks }
    let right := finishParse clock { s with pending := others }
    left.outcome = right.outcome ∧ left.session.withoutPending = right.session.withoutPending := by
  cases format : s.format with
  | log => exact absurd format table
  | csv | json =>
      simp only [finishParse, same]
      split
      · exact ⟨rfl, rfl⟩
      · split <;> exact ⟨rfl, rfl⟩

theorem loadText_eq (s : Session) (text : String) (format : DocumentFormat) :
    s.loadText clock text format = ((s.startParse format).feedAll clock [text]).finishParse clock := rfl

theorem finishParse_feedAll (s : Session) (format : DocumentFormat) (chunks : List String) :
    let chunked := ((s.startParse format).feedAll clock chunks).finishParse clock
    let whole := s.loadText clock (String.join chunks) format
    chunked.outcome = whole.outcome ∧ chunked.session.withoutPending = whole.session.withoutPending := by
  have same : String.join chunks = String.join [String.join chunks] := by
    rw [String.join_cons, String.join_nil, String.append_empty]
  rw [loadText_eq]
  by_cases log : format = .log
  · subst log
    rw [finishParse_of_log, finishParse_of_log, ← same]
    exact ⟨rfl, rfl⟩
  · rw [feedAll_of_table clock _ log, feedAll_of_table clock _ log]
    exact finishParse_of_table clock (s.startParse format) log same

end Session

/-! ## The statement -/

/-- Chunks are taken as the whole text is: with what was held back at the end, or with the last chunk as such, an
assembler completes the same entries and ends in the same state; and a session ends with the same data set or the same
fault, whatever its state was before. -/
theorem chunks_taken_as_whole (clock : Calendar.Clock) (chunks : List String) :
    (let fed := Assembler.start.feedAll clock chunks
      let flushed := fed.1.flush clock
      fed.2 ++ flushed.2 = parseText clock (String.join chunks) ∧
        flushed.1 = (Assembler.start.finish clock (String.join chunks)).1) ∧
    (∀ last : String,
      let fed := Assembler.start.feedAll clock chunks
      let finished := fed.1.finish clock last
      fed.2 ++ finished.2 = parseText clock (String.join (chunks ++ [last])) ∧
        finished.1 = (Assembler.start.finish clock (String.join (chunks ++ [last]))).1) ∧
    (∀ (s : Session) (format : DocumentFormat),
      let chunked := ((s.startParse format).feedAll clock chunks).finishParse clock
      let whole := s.loadText clock (String.join chunks) format
      chunked.session.entries = whole.session.entries ∧
        chunked.session.view = whole.session.view ∧
        chunked.session.fieldNames = whole.session.fieldNames ∧
        chunked.session.registry = whole.session.registry ∧
        chunked.outcome = whole.outcome) := by
  refine ⟨?_, ?_, ?_⟩
  · have whole := Assembler.feedAll_finish clock .start chunks ""
    rw [String.append_empty] at whole
    exact ⟨(congrArg Prod.snd whole).symm, (congrArg Prod.fst whole).symm⟩
  · intro last
    have whole := Assembler.feedAll_finish clock .start chunks last
    have text : String.join (chunks ++ [last]) = String.join chunks ++ last := by
      rw [String.join_append, String.join_cons, String.join_nil, String.append_empty]
    rw [text]
    exact ⟨(congrArg Prod.snd whole).symm, (congrArg Prod.fst whole).symm⟩
  · intro s format
    obtain ⟨outcome, session⟩ := Session.finishParse_feedAll clock s format chunks
    have entries := congrArg Session.entries session
    have view := congrArg Session.view session
    have fieldNames := congrArg Session.fieldNames session
    have registry := congrArg Session.registry session
    exact ⟨entries, view, fieldNames, registry, outcome⟩

end LogAnalysis
