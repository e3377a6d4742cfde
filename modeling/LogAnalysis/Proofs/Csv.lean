import LogAnalysis.Csv.Reader
import LogAnalysis.Csv.Writer
import LogAnalysis.Proofs.Text.Search

/-!
# Tables read as they were written

Quotation marks protect commas, line feeds and quotation marks, but a carriage return is written as it is, and there it
ends the record when the table is read. So a table is read back just if no cell is too long and no carriage return stands
outside quotation marks, other than at the end of a record (`Csv.records_write`).
-/

namespace LogAnalysis.Csv

open Partial (isBreak)

/-! ## Moves of the reader -/

def Reads (p : Partial) (cs : List Char) (q : Partial) : Prop :=
  ∀ (c : Char) (rest : List Char) (b b' : Bool), recordsFrom p b (cs ++ c :: rest) = recordsFrom q b' (c :: rest)

def Refuses (p : Partial) (cs : List Char) : Prop :=
  ∃ fault, ∀ (rest : List Char) (b : Bool), recordsFrom p b (cs ++ rest) = ([], some fault)

section

variable {p q r : Partial} {c : Char} {cs ds : List Char}

theorem Reads.refl (p : Partial) : Reads p [] p := fun _ _ _ _ => rfl

theorem Reads.trans (first : Reads p cs q) (second : Reads q ds r) : Reads p (cs ++ ds) r := fun c rest b b' => by
  rw [List.append_assoc]
  cases ds with
  | nil =>
      have last := second c rest b b'
      rw [List.nil_append] at last ⊢
      rw [first c rest b b, last]
  | cons d ds =>
      rw [List.cons_append, first d _ b b]
      exact second c rest b b'

theorem reads_of_take (took : p.take c = .ok q) (goesOn : c = '\n' → q.place = .quoted) : Reads p [c] q :=
  fun d rest b b' => by
    rw [List.singleton_append, recordsFrom, took]
    by_cases isFeed : c = '\n'
    · have still : q.endLine = (q, none) := by rw [Partial.endLine, goesOn isFeed]
      simp only [isFeed, if_true, still]
      rfl
    · simp only [isFeed, if_false]
      rfl

theorem refuses_of_take {fault : Fault} (refused : p.take c = .error fault) (cs : List Char) : Refuses p (c :: cs) :=
  ⟨fault, fun rest b => by rw [List.cons_append, recordsFrom, refused]⟩

theorem Reads.refuses (first : Reads p cs q) (second : Refuses q ds) : Refuses p (cs ++ ds) := by
  obtain ⟨fault, refused⟩ := second
  cases ds with
  | nil => exact nomatch congrArg Prod.snd (refused [] true)
  | cons d ds =>
      refine ⟨fault, fun rest b => ?_⟩
      rw [List.append_assoc, List.cons_append, first d _ b b]
      exact refused rest b

theorem Refuses.append (first : Refuses p cs) (ds : List Char) : Refuses p (cs ++ ds) := by
  obtain ⟨fault, refused⟩ := first
  exact ⟨fault, fun rest b => by rw [List.append_assoc]; exact refused _ b⟩

end

/-! ## A cell -/

def isQuoted (cell : String) : Bool := cell.toList.any isSpecial

def cellBack (cell : String) : String :=
  if isQuoted cell then cell else String.ofList (cell.toList.takeWhile (· != '\r'))

def cellTail (cell : String) : List Char :=
  if isQuoted cell then [] else cell.toList.dropWhile (· != '\r')

/-- The cell can be read: it is not too long, and without quotation marks it holds carriage returns only at the end of the
last cell of a record. -/
def IsReadable (last : Bool) (cell : String) : Prop :=
  (cellBack cell).length ≤ maxCell ∧ ∀ c ∈ cellTail cell, last = true ∧ c = '\r'

def IsReadableRecord : List String → Prop
  | [] => True
  | [cell] => IsReadable true cell
  | cell :: rest => IsReadable false cell ∧ IsReadableRecord rest

/-- The reader has taken a whole cell behind some others, which stand in reverse order. -/
structure Holds (p : Partial) (cell : String) (cells : List String) : Prop where
  place : p.place = .cell ∨ p.place = .plain ∨ p.place = .quoteSeen
  cell : String.ofList p.cell.reverse = cell
  cells : p.cells = cells

section

variable {p : Partial} {c : Char} {cs : List Char} {cell : String} {cells : List String}

theorem Holds.comma (holds : Holds p cell cells) : Reads p [','] { place := .cell, cells := cell :: cells } := by
  refine reads_of_take ?_ nofun
  have closed : p.close .cell = { place := .cell, cells := cell :: cells } := by
    rw [Partial.close, holds.cell, holds.cells]
  rw [← closed]
  rcases holds.place with place | place | place <;> rw [Partial.take, place] <;> rfl

theorem Holds.ends (holds : Holds p cell cells) (ending : isBreak c = true) :
    p.take c = .ok { place := .ended, cells := cell :: cells } := by
  have closed : p.close .ended = { place := .ended, cells := cell :: cells } := by
    rw [Partial.close, holds.cell, holds.cells]
  have noMark : c ≠ '"' := by
    rintro rfl
    exact absurd ending (by decide)
  have noComma : c ≠ ',' := by
    rintro rfl
    exact absurd ending (by decide)
  rw [← closed]
  rcases holds.place with place | place | place <;>
    simp only [Partial.take, Partial.openCell, place, ending, noMark, noComma, if_true, if_false]

theorem Holds.returns (holds : Holds p cell cells) :
    Reads p ['\r'] { place := .ended, cells := cell :: cells } := reads_of_take (holds.ends rfl) nofun

theorem push_eq_ok (place : Place) (c : Char) (fits : p.size < maxCell) :
    p.push place c = .ok { p with place, cell := c :: p.cell, size := p.size + 1 } := by
  rw [Partial.push, if_neg (Nat.not_le.mpr fits)]

theorem push_eq_error (place : Place) (c : Char) (full : maxCell ≤ p.size) :
    p.push place c = .error .fieldTooLong := by
  rw [Partial.push, if_pos full]

/-- A way to take text, character by character: the places in which the reader is there, the characters, and how they are
written. -/
structure Takes (inside : Place → Prop) (good : Char → Prop) (written : Char → List Char) : Prop where
  reads : ∀ {p : Partial} {c : Char}, inside p.place → good c → p.size < maxCell →
    ∃ place, inside place ∧ Reads p (written c) { p with place, cell := c :: p.cell, size := p.size + 1 }
  refuses : ∀ {p : Partial} {c : Char}, inside p.place → good c → maxCell ≤ p.size → Refuses p (written c)

theorem takes_quoted : Takes (· = .quoted) (fun _ => True) (fun c => if c = '"' then ['"', '"'] else [c]) := by
  have mark {p : Partial} (inside : p.place = .quoted) : p.take '"' = .ok { p with place := .quoteSeen } := by
    rw [Partial.take, inside]
    rfl
  have other {p : Partial} {c : Char} (inside : p.place = .quoted) (noMark : c ≠ '"') :
      p.take c = p.push .quoted c := by
    rw [Partial.take, inside]
    exact if_neg noMark
  refine ⟨fun {p c} inside _ fits => ⟨.quoted, rfl, ?_⟩, fun {p c} inside _ full => ?_⟩
  · split
    · next isMark =>
        subst isMark
        exact (reads_of_take (mark inside) nofun).trans (reads_of_take (push_eq_ok .quoted '"' fits) nofun)
    · next noMark =>
        exact reads_of_take ((other inside noMark).trans (push_eq_ok .quoted c fits)) fun _ => rfl
  · split
    · next isMark =>
        subst isMark
        have second : Partial.take { p with place := .quoteSeen } '"' = .error .fieldTooLong :=
          push_eq_error .quoted '"' full
        exact (reads_of_take (mark inside) nofun).refuses (refuses_of_take second [])
    · next noMark => exact refuses_of_take ((other inside noMark).trans (push_eq_error .quoted c full)) []

def IsBare (c : Char) : Prop := isSpecial c = false ∧ c ≠ '\r'

theorem takes_bare : Takes (fun place => place = .cell ∨ place = .plain) IsBare (fun c => [c]) := by
  have pushes {p : Partial} {c : Char} (inside : p.place = .cell ∨ p.place = .plain) (bare : IsBare c) :
      p.take c = p.push .plain c := by
    obtain ⟨plain, noReturn⟩ := bare
    simp only [isSpecial, Bool.or_eq_false_iff, decide_eq_false_iff_not] at plain
    obtain ⟨⟨noComma, noMark⟩, noFeed⟩ := plain
    have goesOn : isBreak c = false := by simp [isBreak, noFeed, noReturn]
    rcases inside with place | place <;> simp [Partial.take, Partial.openCell, place, goesOn, noComma, noMark]
  refine ⟨fun {p c} inside bare fits => ⟨.plain, .inr rfl, ?_⟩, fun inside bare full => ?_⟩
  · refine reads_of_take ((pushes inside bare).trans (push_eq_ok .plain c fits)) fun isFeed => ?_
    exact absurd bare.1 (by rw [isFeed]; decide)
  · exact refuses_of_take ((pushes inside bare).trans (push_eq_error .plain _ full)) []

variable {inside : Place → Prop} {good : Char → Prop} {written : Char → List Char}

theorem Takes.reads_all (takes : Takes inside good written) (isInside : inside p.place) (all : ∀ c ∈ cs, good c)
    (fits : p.size + cs.length ≤ maxCell) :
    ∃ q, Reads p (cs.flatMap written) q ∧ inside q.place ∧ q.cell = cs.reverse ++ p.cell ∧ q.cells = p.cells := by
  induction cs generalizing p with
  | nil => exact ⟨p, .refl p, isInside, rfl, rfl⟩
  | cons c cs ih =>
      obtain ⟨first, others⟩ := List.forall_mem_cons.mp all
      rw [List.length_cons] at fits
      obtain ⟨place, isPlace, one⟩ := takes.reads isInside first (by omega)
      obtain ⟨q, rest, last, cell, cells⟩ :=
        ih (p := { p with place, cell := c :: p.cell, size := p.size + 1 }) isPlace others (by dsimp only; omega)
      refine ⟨q, one.trans rest, last, ?_, cells⟩
      rw [cell, List.reverse_cons, List.append_assoc]
      rfl

theorem Takes.refuses_all (takes : Takes inside good written) (isInside : inside p.place) (all : ∀ c ∈ cs, good c)
    (started : p.size ≤ maxCell) (long : maxCell < p.size + cs.length) : Refuses p (cs.flatMap written) := by
  induction cs generalizing p with
  | nil => exact absurd long (Nat.not_lt.mpr started)
  | cons c cs ih =>
      obtain ⟨first, others⟩ := List.forall_mem_cons.mp all
      rw [List.length_cons] at long
      -- The reader stops at the first character that finds the cell full, and no later.
      by_cases full : maxCell ≤ p.size
      · exact (takes.refuses isInside first full).append _
      · obtain ⟨place, isPlace, one⟩ := takes.reads isInside first (by omega)
        have rest := ih (p := { p with place, cell := c :: p.cell, size := p.size + 1 }) isPlace others
          (by dsimp only; omega) (by dsimp only; omega)
        exact one.refuses rest

end

/-! ## Whole cells -/

def quotedChars (cs : List Char) : List Char :=
  '"' :: (cs.flatMap (fun c => if c = '"' then ['"', '"'] else [c]) ++ ['"'])

def cellHead (cell : String) : List Char :=
  if isQuoted cell then quotedChars cell.toList else cell.toList.takeWhile (· != '\r')

theorem toList_writeCell (cell : String) : (writeCell cell).toList = cellHead cell ++ cellTail cell := by
  have written : writeCell cell = if isQuoted cell then String.ofList (quotedChars cell.toList) else cell := rfl
  rw [written, cellHead, cellTail]
  split
  · rw [String.toList_ofList, List.append_nil]
  · rw [List.takeWhile_append_dropWhile]

theorem cellTail_cases (cell : String) :
    cellTail cell = [] ∨ ∃ rest, cellTail cell = '\r' :: rest ∧ '\n' ∉ rest := by
  unfold cellTail
  split
  · exact .inl rfl
  · next bare =>
      cases tail : cell.toList.dropWhile (· != '\r') with
      | nil => exact .inl rfl
      | cons c rest =>
          have isReturn : c = '\r' := by
            have stops := List.head?_dropWhile_not (· != '\r') cell.toList
            rw [tail] at stops
            exact bne_eq_false_iff_eq.mp stops
          refine .inr ⟨rest, by rw [isReturn], fun feed => bare (List.any_eq_true.mpr ⟨'\n', ?_, rfl⟩)⟩
          exact (List.dropWhile_suffix _).mem (tail ▸ List.mem_cons_of_mem c feed)

section

variable {p : Partial} {cs : List Char} {cell : String} {cells : List String}

theorem isBare_of_mem_head (bare : ¬isQuoted cell = true) : ∀ c ∈ cell.toList.takeWhile (· != '\r'), IsBare c := by
  intro c member
  refine ⟨Bool.eq_false_iff.mpr fun special => bare (List.any_eq_true.mpr ⟨c, ?_, special⟩), ?_⟩
  · exact (List.takeWhile_prefix _).mem member
  · exact bne_iff_ne.mp (List.all_eq_true.mp List.all_takeWhile c member)

theorem reads_quoted (cells : List String) (fits : cs.length ≤ maxCell) :
    ∃ q, Reads { place := .cell, cells } (quotedChars cs) q ∧ Holds q (String.ofList cs) cells := by
  have opened : Reads { place := .cell, cells } ['"'] { place := .quoted, cells } := reads_of_take rfl nofun
  have short : 0 + cs.length ≤ maxCell := by rwa [Nat.zero_add]
  obtain ⟨q, body, inside, taken, others⟩ :=
    takes_quoted.reads_all (p := { place := .quoted, cells }) rfl (fun _ _ => trivial) short
  have closed : q.take '"' = .ok { q with place := .quoteSeen } := by
    rw [Partial.take, inside]
    rfl
  refine ⟨_, opened.trans (body.trans (reads_of_take closed nofun)), .inr (.inr rfl), ?_, others⟩
  rw [taken, List.append_nil, List.reverse_reverse]

theorem reads_bare (cells : List String) (bare : ∀ c ∈ cs, IsBare c) (fits : cs.length ≤ maxCell) :
    ∃ q, Reads { place := .cell, cells } cs q ∧ Holds q (String.ofList cs) cells := by
  obtain ⟨q, body, inside, taken, others⟩ :=
    takes_bare.reads_all (p := { place := .cell, cells }) (.inl rfl) bare (by simpa using fits)
  rw [List.flatMap_singleton'] at body
  refine ⟨q, body, inside.imp_right .inl, ?_, others⟩
  rw [taken, List.append_nil, List.reverse_reverse]

theorem refuses_quoted (cells : List String) (long : maxCell < cs.length) :
    Refuses { place := .cell, cells } (quotedChars cs) := by
  have opened : Reads { place := .cell, cells } ['"'] { place := .quoted, cells } := reads_of_take rfl nofun
  have tooLong : maxCell < 0 + cs.length := by rwa [Nat.zero_add]
  have body := takes_quoted.refuses_all (p := { place := .quoted, cells }) rfl (fun _ _ => trivial)
    (Nat.zero_le _) tooLong
  exact opened.refuses (body.append _)

theorem refuses_bare (cells : List String) (bare : ∀ c ∈ cs, IsBare c) (long : maxCell < cs.length) :
    Refuses { place := .cell, cells } cs := by
  have body := takes_bare.refuses_all (p := { place := .cell, cells }) (.inl rfl) bare (Nat.zero_le _)
    (by simpa using long)
  rwa [List.flatMap_singleton'] at body

theorem reads_head (cells : List String) (fits : (cellBack cell).length ≤ maxCell) :
    ∃ q, Reads { place := .cell, cells } (cellHead cell) q ∧ Holds q (cellBack cell) cells := by
  unfold cellBack at fits ⊢
  unfold cellHead
  split
  · next quoted =>
      rw [if_pos quoted, ← String.length_toList] at fits
      have read := reads_quoted cells fits
      rwa [String.ofList_toList] at read
  · next bare =>
      rw [if_neg bare, String.length_ofList] at fits
      exact reads_bare cells (isBare_of_mem_head bare) fits

theorem refuses_head (long : maxCell < (cellBack cell).length) : Refuses { place := .cell, cells } (cellHead cell) := by
  unfold cellBack at long
  unfold cellHead
  split
  · next quoted =>
      rw [if_pos quoted, ← String.length_toList] at long
      exact refuses_quoted cells long
  · next bare =>
      rw [if_neg bare, String.length_ofList] at long
      exact refuses_bare cells (isBare_of_mem_head bare) long

/-! ### Behind the end of a record -/

theorem take_return (cells : List String) :
    Partial.take { place := .ended, cells } '\r' = .ok { place := .ended, cells } := rfl

theorem reads_returns (returns : ∀ c ∈ cs, c = '\r') :
    Reads { place := .ended, cells } cs { place := .ended, cells } := by
  induction cs with
  | nil => exact .refl _
  | cons c cs ih =>
      obtain ⟨rfl, others⟩ := List.forall_mem_cons.mp returns
      exact (reads_of_take (take_return cells) nofun).trans (ih others)

theorem refuses_text (noFeed : '\n' ∉ cs) {c : Char} (member : c ∈ cs) (text : c ≠ '\r') :
    Refuses { place := .ended, cells } cs := by
  induction cs with
  | nil => contradiction
  | cons d cs ih =>
      obtain ⟨first, others⟩ := not_or.mp (mt List.mem_cons.mpr noFeed)
      by_cases isReturn : d = '\r'
      · subst isReturn
        have later : c ∈ cs := (List.mem_cons.mp member).resolve_left text
        exact (reads_of_take (take_return cells) nofun).refuses (ih others later)
      · have goesOn : isBreak d = false := by simp [isBreak, Ne.symm first, isReturn]
        have refused : Partial.take { place := .ended, cells } d = .error .bareLineBreak := by
          rw [Partial.take, goesOn]
          rfl
        exact refuses_of_take refused cs

end

/-! ### Cells of a record -/

section

variable {p : Partial} {cell : String} {cells : List String}

theorem reads_cell (readable : IsReadable false cell) :
    Reads { place := .cell, cells } ((writeCell cell).toList ++ [','])
      { place := .cell, cells := cellBack cell :: cells } := by
  obtain ⟨fits, tail⟩ := readable
  have noTail : cellTail cell = [] := List.eq_nil_iff_forall_not_mem.mpr fun c member => nomatch (tail c member).1
  obtain ⟨q, head, holds⟩ := reads_head cells fits
  rw [toList_writeCell, noTail, List.append_nil]
  exact head.trans holds.comma

theorem refuses_cell (unreadable : ¬IsReadable false cell) :
    Refuses { place := .cell, cells } ((writeCell cell).toList ++ [',']) := by
  rw [toList_writeCell, List.append_assoc]
  by_cases fits : (cellBack cell).length ≤ maxCell
  · obtain ⟨q, head, holds⟩ := reads_head cells fits
    rcases cellTail_cases cell with noTail | ⟨rest, tail, noFeed⟩
    · exact absurd ⟨fits, by rw [noTail]; exact nofun⟩ unreadable
    · -- The record ends at the carriage return, but the comma is still to come.
      have comma : Refuses { place := .ended, cells := cellBack cell :: cells } (rest ++ [',']) :=
        refuses_text (by simpa using noFeed) (List.mem_append_right rest List.mem_cons_self) (by decide)
      rw [tail]
      exact head.refuses (holds.returns.refuses comma)
  · exact (refuses_head (Nat.lt_of_not_le fits)).append _

theorem recordsFrom_feed (took : p.take '\n' = .ok { place := .ended, cells }) (b : Bool) (rest : List Char) :
    recordsFrom p b ('\n' :: rest) =
      (cells.reverse :: (recordsFrom {} true rest).1, (recordsFrom {} true rest).2) := by
  rw [recordsFrom, took]
  rfl

theorem reads_last (readable : IsReadable true cell) (b : Bool) (rest : List Char) :
    recordsFrom { place := .cell, cells } b ((writeCell cell).toList ++ '\n' :: rest) =
      ((cellBack cell :: cells).reverse :: (recordsFrom {} true rest).1, (recordsFrom {} true rest).2) := by
  obtain ⟨fits, returns⟩ := readable
  obtain ⟨q, head, holds⟩ := reads_head cells fits
  rw [toList_writeCell]
  rcases cellTail_cases cell with noTail | ⟨more, tail, -⟩
  · rw [noTail, List.append_nil, head '\n' rest b b]
    exact recordsFrom_feed (holds.ends rfl) b rest
  · rw [tail] at returns ⊢
    obtain ⟨-, others⟩ := List.forall_mem_cons.mp returns
    have ended : Reads q ('\r' :: more) { place := .ended, cells := cellBack cell :: cells } :=
      holds.returns.trans (reads_returns fun c member => (others c member).2)
    rw [head.trans ended '\n' rest b b]
    exact recordsFrom_feed rfl b rest

theorem refuses_last (unreadable : ¬IsReadable true cell) :
    Refuses { place := .cell, cells } (writeCell cell).toList := by
  rw [toList_writeCell]
  by_cases fits : (cellBack cell).length ≤ maxCell
  · obtain ⟨q, head, holds⟩ := reads_head cells fits
    rcases cellTail_cases cell with noTail | ⟨rest, tail, noFeed⟩
    · exact absurd ⟨fits, by rw [noTail]; exact nofun⟩ unreadable
    · obtain ⟨c, member, text⟩ : ∃ c ∈ rest, c ≠ '\r' := by
        by_contra returns
        push Not at returns
        refine unreadable ⟨fits, fun c member => ⟨rfl, ?_⟩⟩
        rw [tail] at member
        exact (List.mem_cons.mp member).elim id (returns c)
      rw [tail]
      exact head.refuses (holds.returns.refuses (refuses_text noFeed member text))
  · exact (refuses_head (Nat.lt_of_not_le fits)).append _

end

/-! ## Records -/

def recordText (cells : List String) : List Char := Text.joinWith [','] (cells.map (writeCell · |>.toList))

theorem toList_writeRecord (cells : List String) : (writeRecord cells).toList = recordText cells ++ ['\n'] := by
  rw [writeRecord, String.toList_append, Text.toList_joined, List.map_map]
  rfl

theorem recordText_cons (cell next : String) (rest : List String) :
    recordText (cell :: next :: rest) = (writeCell cell).toList ++ [','] ++ recordText (next :: rest) := rfl

theorem recordsFrom_cells (cell : String) (rest before : List String) (b : Bool) (more : List Char) :
    (IsReadableRecord (cell :: rest) →
      recordsFrom { place := .cell, cells := before } b (recordText (cell :: rest) ++ '\n' :: more) =
        ((before.reverse ++ (cell :: rest).map cellBack) :: (recordsFrom {} true more).1,
          (recordsFrom {} true more).2)) ∧
      (¬IsReadableRecord (cell :: rest) →
        Refuses { place := .cell, cells := before } (recordText (cell :: rest))) := by
  induction rest generalizing cell before b with
  | nil =>
      refine ⟨fun readable => ?_, refuses_last⟩
      rw [recordText, List.map_singleton, Text.joinWith, reads_last readable, List.reverse_cons, List.map_singleton]
  | cons next rest ih =>
      obtain ⟨reads, refuses⟩ := ih next (cellBack cell :: before) b
      rw [recordText_cons]
      constructor
      · rintro ⟨first, others⟩
        obtain ⟨c, cs, start⟩ : ∃ c cs, recordText (next :: rest) ++ '\n' :: more = c :: cs :=
          List.exists_cons_of_ne_nil (by simp)
        have rests := reads others
        rw [start] at rests
        rw [List.append_assoc, start, reads_cell first c cs b b, rests, List.reverse_cons, List.append_assoc]
        rfl
      · intro unreadable
        by_cases first : IsReadable false cell
        · exact (reads_cell first).refuses (refuses fun others => unreadable ⟨first, others⟩)
        · exact (refuses_cell first).append _

def Begins (cells : List String) : Prop := ∃ c cs, recordText cells = c :: cs ∧ isBreak c = false

theorem recordsFrom_cons {c : Char} (goesOn : isBreak c = false) (cs : List Char) (b : Bool) :
    recordsFrom {} b (c :: cs) = recordsFrom { place := .cell } b (c :: cs) := by
  have same : Partial.take {} c = Partial.take { place := .cell } c := by
    rw [Partial.take, goesOn]
    rfl
  rw [recordsFrom, recordsFrom, same]

theorem recordsFrom_begins {cells : List String} (begins : Begins cells) (more : List Char) (b : Bool) :
    recordsFrom {} b (recordText cells ++ more) = recordsFrom { place := .cell } b (recordText cells ++ more) := by
  obtain ⟨c, cs, first, goesOn⟩ := begins
  rw [first, List.cons_append, recordsFrom_cons goesOn]

theorem toList_write_cons (cells : List String) (table : List (List String)) :
    (write (cells :: table)).toList = recordText cells ++ '\n' :: (write table).toList := by
  rw [write, List.map_cons, String.join_cons, String.toList_append, toList_writeRecord, List.append_assoc]
  rfl

/-- A table is read back as it was written, up to carriage returns at the ends of its records; where one of its cells
cannot be read, the reader finds a fault. -/
theorem records_write {table : List (List String)} (begins : ∀ cells ∈ table, Begins cells) :
    ((∀ cells ∈ table, IsReadableRecord cells) → records (write table) = (table.map (·.map cellBack), none)) ∧
      (¬(∀ cells ∈ table, IsReadableRecord cells) → ∃ done fault, records (write table) = (done, some fault)) := by
  unfold records
  induction table with
  | nil => exact ⟨fun _ => rfl, fun unreadable => absurd nofun unreadable⟩
  | cons cells table ih =>
      obtain ⟨first, others⟩ := List.forall_mem_cons.mp begins
      obtain ⟨reads, refuses⟩ := ih others
      obtain ⟨cell, rest, rfl⟩ : ∃ cell rest, cells = cell :: rest := by
        obtain ⟨c, cs, start, -⟩ := first
        exact List.exists_cons_of_ne_nil fun isNil => nomatch isNil ▸ start
      obtain ⟨readsFirst, refusesFirst⟩ := recordsFrom_cells cell rest [] true (write table).toList
      rw [toList_write_cons, recordsFrom_begins first, List.forall_mem_cons]
      constructor
      · rintro ⟨readable, others⟩
        rw [readsFirst readable, reads others]
        rfl
      · intro unreadable
        by_cases readable : IsReadableRecord (cell :: rest)
        · obtain ⟨done, fault, refused⟩ := refuses fun others => unreadable ⟨readable, others⟩
          exact ⟨_, fault, by rw [readsFirst readable, refused]⟩
        · obtain ⟨fault, refused⟩ := refusesFirst readable
          exact ⟨[], fault, refused _ _⟩

end LogAnalysis.Csv
