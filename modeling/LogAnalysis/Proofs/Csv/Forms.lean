import LogAnalysis.Proofs.Csv

/-!
# Tables in standard form

In the standard form of a table every cell may stand between quotation marks, and one with commas, quotation marks or line
breaks has to. Whichever cells do, and whether lines end in a line feed alone, the table is read back if no cell is too long,
and otherwise refused (`Csv.TableForm.records`).
-/

namespace LogAnalysis.Csv

open Partial (isBreak)

inductive CellForm (cell : String) : List Char → Prop
  | quoted : CellForm cell (quotedChars cell.toList)
  | bare (plain : ∀ c ∈ cell.toList, IsBare c) : CellForm cell cell.toList

inductive RecordForm : List String → List Char → Prop
  | last {cell : String} {cs : List Char} (form : CellForm cell cs) : RecordForm [cell] cs
  | cons {cell : String} {cs : List Char} {rest : List String} {ds : List Char} (form : CellForm cell cs)
      (others : RecordForm rest ds) : RecordForm (cell :: rest) (cs ++ ',' :: ds)

/-- The records of a table stand one after the other, each with the end of a line. -/
inductive TableForm : List (List String) → List Char → Prop
  | nil : TableForm [] []
  | cons {cells : List String} {cs ending : List Char} {table : List (List String)} {ds : List Char}
      (form : RecordForm cells cs) (ends : ending = ['\n'] ∨ ending = ['\r', '\n']) (others : TableForm table ds) :
      TableForm (cells :: table) (cs ++ (ending ++ ds))

def Fits (cell : String) : Prop := cell.length ≤ maxCell

section

variable {cell : String} {cells before : List String} {cs ds ending : List Char} {table : List (List String)}

/-! ## Cells -/

theorem CellForm.reads (form : CellForm cell cs) (before : List String) (fits : Fits cell) :
    ∃ q, Reads { place := .cell, cells := before } cs q ∧ Holds q cell before := by
  rw [Fits, ← String.length_toList] at fits
  rw [← String.ofList_toList (s := cell)]
  cases form with
  | quoted => exact reads_quoted before fits
  | bare plain => exact reads_bare before plain fits

theorem CellForm.refuses (form : CellForm cell cs) (before : List String) (long : ¬Fits cell) :
    Refuses { place := .cell, cells := before } cs := by
  rw [Fits, ← String.length_toList, Nat.not_le] at long
  cases form with
  | quoted => exact refuses_quoted before long
  | bare plain => exact refuses_bare before plain long

theorem CellForm.starts (form : CellForm cell cs) (nonempty : cell ≠ "") : ∃ c ds, cs = c :: ds ∧ isBreak c = false := by
  cases form with
  | quoted => exact ⟨'"', _, rfl, rfl⟩
  | bare plain =>
      obtain ⟨c, ds, start⟩ : ∃ c ds, cell.toList = c :: ds :=
        List.exists_cons_of_ne_nil (mt String.toList_eq_nil_iff.mp nonempty)
      obtain ⟨noSpecial, noReturn⟩ := plain c (start ▸ List.mem_cons_self)
      refine ⟨c, ds, start, ?_⟩
      have noFeed : c ≠ '\n' := by
        rintro rfl
        exact absurd noSpecial (by decide)
      simp [isBreak, noFeed, noReturn]

/-! ## Records -/

theorem RecordForm.reads (form : RecordForm cells cs) (before : List String) (fits : ∀ cell ∈ cells, Fits cell) :
    ∃ q last others, Reads { place := .cell, cells := before } cs q ∧ Holds q last others ∧
      last :: others = cells.reverse ++ before := by
  induction form generalizing before with
  | last form =>
      obtain ⟨q, read, holds⟩ := form.reads before (fits _ List.mem_cons_self)
      exact ⟨q, _, before, read, holds, rfl⟩
  | @cons cell cs rest ds form others ih =>
      obtain ⟨first, later⟩ := List.forall_mem_cons.mp fits
      obtain ⟨q, read, holds⟩ := form.reads before first
      obtain ⟨last, final, others, readRest, holdsLast, whole⟩ := ih (cell :: before) later
      refine ⟨last, final, others, ?_, holdsLast, by simpa using whole⟩
      exact read.trans (holds.comma.trans readRest)

theorem RecordForm.refuses (form : RecordForm cells cs) (before : List String) (long : ¬∀ cell ∈ cells, Fits cell) :
    Refuses { place := .cell, cells := before } cs := by
  induction form generalizing before with
  | last form => exact form.refuses before fun fits => long (List.forall_mem_singleton.mpr fits)
  | @cons cell cs rest ds form others ih =>
      by_cases first : Fits cell
      · obtain ⟨q, read, holds⟩ := form.reads before first
        have later := ih (cell :: before) fun fits => long (List.forall_mem_cons.mpr ⟨first, fits⟩)
        exact read.refuses (holds.comma.refuses later)
      · exact (form.refuses before first).append _

theorem RecordForm.starts (form : RecordForm cells cs) (nonempty : ∀ cell ∈ cells, cell ≠ "") :
    ∃ c ds, cs = c :: ds ∧ isBreak c = false := by
  cases form with
  | last form => exact form.starts (nonempty _ List.mem_cons_self)
  | cons form others =>
      obtain ⟨c, ds, start, goesOn⟩ := form.starts (nonempty _ List.mem_cons_self)
      exact ⟨c, _, by rw [start]; rfl, goesOn⟩

theorem recordsFrom_ending {q : Partial} {last : String} {others : List String} (holds : Holds q last others)
    (ends : ending = ['\n'] ∨ ending = ['\r', '\n']) (b : Bool) (ds : List Char) :
    recordsFrom q b (ending ++ ds) =
      ((last :: others).reverse :: (recordsFrom {} true ds).1, (recordsFrom {} true ds).2) := by
  rcases ends with rfl | rfl
  · exact recordsFrom_feed (holds.ends rfl) b ds
  · exact (holds.returns '\n' ds b b).trans (recordsFrom_feed rfl b ds)

theorem RecordForm.recordsFrom_eq (form : RecordForm cells cs) (nonempty : ∀ cell ∈ cells, cell ≠ "")
    (fits : ∀ cell ∈ cells, Fits cell) (ends : ending = ['\n'] ∨ ending = ['\r', '\n']) (ds : List Char) :
    recordsFrom {} true (cs ++ (ending ++ ds)) =
      (cells :: (recordsFrom {} true ds).1, (recordsFrom {} true ds).2) := by
  obtain ⟨c, rest, start, goesOn⟩ := form.starts nonempty
  obtain ⟨q, last, others, read, holds, whole⟩ := form.reads [] fits
  obtain ⟨d, es, more⟩ : ∃ d es, ending ++ ds = d :: es := by
    rcases ends with rfl | rfl
    · exact ⟨_, _, rfl⟩
    · exact ⟨_, _, rfl⟩
  have begins : recordsFrom {} true (cs ++ (ending ++ ds)) = recordsFrom { place := .cell } true (cs ++ (ending ++ ds)) := by
    rw [start]
    exact recordsFrom_cons goesOn _ true
  have ended := recordsFrom_ending holds ends true ds
  rw [begins, more, read d es true true, ← more, ended, whole, List.append_nil, List.reverse_reverse]

theorem RecordForm.recordsFrom_fault (form : RecordForm cells cs) (nonempty : ∀ cell ∈ cells, cell ≠ "")
    (long : ¬∀ cell ∈ cells, Fits cell) (ds : List Char) :
    ∃ fault, recordsFrom {} true (cs ++ ds) = ([], some fault) := by
  obtain ⟨c, rest, start, goesOn⟩ := form.starts nonempty
  obtain ⟨fault, refused⟩ := form.refuses [] long
  refine ⟨fault, ?_⟩
  have read := refused ds true
  rw [start, List.cons_append] at read ⊢
  rw [recordsFrom_cons goesOn, read]

/-! ## Tables -/

theorem TableForm.records {text : String} (form : TableForm table text.toList)
    (nonempty : ∀ cells ∈ table, ∀ cell ∈ cells, cell ≠ "") :
    ((∀ cells ∈ table, ∀ cell ∈ cells, Fits cell) → Csv.records text = (table, none)) ∧
      (¬(∀ cells ∈ table, ∀ cell ∈ cells, Fits cell) → ∃ done fault, Csv.records text = (done, some fault)) := by
  unfold Csv.records
  generalize text.toList = cs at form
  induction form with
  | nil => exact ⟨fun _ => rfl, fun long => absurd nofun long⟩
  | @cons cells cs ending table ds form ends others ih =>
      obtain ⟨first, later⟩ := List.forall_mem_cons.mp nonempty
      obtain ⟨reads, refuses⟩ := ih later
      rw [List.forall_mem_cons]
      constructor
      · rintro ⟨fits, othersFit⟩
        rw [form.recordsFrom_eq first fits ends, reads othersFit]
      · intro long
        by_cases fits : ∀ cell ∈ cells, Fits cell
        · obtain ⟨done, fault, refused⟩ := refuses fun othersFit => long ⟨fits, othersFit⟩
          exact ⟨_, fault, by rw [form.recordsFrom_eq first fits ends, refused]⟩
        · obtain ⟨fault, refused⟩ := form.recordsFrom_fault first fits (ending ++ ds)
          exact ⟨[], fault, refused⟩

theorem TableForm.ne_nil (form : TableForm table cs) : ∀ cells ∈ table, cells ≠ [] := by
  induction form with
  | nil => exact nofun
  | cons form ends others ih =>
      refine List.forall_mem_cons.mpr ⟨?_, ih⟩
      cases form <;> exact List.cons_ne_nil _ _

/-! ## What is written -/

theorem cellForm_writeCell (noReturn : '\r' ∉ cell.toList) : CellForm cell (writeCell cell).toList := by
  unfold writeCell
  split
  · rw [String.toList_ofList]
    exact .quoted
  · next bare =>
      refine .bare fun c member => ⟨?_, fun isReturn => noReturn (isReturn ▸ member)⟩
      exact Bool.eq_false_iff.mpr fun special => bare (List.any_eq_true.mpr ⟨c, member, special⟩)

theorem recordForm_recordText (nonempty : cells ≠ []) (noReturn : ∀ cell ∈ cells, '\r' ∉ cell.toList) :
    RecordForm cells (recordText cells) := by
  induction cells with
  | nil => contradiction
  | cons cell rest ih =>
      obtain ⟨first, others⟩ := List.forall_mem_cons.mp noReturn
      cases rest with
      | nil => exact .last (cellForm_writeCell first)
      | cons next rest =>
          rw [recordText_cons, List.append_assoc]
          exact .cons (cellForm_writeCell first) (ih (List.cons_ne_nil next rest) others)

theorem tableForm_write (nonempty : ∀ cells ∈ table, cells ≠ [])
    (noReturn : ∀ cells ∈ table, ∀ cell ∈ cells, '\r' ∉ cell.toList) : TableForm table (write table).toList := by
  induction table with
  | nil => exact .nil
  | cons cells table ih =>
      obtain ⟨first, others⟩ := List.forall_mem_cons.mp nonempty
      obtain ⟨firstReturn, otherReturns⟩ := List.forall_mem_cons.mp noReturn
      rw [toList_write_cons]
      exact .cons (recordForm_recordText first firstReturn) (.inl rfl) (ih others otherReturns)

end

end LogAnalysis.Csv
