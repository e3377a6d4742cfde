import LogAnalysis.Csv.Reader
import Mathlib.Tactic.SplitIfs

/-!
# Where the reader of tables stops

The reader stops at a character that is one too many for its cell, and at any character but a line break behind a carriage
return that has ended a record (`Partial.take_eq_error_iff`). A text has a fault just if the reader comes to such a
character (`recordsFrom_fault_iff`).
-/

namespace LogAnalysis.Csv

namespace Partial

def IsText (p : Partial) (c : Char) : Prop :=
  match p.place with
  | .record | .cell => isBreak c = false ∧ c ≠ '"' ∧ c ≠ ','
  | .plain => isBreak c = false ∧ c ≠ ','
  | .quoted => c ≠ '"'
  | .quoteSeen => c = '"' ∨ c ≠ ',' ∧ isBreak c = false
  | .ended => False

variable {p q : Partial} {c : Char} {fault : Fault}

theorem push_eq_error_iff {place : Place} :
    p.push place c = .error fault ↔ maxCell ≤ p.size ∧ fault = .fieldTooLong := by
  unfold push
  split
  · next full => simp [full, eq_comm]
  · next fits => simp [fits]

theorem openCell_eq_error_iff : p.openCell c = .error fault ↔
    (isBreak c = false ∧ c ≠ '"' ∧ c ≠ ',') ∧ maxCell ≤ p.size ∧ fault = .fieldTooLong := by
  unfold openCell
  split_ifs with ends opens closes
  · simp [ends]
  · simp [opens]
  · simp [closes]
  · simp [ends, opens, closes, push_eq_error_iff]

theorem take_eq_error_iff : p.take c = .error fault ↔
    p.IsText c ∧ maxCell ≤ p.size ∧ fault = .fieldTooLong ∨
      p.place = .ended ∧ isBreak c = false ∧ fault = .bareLineBreak := by
  unfold take IsText
  cases p.place with
  | record =>
      dsimp only
      split_ifs with ends
      · simp [ends]
      · simp [openCell_eq_error_iff]
  | cell => simp [openCell_eq_error_iff]
  | plain =>
      dsimp only
      split_ifs with ends closes
      · simp [ends]
      · simp [closes]
      · simp [ends, closes, push_eq_error_iff]
  | quoted =>
      dsimp only
      split_ifs with closes
      · simp [closes]
      · simp [closes, push_eq_error_iff]
  | quoteSeen =>
      dsimp only
      split_ifs with doubled closes ends
      · simp [doubled, push_eq_error_iff]
      · simp [closes]
      · simp [doubled, ends]
      · simp [doubled, closes, ends, push_eq_error_iff]
  | ended =>
      dsimp only
      split_ifs with goesOn
      · simp [goesOn]
      · simp [goesOn, eq_comm]

def behind (p : Partial) (c : Char) : Partial := if c = '\n' then p.endLine.1 else p

inductive Reaches : Partial → List Char → Partial → Prop
  | refl (p : Partial) : Reaches p [] p
  | step {p q r : Partial} {c : Char} {cs : List Char} (took : p.take c = .ok q) (rest : Reaches (q.behind c) cs r) :
      Reaches p (c :: cs) r

end Partial

open Partial (Reaches)

variable {p q : Partial} {c : Char} {cs : List Char} {fault : Fault}

theorem recordsFrom_cons_fault (took : p.take c = .ok q) (atStart : Bool) (cs : List Char) :
    ∃ starts, (recordsFrom p atStart (c :: cs)).2 = (recordsFrom (q.behind c) starts cs).2 := by
  rw [recordsFrom, took, Partial.behind]
  by_cases feed : c = '\n'
  · refine ⟨true, ?_⟩
    simp only [feed, if_true]
    obtain ⟨after, done⟩ := q.endLine
    cases done <;> rfl
  · exact ⟨false, by simp only [feed, if_false]⟩

theorem recordsFrom_fault_iff {atStart : Bool} : (recordsFrom p atStart cs).2 = some fault ↔
    ∃ before c after q, cs = before ++ c :: after ∧ Reaches p before q ∧ q.take c = .error fault := by
  -- By induction on the characters that the reader takes before it stops, if it stops.
  induction cs generalizing p atStart with
  | nil => simp [recordsFrom]
  | cons c cs ih =>
      cases took : p.take c with
      | error other =>
          rw [recordsFrom, took]
          constructor
          · intro stops
            obtain rfl := Option.some.inj stops
            exact ⟨[], c, cs, p, rfl, .refl p, took⟩
          · rintro ⟨before, d, after, q, whole, reached, stops⟩
            cases reached with
            | refl =>
                obtain ⟨rfl, -⟩ := List.cons.inj whole
                exact congrArg some (Except.error.inj (took.symm.trans stops))
            | step other =>
                obtain ⟨rfl, -⟩ := List.cons.inj whole
                cases took.symm.trans other
      | ok next =>
          obtain ⟨starts, later⟩ := recordsFrom_cons_fault took atStart cs
          rw [later, ih]
          constructor
          · rintro ⟨before, d, after, q, rfl, reached, stops⟩
            exact ⟨c :: before, d, after, q, rfl, .step took reached, stops⟩
          · rintro ⟨before, d, after, q, whole, reached, stops⟩
            cases reached with
            | refl =>
                obtain ⟨rfl, -⟩ := List.cons.inj whole
                cases took.symm.trans stops
            | step other rest =>
                obtain ⟨rfl, rfl⟩ := List.cons.inj whole
                obtain rfl := Except.ok.inj (took.symm.trans other)
                exact ⟨_, d, after, q, rfl, rest, stops⟩

theorem fault_of_records {text : String} (stops : (records text).2 = some fault) :
    fault = .fieldTooLong ∨ fault = .bareLineBreak := by
  obtain ⟨before, c, after, q, -, -, refused⟩ := recordsFrom_fault_iff.mp stops
  rcases Partial.take_eq_error_iff.mp refused with ⟨-, -, long⟩ | ⟨-, -, bare⟩
  · exact .inl long
  · exact .inr bare

end LogAnalysis.Csv
