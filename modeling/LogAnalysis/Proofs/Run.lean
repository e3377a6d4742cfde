import LogAnalysis.Progress
import LogAnalysis.Proofs.Outcome

/-!
# Outcomes of long operations

The reports of an operation do not change what comes of it: `Yields` leaves them out, with one law for each way to put
an operation together.
-/

namespace LogAnalysis.Run

variable {α β : Type}

def finishAfter (reports : List Progress) (run : Run α) : Outcome α × List Progress :=
  StateT.run (ExceptT.run run) reports

theorem finishAfter_bind (reports : List Progress) (run : Run α) (next : α → Run β) :
    (run >>= next).finishAfter reports = match run.finishAfter reports with
      | (.ok a, after) => (next a).finishAfter after
      | (.error fault, after) => (.error fault, after) := by
  show (match run.finishAfter reports with
    | (o, after) => StateT.run (ExceptT.bindCont next o) after) = _
  obtain ⟨o, after⟩ := run.finishAfter reports
  cases o <;> rfl

def Yields (run : Run α) (o : Outcome α) : Prop := ∀ reports, (run.finishAfter reports).1 = o

theorem Yields.outcome_eq {run : Run α} {o : Outcome α} (yields : Yields run o) : run.outcome = o := yields []

theorem Yields.outcome {run : Run α} {o : Outcome α} (yields : Yields run o) : Yields run run.outcome :=
  yields.outcome_eq ▸ yields

theorem yields_pure (a : α) : Yields (pure a) (.ok a) := fun _ => rfl

theorem yields_lift (o : Outcome α) : Yields (liftM o) o := fun _ => by cases o <;> rfl

theorem yields_report (percent : Int) (message : String) : Yields (report percent message) (.ok ()) := fun _ => rfl

theorem Yields.bind {run : Run α} {next : α → Run β} {o : Outcome α} {after : α → Outcome β}
    (first : Yields run o) (rest : ∀ a, Yields (next a) (after a)) : Yields (run >>= next) (o >>= after) := by
  intro reports
  rw [finishAfter_bind]
  obtain ⟨after', whole⟩ : ∃ after', run.finishAfter reports = (o, after') := ⟨_, Prod.ext (first reports) rfl⟩
  rw [whole]
  cases o with
  | error fault => rfl
  | ok a => exact rest a after'

theorem Yields.after_report {run : Run α} {o : Outcome α} (yields : Yields run o) (percent : Int) (message : String) :
    Yields (report percent message >>= fun _ => run) o := (yields_report percent message).bind fun _ => yields

theorem yields_foldlM {f : β → α → Run β} {g : β → α → Outcome β} (step : ∀ b x, Yields (f b x) (g b x)) (xs : List α)
    (first : β) : Yields (xs.foldlM f first) (xs.foldlM g first) := by
  induction xs generalizing first with
  | nil => exact yields_pure first
  | cons x xs ih =>
      rw [List.foldlM_cons, List.foldlM_cons]
      exact (step first x).bind ih

theorem Yields.ite {c : Prop} [Decidable c] {run other : Run α} {o : Outcome α} (yields : c → Yields run o)
    (yieldsOther : ¬ c → Yields other o) : Yields (if c then run else other) o := by
  split
  · next holds => exact yields holds
  · next fails => exact yieldsOther fails

end LogAnalysis.Run
