import LogAnalysis.Fault

/-!
Long operations, which report how far they are.

A `Run` has an outcome like any operation, and a list of reports beside it; the reports stay when it fails.
-/

namespace LogAnalysis

structure Progress where
  percent : Int
  message : String
deriving Repr, DecidableEq, Inhabited

abbrev Run (α : Type) := ExceptT Fault (StateM (List Progress)) α

namespace Run

def report (percent : Int) (message : String) : Run Unit :=
  modify fun reports => reports ++ [⟨percent, message⟩]

def finish {α : Type} (run : Run α) : Outcome α × List Progress := StateT.run (ExceptT.run run) []

def outcome {α : Type} (run : Run α) : Outcome α := run.finish.1

end Run

end LogAnalysis
