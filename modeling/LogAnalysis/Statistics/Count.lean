/-!
Counting equal things.

`counts` tells how often each thing occurs, in the order in which they first occur.
-/

namespace LogAnalysis.Statistics

variable {α : Type} [BEq α]

def addCount (x : α) : List (α × Nat) → List (α × Nat)
  | [] => [(x, 1)]
  | (y, n) :: rest => if y == x then (y, n + 1) :: rest else (y, n) :: addCount x rest

def counts (xs : List α) : List (α × Nat) := xs.foldl (fun done x => addCount x done) []

/-- The things that occur most often; of two that occur equally often the one that occurs first comes first. -/
def mostCommon (limit : Nat) (xs : List α) : List (α × Nat) :=
  ((counts xs).mergeSort fun a b => b.2 ≤ a.2).take limit

def distinct (xs : List α) : Nat := (counts xs).length

end LogAnalysis.Statistics
