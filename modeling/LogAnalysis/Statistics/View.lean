import LogAnalysis.Entry
import LogAnalysis.Statistics.Count

/-!
Statistics of a view: how many entries there are at each level and in each minute.
-/

namespace LogAnalysis.Statistics

/-- Counts over a view. Levels stand in the order in which they first occur, minutes in ascending order. -/
structure View where
  total : Nat
  levels : List (String × Nat)
  minutes : List (String × Nat)
deriving Repr, DecidableEq

namespace View

def minuteOf (timestamp : String) : String := String.ofList (timestamp.toList.take 16)

def ofEntries (view : List Entry) : View :=
  let levels := (view.map (·.level)).filter (· ≠ "")
  let stamps := (view.map (·.timestamp)).filter (· ≠ "")
  { total := view.length
    levels := counts levels
    minutes := (counts (stamps.map minuteOf)).mergeSort fun a b => a.1 ≤ b.1 }

def levelCount (v : View) (level : String) : Nat := (v.levels.lookup level).getD 0

def toValueWith (v : View) (levels : List (String × Nat) → Value) : Value :=
  .object [("total_rows", .int v.total), ("level_counts", levels v.levels),
    ("info_count", .int (v.levelCount "INFO")), ("warn_count", .int (v.levelCount "WARNING")),
    ("error_count", .int (v.levelCount "ERROR")),
    ("time_buckets", .list (v.minutes.map fun (minute, n) => .list [.text minute, .int n]))]

def toValue (v : View) : Value :=
  v.toValueWith fun levels => .object (levels.map fun (level, n) => (level, .int n))

end View

end LogAnalysis.Statistics
