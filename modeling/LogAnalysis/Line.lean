import LogAnalysis.Text.Caseless
import LogAnalysis.Timestamp

/-!
Lines of a log: their level, their timestamp, and whether they continue the entry of the line before.

A line with a timestamp at its start, or one that opens a report of an exception, starts an entry of its own; of the others
those continue that are indented or that announce a trace of calls.
-/

namespace LogAnalysis.Line

open Text Timestamp

/-! ## Level -/

def levelWords : List String :=
  ["DEBUG", "INFO", "WARN", "WARNING", "ERROR", "CRITICAL", "FATAL"]

def foldWarning (level : String) : String := if level = "WARN" then "WARNING" else level

def level (line : String) : String :=
  let shouted := uppered line
  match levelWords.find? (within · shouted) with
  | some word => foldWarning word
  | none => ""

/-! ## Timestamp -/

def timestamp (clock : Calendar.Clock) (line : String) : String := textOf (detect? clock line.toList)

def afterOpening (cs : List Char) : List Char := (after? '[' cs).getD cs

def body (cs : List Char) : List Char := afterOpening (cs.dropWhile isBlank)

def afterStamp (cs : List Char) : List Char :=
  let cs := (fraction cs).2
  ((after? ']' cs).getD cs).dropWhile isBlank

def withoutTimestamp (line : String) : String :=
  let cs := body line.toList
  match stampHead? cs, monthHead? cs with
  | some (_, rest), _ => String.ofList (afterStamp rest)
  | none, some (_, rest) => String.ofList (afterStamp rest)
  | none, none => line

def startsWithTimestamp (cs : List Char) : Bool :=
  (stampHead? (body cs)).isSome || (monthHead? (body cs)).isSome

/-! ## Exceptions -/

/-- The run of characters before the first white space holds `Error:` or `Exception:` behind its first
character. -/
def namesException (cs : List Char) : Bool :=
  let word := cs.takeWhile (!isBlank ·)
  occursIn "Error:".toList (word.drop 1) || occursIn "Exception:".toList (word.drop 1)

def isExceptionStart (line : String) : Bool :=
  let trimmed := trim line.toList
  (dropCaseless? "Exception in thread".toList trimmed).isSome ||
    ((line.toList.head? != some ' ' && line.toList.head? != some '\t') && namesException trimmed)

def isTraceStart (line : String) : Bool :=
  (dropCaseless? "Traceback (most recent call last)".toList (trim line.toList)).isSome

def isIndented (line : String) : Bool := line.toList.head?.any isBlank

def isContinuation (line : String) : Bool :=
  if isBlankString line || startsWithTimestamp line.toList || isExceptionStart line then false
  else isTraceStart line || isIndented line

end LogAnalysis.Line
