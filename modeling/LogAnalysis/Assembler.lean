import LogAnalysis.Entry

/-!
Assembling entries from a text that arrives in chunks.

The text after the last line break is held back until more arrives, so that lines are always judged whole. The entry of
the last line stays open, as lines that continue it may follow.
-/

namespace LogAnalysis

/-- What is known of a text that is still arriving: the text held back, the open entry, the next number for an
entry, and how many characters have arrived. -/
structure Assembler where
  pending : String
  opened : Option Entry
  nextId : Nat
  totalChars : Nat
deriving Inhabited, Repr

namespace Assembler

def start : Assembler := ⟨"", none, 1, 0⟩

def lines (cs : List Char) : List (List Char) :=
  match cs with
  | [] => [[]]
  -- A carriage return before a line break belongs to the break.
  | '\r' :: '\n' :: rest => [] :: lines rest
  | '\n' :: rest => [] :: lines rest
  | c :: rest =>
    match lines rest with
    | [] => [[c]]
    | line :: more => (c :: line) :: more

def startEntry (clock : Calendar.Clock) (id : Nat) (line : String) : Entry :=
  let rest := Line.withoutTimestamp line
  Entry.make id (Line.timestamp clock line) (Line.level line) (if rest = "" then line else rest) line []

def extend (e : Entry) (line : String) : Entry :=
  Entry.reindexed { e with raw := e.raw ++ "\n" ++ line, message := e.message ++ "\n" ++ line }

/-- Takes a line: it continues the open entry, or completes it and starts another. -/
def takeLine (clock : Calendar.Clock) (a : Assembler) (line : String) : Assembler × List Entry :=
  if Text.isBlankString line then (a, [])
  else
    match a.opened, Line.isContinuation line with
    | some e, true => ({ a with opened := some (extend e line) }, [])
    | opened, _ =>
      ({ a with opened := some (startEntry clock a.nextId line), nextId := a.nextId + 1 },
        opened.toList)

def takeLines (clock : Calendar.Clock) (a : Assembler) : List String → Assembler × List Entry
  | [] => (a, [])
  | line :: rest =>
    let (a, done) := takeLine clock a line
    let (a, more) := takeLines clock a rest
    (a, done ++ more)

/-- The text before the last line break, without a carriage return at its end, and the text after it; nothing if there
is no break. -/
def cutLast? (cs : List Char) : Option (List Char × List Char) :=
  match cs.reverse.span (· != '\n') with
  | (_, []) => none
  | (after, _ :: before) =>
    let before := if before.head? = some '\r' then before.drop 1 else before
    some (before.reverse, after.reverse)

def takeText (clock : Calendar.Clock) (a : Assembler) (cs : List Char) : Assembler × List Entry :=
  takeLines clock a ((lines cs).map String.ofList)

def feed (clock : Calendar.Clock) (a : Assembler) (chunk : String) : Assembler × List Entry :=
  let a := { a with totalChars := a.totalChars + chunk.length }
  let text := a.pending.toList ++ chunk.toList
  match cutLast? text with
  | none => ({ a with pending := String.ofList text }, [])
  | some (before, after) => takeText clock { a with pending := String.ofList after } before

def finish (clock : Calendar.Clock) (a : Assembler) (chunk : String) : Assembler × List Entry :=
  let text := a.pending.toList ++ chunk.toList
  let (a, done) :=
    takeText clock { a with pending := "", totalChars := a.totalChars + chunk.length } text
  ({ a with opened := none }, done ++ a.opened.toList)

def flush (clock : Calendar.Clock) (a : Assembler) : Assembler × List Entry := finish clock a ""

end Assembler

def parseText (clock : Calendar.Clock) (text : String) : List Entry :=
  (Assembler.start.finish clock text).2

end LogAnalysis
