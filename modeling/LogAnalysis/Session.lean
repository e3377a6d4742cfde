import LogAnalysis.Assembler
import LogAnalysis.Decimal.Quotient
import LogAnalysis.Extraction
import LogAnalysis.Import
import LogAnalysis.Search
import LogAnalysis.SortOrder
import LogAnalysis.Statistics.Field
import LogAnalysis.Statistics.View

/-!
A session: one document, the view of it that was asked for last, and what is known about its fields.

A document is loaded as a whole or in chunks. The view is a list of positions in the data set, so that what extraction does
to an entry shows in the view as well. Each operation answers with the session that follows, also where it
fails.
-/

namespace LogAnalysis

/-- A document, its view, and its fields. It is spoiled when a chunk that is no text waits among the pending ones. -/
structure Session where
  registry : Registry
  assembler : Assembler := .start
  entries : List Entry := []
  view : List Nat := []
  fieldNames : List String := []
  appliedFilter : Option Filter := none
  appliedSearch : Option Search := none
  sort : SortOrder := {}
  format : DocumentFormat := .log
  pending : List String := []
  spoiled : Bool := false
deriving Repr, Inhabited

namespace Session

structure Step (α : Type) where
  session : Session
  outcome : Outcome α
  reports : List Progress := []

structure Loaded where
  rowCount : Nat
  fieldNames : List String
  registry : Registry
deriving Repr

structure Found where
  matched : Nat
  statistics : Statistics.View
deriving Repr

structure Extracted where
  result : Extraction.Result
  fieldNames : List String
  registry : Registry
deriving Repr

structure Page where
  rows : List Entry
  pageCount : Nat
  number : Int
  rowCount : Nat
deriving Repr

def new (limit : Int) : Session := { registry := { limit } }

def rowsAt (s : Session) (positions : List Nat) : List (Entry × Nat) :=
  let table := s.entries.toArray
  positions.filterMap fun i => table[i]?.map (·, i)

def viewEntries (s : Session) : List Entry := (s.rowsAt s.view).map (·.1)

/-! ## Loading -/

/-- Forgets the document, and expects another one. The sort order stays. -/
def startParse (s : Session) (format : DocumentFormat) : Session :=
  { registry := s.registry.cleared, sort := s.sort, format }

/-- Takes the next chunk of the document; the answer is the number of entries so far. Tables and JSON data are
read when they are complete. -/
def feed (clock : Calendar.Clock) (s : Session) (chunk : String) : Session × Nat :=
  let s :=
    match s.format with
    | .csv | .json => { s with pending := s.pending ++ [chunk] }
    | .log =>
      let (assembler, done) := s.assembler.feed clock chunk
      { s with assembler, entries := s.entries ++ done }
  (s, s.entries.length)

def feedValue (clock : Calendar.Clock) (s : Session) (chunk : Value) : Session × Outcome Nat :=
  match chunk, s.format with
  | .text chunk, _ =>
    let (s, count) := s.feed clock chunk
    (s, .ok count)
  -- A log cannot go on with what is no text, a table fails when it is complete.
  | _, .log => (s, .error .wrongKind)
  | chunk, _ => ({ s with spoiled := true }, chunk.parts.map fun _ => s.entries.length)

def sorted (s : Session) : Outcome (List Nat) :=
  (s.sort.rows (·.1) s.entries.zipIdx).map fun rows => rows.map (·.2)

def trackNames (s : Session) (names : List String) : Session :=
  { s with fieldNames := names.foldl Entry.addName s.fieldNames }

def settle (clock : Calendar.Clock) (s : Session) : Step Loaded :=
  let s := s.trackNames (Entry.fieldNames s.entries)
  match s.registry.rebuild clock s.entries with
  | .error fault => ⟨{ s with registry := s.registry.cleared }, .error fault, []⟩
  | .ok registry =>
    let s := { s with registry }
    match s.sorted with
    | .error fault => ⟨s, .error fault, []⟩
    | .ok view => ⟨{ s with view }, .ok ⟨s.entries.length, s.fieldNames, registry⟩, []⟩

def finishParse (clock : Calendar.Clock) (s : Session) : Step Loaded :=
  let settleWith := fun (s : Session) (entries : List Entry) =>
    settle clock { s with entries, pending := [] }
  let whole := String.join s.pending
  let read := fun (read : Calendar.Clock → String → Outcome (List Entry)) =>
    if s.spoiled then ⟨s, .error .wrongKind, []⟩
    else match read clock whole with
      | .error fault => ⟨s, .error fault, []⟩
      | .ok entries => settleWith s entries
  match s.format with
  | .csv => read Import.ofCsv
  | .json => read Import.ofJson
  | .log =>
    let (assembler, done) := s.assembler.flush clock
    settleWith { s with assembler } (s.entries ++ done)

def loadText (clock : Calendar.Clock) (s : Session) (text : String) (format : DocumentFormat) :
    Step Loaded :=
  finishParse clock ((s.startParse format).feed clock text).1

def loadValue (clock : Calendar.Clock) (s : Session) (document : Value) (format : DocumentFormat) :
    Step Loaded :=
  let (s, fed) := (s.startParse format).feedValue clock document
  match fed with
  | .ok _ => finishParse clock s
  | .error fault => ⟨s, .error fault, []⟩

def loadEntries (clock : Calendar.Clock) (s : Session) (entries : List Entry) : Step Loaded :=
  settle clock { s.startParse .log with entries }

/-! ## Filtering -/

def chosenRows (clock : Calendar.Clock) (registry : Registry) (sort : SortOrder) (filter : Option Filter)
    (search : Option Search) (rows : List (Entry × Nat)) : Run (List (Entry × Nat)) := do
  let mut rows := rows
  if let some f := filter then
    if !(← (f.isEmpty : Outcome Bool)) then
      rows ← f.keep clock (some registry) (·.1) rows
  if let some search := search then
    rows ← search.keep clock (some registry) (·.1) rows
  Run.report 70 "Sorting results..."
  let chosen ← (sort.rows (·.1) rows : Outcome (List (Entry × Nat)))
  Run.report 100 "Filtering complete"
  return chosen

/-- Builds the view from the whole data set. -/
def applyFilters (clock : Calendar.Clock) (s : Session) (filter : Option Filter) (search : Option Search)
    (sort : Option SortOrder) : Step Found :=
  -- Noted whatever comes of them.
  let s := { s with appliedFilter := filter, appliedSearch := search, sort := sort.getD s.sort }
  let (outcome, reports) :=
    (chosenRows clock s.registry s.sort filter search s.entries.zipIdx).finish
  match outcome with
  | .error fault => ⟨s, .error fault, reports⟩
  | .ok rows =>
    let found : Found := ⟨rows.length, .ofEntries (rows.map (·.1))⟩
    ⟨{ s with view := rows.map (·.2) }, .ok found, reports⟩

def applyQueryText (clock : Calendar.Clock) (s : Session) (text : String) (sort : Option SortOrder) :
    Step Found :=
  match Search.ofText text with
  | .error fault => ⟨s, .error fault, []⟩
  | .ok search => s.applyFilters clock s.appliedFilter search sort

/-! ## Views -/

def page (s : Session) (number perPage : Int) : Outcome Page :=
  if perPage ≤ 0 then Fault.refuse .pageSize
  else
    -- Numbers below one stand for the first page.
    let number := max 1 number
    let size := perPage.toNat
    let rows := s.viewEntries
    .ok {
      rows := (rows.drop ((number.toNat - 1) * size)).take size
      -- The quotient of the sizes as a double, rounded up.
      pageCount := max 1 (Dyadic.ofFraction rows.length size).ceiling
      number
      rowCount := rows.length }

def viewStatistics (s : Session) : Statistics.View := .ofEntries s.viewEntries

def summary (clock : Calendar.Clock) (s : Session) : Run (Members Statistics.Field) :=
  Statistics.summarize clock s.registry s.fieldNames s.viewEntries

/-! ## Extraction -/

def scopePositions (s : Session) (onlyView : Bool) : List Nat :=
  if onlyView then s.view else List.range s.entries.length

def replace (entries : List Entry) (changes : List (Nat × Entry)) : List Entry :=
  (changes.foldl (fun table (i, e) => table.setIfInBounds i e) entries.toArray).toList

def extract (clock : Calendar.Clock) (s : Session) (onlyView : Bool)
    (extraction : List Entry → Extraction.Pass) : Step Extracted :=
  let rows := s.rowsAt (s.scopePositions onlyView)
  let pass := extraction (rows.map (·.1))
  let s := { s with entries := replace s.entries ((rows.map (·.2)).zip pass.entries) }
  match pass.outcome with
  | .error fault => ⟨s, .error fault, pass.reports⟩
  | .ok result =>
    let s := s.trackNames result.fieldNames
    match s.registry.rebuild clock s.entries with
    | .error fault => ⟨{ s with registry := s.registry.cleared }, .error fault, pass.reports⟩
    | .ok registry =>
      ⟨{ s with registry }, .ok ⟨result, s.fieldNames, registry⟩, pass.reports⟩

def runExtractors (clock : Calendar.Clock) (s : Session) (extractors : Value) (onlyView : Bool)
    (strategy : Value) : Step Extracted :=
  s.extract clock onlyView (Extraction.runValues clock strategy extractors)

end Session

end LogAnalysis
