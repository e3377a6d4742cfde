import LogAnalysis.Session

/-!
A worker that serves requests on a session, one after the other.

A request gets a ticket when it is submitted, and every ticket is answered once: at once if the type of the request is unknown,
by a client who cancels it before it is served, or when the worker serves it. The worker stops at the first order to do
so.
-/

namespace LogAnalysis

namespace Worker

inductive RequestType
  | parseStart
  | parseChunk
  | parseEnd
  | parseData
  | applyFilters
  | runExtractors
  | getPage
  | getStats
  | getFullView
  | parseAdvancedQuery
  | computeSummaryStats
deriving Repr, DecidableEq, Inhabited

namespace RequestType

def all : List RequestType :=
  [parseStart, parseChunk, parseEnd, parseData, applyFilters, runExtractors, getPage, getStats, getFullView,
    parseAdvancedQuery, computeSummaryStats]

def name : RequestType → String
  | parseStart => "PARSE_START"
  | parseChunk => "PARSE_CHUNK"
  | parseEnd => "PARSE_END"
  | parseData => "PARSE_DATA"
  | applyFilters => "APPLY_FILTERS"
  | runExtractors => "RUN_EXTRACTORS"
  | getPage => "GET_PAGE"
  | getStats => "GET_STATS"
  | getFullView => "GET_FULL_VIEW"
  | parseAdvancedQuery => "PARSE_ADVANCED_QUERY"
  | computeSummaryStats => "COMPUTE_SUMMARY_STATS"

def ofName? (s : String) : Option RequestType := all.find? (·.name = s)

end RequestType

structure Request where
  type : RequestType
  payload : Members Value
deriving Repr, Inhabited

inductive Result
  | nothing
  | count (n : Nat)
  | loaded (l : Session.Loaded)
  | found (f : Session.Found)
  | extracted (e : Session.Extracted)
  | page (p : Session.Page)
  | statistics (v : Statistics.View)
  | rows (entries : List Entry)
  | compiled (q : Except String (Option Query.Tree))
  | summary (fields : Members Statistics.Field)

structure Event where
  ticket : Nat
  percent : Int
  message : String
  operation : Value
deriving Repr, Inhabited

inductive Answer
  | result (r : Result)
  | fault (f : Fault)
  | cancelled

/-! ## Requests on a session -/

structure Service where
  session : Session
  outcome : Outcome Result
  operation : Value := .null
  reports : List Progress := []

def Request.get (r : Request) (name : String) (otherwise : Value) : Value :=
  (Members.get? r.payload name).getD otherwise

def formatOf : Value → DocumentFormat
  | .text "csv" => .csv
  | .text "json" => .json
  | _ => .log

def sortOf : Value → Outcome (Option SortOrder)
  | .null => .ok none
  | v => do
    let members ← v.toMembers
    let member := fun name otherwise => (Members.get? members name).getD (.text otherwise)
    return some ⟨member "field" "id", member "order" "desc"⟩

def pageSizeOf : Value → Outcome Int
  | .int n => .ok n
  | .bool b => .ok (if b then 1 else 0)
  | .float x => if x ≤ 0 then .ok 0 else .error .wrongKind
  | _ => .error .wrongKind

def pageNumberOf : Value → Outcome Int
  | .int n => .ok n
  | .bool _ => .ok 1
  | .float x => if x > 1 then .error .wrongKind else .ok 1
  | _ => .error .wrongKind

def pageOf (s : Session) (number perPage : Value) : Outcome Session.Page := do
  let perPage ← pageSizeOf perPage
  if perPage ≤ 0 then Fault.refuse .pageSize
  s.page (← pageNumberOf number) perPage

def Service.ofStep {α : Type} (operation : Value) (encode : α → Result) (step : Session.Step α) :
    Service :=
  ⟨step.session, step.outcome.map encode, operation, step.reports⟩

def serveChunk (clock : Calendar.Clock) (s : Session) (r : Request) : Service :=
  match Value.require "chunk" (.object r.payload) with
  | .error fault => { session := s, outcome := .error fault }
  | .ok chunk =>
    let (s, fed) := s.feedValue clock chunk
    match fed, r.get "percent" .null with
    | .error fault, _ => { session := s, outcome := .error fault }
    | .ok count, .null => { session := s, outcome := .ok (.count count) }
    | .ok count, percent =>
      match percent.toInteger with
      | .ok percent =>
        ⟨s, .ok (.count count), .text "parsing", [⟨percent, s!"Parsed {count} entries..."⟩]⟩
      | .error fault => { session := s, outcome := .error fault }

def serveData (clock : Calendar.Clock) (s : Session) (r : Request) : Service :=
  let operation := Value.text "parsing"
  let started : Progress := ⟨0, "Parsing..."⟩
  match Value.require "text" (.object r.payload) with
  | .error fault => ⟨s, .error fault, operation, [started]⟩
  | .ok document =>
    let step := s.loadValue clock document (formatOf (r.get "format" (.text "log")))
    match step.outcome with
    | .ok loaded =>
      ⟨step.session, .ok (.loaded loaded), operation,
        [started, ⟨100, s!"Parsed {loaded.rowCount} entries"⟩]⟩
    | .error fault => ⟨step.session, .error fault, operation, [started]⟩

def serveFilters (clock : Calendar.Clock) (s : Session) (r : Request) : Service :=
  let request : Outcome (Option Filter × Option Search × Option SortOrder) := do
    let search ← Search.ofValue (r.get "query" .null)
    let sort ← sortOf (r.get "sort" .null)
    return (← Filter.ofRequest (r.get "structured" .null), search, sort)
  let operation := r.get "operation" (.text "filtering")
  match request with
  | .ok (filter, search, sort) =>
    .ofStep operation .found (s.applyFilters clock filter search sort)
  | .error fault => ⟨s, .error fault, operation, []⟩

def isBlankText : Value → Bool
  | .text s => s != "" && Text.isBlankString s
  | _ => false

def compileItems (items : List Value) : Outcome Result :=
  match items.find? (!isBlankText ·) with
  | none => .ok (.compiled (.ok none))
  | some (.text "\"") => .error .noSuchPart
  | some (.text _) => .error .wrongKind
  | some _ => .error .noSuchPart

def compileQuery : Value → Outcome Result
  | .text text =>
    match Query.parse text with
    | .ok tree => .ok (.compiled (.ok tree))
    | .error (.query fault) => .ok (.compiled (.error fault.message))
    | .error fault => .error fault
  | .list items => compileItems items
  | .object (_ :: _) => .error (.missingKey "0")
  | v => if v.isTruthy then .error .wrongKind else .ok (.compiled (.ok none))

def serveRequest (clock : Calendar.Clock) (s : Session) (r : Request) : Service :=
  let readOnly := fun outcome => { session := s, outcome : Service }
  match r.type with
  | .parseStart =>
    { session := s.startParse (formatOf (r.get "format" (.text "log"))), outcome := .ok .nothing }
  | .parseChunk => serveChunk clock s r
  | .parseEnd => .ofStep .null .loaded (s.finishParse clock)
  | .parseData => serveData clock s r
  | .applyFilters => serveFilters clock s r
  | .runExtractors =>
    let onlyView := match r.get "scope" (.text "all") with
      | .text "filtered" => true
      | _ => false
    .ofStep (.text "extracting") .extracted
      (s.runExtractors clock (r.get "extractors" (.list [])) onlyView
        (r.get "merge_strategy" (.text "last-wins")))
  | .getPage => readOnly ((pageOf s (r.get "page" (.int 1)) (r.get "per_page" (.int 50))).map .page)
  | .getStats => readOnly (.ok (.statistics s.viewStatistics))
  | .getFullView => readOnly (.ok (.rows s.viewEntries))
  | .parseAdvancedQuery => readOnly (compileQuery (r.get "text" (.text "")))
  | .computeSummaryStats =>
    let (outcome, reports) := (s.summary clock).finish
    ⟨s, outcome.map .summary, .text "summary", reports⟩

/-! ## The queue -/

inductive Task
  | request (ticket : Nat) (r : Request)
  | stop

end Worker

/-- A session, the tasks that wait, the answers in the order in which they were given, the reports, and the number of
tickets that were handed out. -/
structure Worker where
  session : Session
  queue : List Worker.Task := []
  answers : List (Nat × Worker.Answer) := []
  events : List Worker.Event := []
  tickets : Nat := 0
  ended : Bool := false

namespace Worker

def answer? (w : Worker) (ticket : Nat) : Option Answer := w.answers.lookup ticket

def reply (w : Worker) (ticket : Nat) (a : Answer) : Worker :=
  { w with answers := w.answers ++ [(ticket, a)] }

def submit (w : Worker) (type : Value) (payload : Members Value) : Worker :=
  let issued := { w with tickets := w.tickets + 1 }
  let known := match type with
    | .text name => RequestType.ofName? name
    | _ => none
  match known with
  | some type => { issued with queue := w.queue ++ [.request w.tickets ⟨type, payload⟩] }
  | none => issued.reply w.tickets (.fault (.unacceptable (.requestType type.display)))

def cancel (w : Worker) (ticket : Nat) : Worker :=
  if (w.answer? ticket).isSome then w else w.reply ticket .cancelled

def stop (w : Worker) : Worker := { w with queue := w.queue ++ [.stop] }

def serve (clock : Calendar.Clock) (w : Worker) (ticket : Nat) (r : Request) : Worker :=
  -- The request was cancelled.
  if (w.answer? ticket).isSome then w
  else
    let service := serveRequest clock w.session r
    let events := service.reports.map fun p => ⟨ticket, p.percent, p.message, service.operation⟩
    let w := { w with session := service.session, events := w.events ++ events }
    w.reply ticket (match service.outcome with
      | .ok r => .result r
      | .error fault => .fault fault)

def step (clock : Calendar.Clock) (w : Worker) : Worker :=
  if w.ended then w
  else
    match w.queue with
    | [] => w
    | .stop :: rest => { w with queue := rest, ended := true }
    | .request ticket r :: rest => serve clock { w with queue := rest } ticket r

def run (clock : Calendar.Clock) (w : Worker) : Worker := w.queue.foldl (fun w _ => w.step clock) w

def latestEvent? (w : Worker) : Option Event := w.events.getLast?

end Worker

end LogAnalysis
