import LogAnalysis.CommandLine.Arguments
import LogAnalysis.CommandLine.Documents
import LogAnalysis.Config
import LogAnalysis.Export
import LogAnalysis.Files.Selection
import LogAnalysis.Statistics.Report

/-!
What the command line does: it loads files, extracts fields, filters, and prints.

Files that are missing and settings or documents that are refused end with code 1, malformed patterns and queries with code 2;
what else goes wrong is a fault of the run.
-/

namespace LogAnalysis.CommandLine

structure Printed where
  code : Nat := 0
  output : String := ""
  errors : String := ""
deriving Repr, DecidableEq, Inhabited

inductive Failure
  | message (code : Nat) (text : String)
  | fault (fault : Fault)
deriving Repr

abbrev Running (α : Type) := Except Failure α

def failWith {α : Type} (code : Nat) (report : String) : Running α :=
  .error (.message code ("Error: " ++ report ++ "\n"))

def reportRefused {α : Type} : Outcome α → Running α
  | .ok a => .ok a
  | .error (.unacceptable cause) => failWith 1 cause.message
  | .error fault => .error (.fault fault)

def orFault {α : Type} (r : Outcome α) : Running α := r.mapError .fault

/-! ## What is needed first -/

def pathsOf (a : Arguments) (tree : FileTree) : Running (List String) :=
  match tree.select a.files with
  | .ok paths => .ok paths
  | .error fault => failWith 1 fault.message

def settingsOf (a : Arguments) (tree : FileTree) : Outcome Yaml.Data :=
  match a.config with
  | none | some "" => .ok (.map [])
  | some path =>
    match tree.read path with
    | .ok bytes => Config.Sources.ofBytes bytes
    | .error (.noFile _) => .ok (.map [])
    | .error fault => .error fault

def overridesOf (a : Arguments) : Config.Overrides where
  pageSize := a.perPage.map .int
  mergeStrategy := a.mergeStrategy.map .text
  sortField := a.sort.map .text
  sortOrder := a.order.map .text

def configOf (a : Arguments) (environment : Members String) (tree : FileTree) : Outcome Config := do
  Config.load { overrides := overridesOf a, environment, file := ← settingsOf a tree }

def checkPattern (pattern : String) : Running Unit :=
  match Pattern.compile pattern {} with
  | .ok _ => .ok ()
  | .error refusal =>
    match Fault.ofRefusal pattern refusal with
    | .pattern source fault => failWith 2 (Fault.pattern source fault).message
    | fault => .error (.fault fault)

def queryOf (a : Arguments) (config : Config) : Running String :=
  match a.saved with
  | none | some "" => .ok (a.query.getD "")
  | some name =>
    match Members.get? config.savedQueries name with
    | some query => .ok query
    | none => failWith 2 ("no saved query named " ++ Text.quoted name)

def extractorsOf (a : Arguments) : List Extractor :=
  a.extract.zipIdx.map fun (pattern, i) =>
    { pattern := .text pattern
      name := .text s!"--extract {i + 1}"
      id := some s!"cli-{i + 1}"
      order := some ((i : Int) + 1) }

/-! ## The session -/

def extract (clock : Calendar.Clock) (config : Config) (s : Session) (extractors : List Extractor) :
    Running Session := do
  if extractors.isEmpty then return s
  let step := s.extract clock false (Extraction.runAll clock config.mergeStrategy extractors)
  let _ ← orFault step.outcome
  return step.session

def filter (clock : Calendar.Clock) (config : Config) (s : Session) (query : String) : Running Session :=
  let step :=
    if query = "" then s.applyFilters clock none none (some config.sort)
    else s.applyQueryText clock query (some config.sort)
  match step.outcome with
  | .ok _ => .ok step.session
  | .error (.query fault) => .error (.message 2 (fault.message ++ "\n"))
  | .error fault => .error (.fault fault)

def sessionOf (clock : Calendar.Clock) (a : Arguments) (config : Config) (tree : FileTree)
    (paths : List String) (query : String) : Running Session := do
  let format := DocumentFormat.ofChoice a.format paths
  let loaded := (Session.new config.maxSamples).loadFiles clock tree format config.chunkSize paths
  let _ ← reportRefused loaded.outcome
  let s ← extract clock config loaded.session config.extractors
  let s ← extract clock config s (extractorsOf a)
  filter clock config s query

/-! ## Printing -/

def rowsOf (a : Arguments) (config : Config) (s : Session) : Outcome (List Entry) :=
  match a.lines.getD 0, a.page.getD 0 with
  | 0, 0 => .ok s.viewEntries
  | 0, page => (s.page page config.pageSize).map (·.rows)
  | count, _ => .ok (Registry.upTo count s.viewEntries)

def printRows (a : Arguments) (s : Session) (rows : List Entry) : String :=
  match a.output with
  | "csv" => Export.csv rows s.fieldNames
  | "json" => Export.json rows ++ "\n"
  | output =>
    let format := Export.LineFormat.ofName (if output = "ndjson" then "json" else "text") a.color
    String.join (rows.map fun e => format.write e ++ "\n")

def print (clock : Calendar.Clock) (a : Arguments) (config : Config) (s : Session) : Outcome String := do
  let asJson := a.output = "json"
  if a.stats then
    let view := s.viewStatistics
    return (if asJson then view.json else view.report) ++ "\n"
  else if a.summary then
    let fields ← (s.summary clock).outcome
    return (if asJson then Statistics.summaryJson fields else Statistics.summaryReport fields) ++ "\n"
  else return printRows a s (← rowsOf a config s)

def perform (clock : Calendar.Clock) (a : Arguments) (environment : Members String) (tree : FileTree) :
    Running String := do
  let paths ← pathsOf a tree
  let config ← reportRefused (configOf a environment tree)
  a.extract.forM checkPattern
  let query ← queryOf a config
  let s ← sessionOf clock a config tree paths query
  orFault (print clock a config s)

def run (clock : Calendar.Clock) (a : Arguments) (environment : Members String) (tree : FileTree) :
    Outcome Printed :=
  match perform clock a environment tree with
  | .ok output => .ok { output }
  | .error (.message code errors) => .ok { code, errors }
  | .error (.fault fault) => .error fault

end LogAnalysis.CommandLine
