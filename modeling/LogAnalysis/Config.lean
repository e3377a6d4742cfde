import LogAnalysis.Extraction
import LogAnalysis.SortOrder
import LogAnalysis.Yaml.Data

/-!
Settings, from four sources.

What the command line says counts before the environment, that before the settings file, and what is said nowhere has a default.
A settings file that is missing or malformed, or that is no mapping, says nothing.
-/

namespace LogAnalysis

open Yaml (Data)

structure Config where
  chunkSize : Nat := 1048576
  pageSize : Nat := 50
  mergeStrategy : MergeStrategy := .lastWins
  maxSamples : Int := 100
  sort : SortOrder := {}
  logLevel : String := "INFO"
  extractors : List Extractor := []
  savedQueries : Members String := []
deriving Inhabited

namespace Config

structure Overrides where
  chunkSize : Option Data := none
  pageSize : Option Data := none
  mergeStrategy : Option Data := none
  sortField : Option Data := none
  sortOrder : Option Data := none
  logLevel : Option Data := none
deriving Inhabited

def variableStart : String := "LOGSIEVE_"

def environmentNames : List String := ["merge_strategy", "chunk_size", "page_size", "log_level"]

def variableOf (name : String) : String := variableStart ++ Text.uppered name

structure Sources where
  overrides : Overrides := {}
  environment : Members String := []
  file : Data := .map []
deriving Inhabited

namespace Sources

def ofBytes (bytes : List UInt8) : Outcome Data := do
  let text ← (Text.Utf8.decode? bytes).mapError fun fault => .unacceptable (.encoding fault)
  match Data.ofText (String.ofList text) with
  | .ok (.map entries) => return .map entries
  | .ok _ | .error .malformed => return .map []
  | .error (.refused fault) => .error fault

def fromEnvironment? (s : Sources) (name : String) : Option Data :=
  let text := Members.get? s.environment (variableOf name)
  (text.filter fun text => !Text.isBlankString text).map .text

def setting (s : Sources) (name : String) : Data := (s.file.get? name).getD .null

def setting? (s : Sources) (name : String) : Option Data :=
  match s.setting name with
  | .null => none
  | d => some d

def pick (s : Sources) (override : Option Data) (name : String) (otherwise : Data) : Data :=
  ((override.or (s.fromEnvironment? name)).or (s.setting? name)).getD otherwise

def choose (s : Sources) (override : Option Data) (name : String) (otherwise : Value) : Value :=
  match override.filter (·.isTruthy) with
  | some d => d.toValue
  | none => ((s.file.get? name).map (·.toValue)).getD otherwise

end Sources

def logLevels : List String := ["DEBUG", "INFO", "WARNING", "ERROR", "CRITICAL"]

def sizes (chunk page : Int) : Outcome (Nat × Nat) :=
  if chunk ≤ 0 || page ≤ 0 then Fault.refuse .sizes else .ok (chunk.toNat, page.toNat)

def logLevelOf (d : Data) : Outcome String :=
  let name := Text.uppered d.display
  if logLevels.contains name then .ok name else Fault.refuse (.logLevel name)

def extractorsOf (d : Data) : Outcome (List Extractor) := do
  if d.isTruthy then (← d.parts).mapM Extractor.ofValue else return []

def queriesOf (d : Data) : Outcome (Members String) :=
  if !d.isTruthy then .ok []
  else match d with
    | .map entries => .ok (Members.ofPairs (entries.map fun (name, query) => (name.display, query.display)))
    | _ => .error .noSuchPart

def load (s : Sources) : Outcome Config := do
  let overrides := s.overrides
  let strategy := s.pick overrides.mergeStrategy "merge_strategy" (.text "last-wins")
  let mergeStrategy ← MergeStrategy.ofName strategy.display strategy.shown
  let chunk ← (s.pick overrides.chunkSize "chunk_size" (.int 1048576)).toInteger
  let page ← (s.pick overrides.pageSize "page_size" (.int 50)).toInteger
  let (chunkSize, pageSize) ← sizes chunk page
  let logLevel ← logLevelOf (s.pick overrides.logLevel "log_level" (.text "INFO"))
  let extractors ← extractorsOf (s.setting "extractors")
  let savedQueries ← queriesOf (s.setting "queries")
  let maxSamples ← ((s.file.get? "max_samples").getD (.int 100)).toInteger
  let sort := {
    field := s.choose overrides.sortField "sort_field" (.text "id")
    order := s.choose overrides.sortOrder "sort_order" (.text "desc") }
  return { chunkSize, pageSize, mergeStrategy, maxSamples, sort, logLevel, extractors, savedQueries }

end Config

end LogAnalysis
