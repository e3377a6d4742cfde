import LogAnalysis.Files.Content
import LogAnalysis.Session

/-!
Several files as one document of a session.
-/

namespace LogAnalysis

def DocumentFormat.ofChoice (choice : String) (paths : List String) : DocumentFormat :=
  match choice with
  | "log" => log
  | "csv" => csv
  | "json" => json
  | _ => ofPath (paths.headD "")

namespace Session

/-- Takes the text of a file in chunks, and a line break, so that its last line does not run into the next file. -/
def feedFile (clock : Calendar.Clock) (tree : FileTree) (chunkSize : Nat) (s : Session) (path : String) :
    Outcome Session := do
  let chunks ← readChunks (← tree.read path) chunkSize
  return (chunks ++ ["\n"]).foldl (fun s chunk => (s.feed clock chunk).1) s

def renumbered (entries : List Entry) : List Entry :=
  entries.zipIdx.map fun (e, i) => { e with id := (i : Int) + 1 }

def entriesOfFiles (read : String → Outcome (List Entry)) (tree : FileTree) (paths : List String) :
    Outcome (List Entry) := do
  let entries := (← paths.mapM fun path => do read (readText (← tree.read path))).flatten
  return if paths.length > 1 then renumbered entries else entries

def loadFiles (clock : Calendar.Clock) (s : Session) (tree : FileTree) (format : DocumentFormat)
    (chunkSize : Nat) (paths : List String) : Step Loaded :=
  let loadAll := fun (entries : Outcome (List Entry)) =>
    match entries with
    | .ok entries => s.loadEntries clock entries
    | .error fault => ⟨s, .error fault, []⟩
  match format with
  | .log =>
    match paths.foldlM (feedFile clock tree chunkSize) (s.startParse .log) with
    | .ok s => s.finishParse clock
    | .error fault => ⟨s, .error fault, []⟩
  | .csv => loadAll (entriesOfFiles (Import.ofCsv clock) tree paths)
  | .json => loadAll (entriesOfFiles (Import.ofJson clock) tree paths)

end Session

end LogAnalysis
