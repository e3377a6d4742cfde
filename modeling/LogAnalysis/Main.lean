import LogAnalysis.CommandLine.Help
import LogAnalysis.CommandLine.Run
import Std.Time.Zoned

/-!
The program: it gathers what a run depends on, and prints what comes of it.
-/

namespace LogAnalysis.CommandLine

def readClock : IO Calendar.Clock := do
  let now ← Std.Time.Timestamp.now
  let ahead : Int ←
    try
      let rules ← Std.Time.Database.defaultGetLocalZoneRules
      pure (rules.findLocalTimeTypeForTimestamp now).gmtOffset.second.val
    catch _ => pure 0
  return .ofSeconds now.toSecondsSinceUnixEpoch.val (ahead / 60)

def readEnvironment : IO (Members String) :=
  Config.environmentNames.filterMapM fun name => do
    let name := Config.variableOf name
    return (← IO.getEnv name).map (name, ·)

def filesBelow : (depth : Nat) → (folder : String) → IO (List String)
  | 0, _ => return []
  | depth + 1, folder => do
    let here ← IO.currentDir
    let place := here / folder
    if !(← place.isDir) then return []
    let found ← (← place.readDir).toList.mapM fun entry => do
      let path := String.ofList (FileTree.join folder.toList entry.fileName.toList)
      if ← entry.path.isDir then filesBelow depth path else return [path]
    return found.flatten

def filesFor (path : String) : IO (List String) := do
  let steps := Text.pieces '/' path
  let folders := steps.takeWhile fun step => !NamePattern.isPattern step.toList
  let here ← IO.currentDir
  if folders.length < steps.length then
    let folder := Text.joined "/" folders
    filesBelow (steps.length - folders.length + 1) (if path.startsWith "/" then folder ++ "/" else folder)
  else if (← (here / path).pathExists) && !(← (here / path).isDir) then return [path]
  else return []

def readFileAt (path : String) : IO (String × List UInt8) := do
  return (path, (← IO.FS.readBinFile ((← IO.currentDir) / path)).toList)

def readFiles (a : Arguments) : IO FileTree := do
  let paths := (← a.files.mapM filesFor).flatten
  let settings := (← (a.config.filter (· ≠ "")).toList.mapM filesFor).flatten
  let known := FileTree.ofPaths (paths.map fun path => (path, []))
  let wanted := ((known.select a.files).toOption.getD []).filter fun path => (known.file? path).isSome
  let files ← (wanted ++ settings).mapM readFileAt
  return ⟨(FileTree.ofPaths files).files ++ known.files⟩

def printRun (arguments : List String) : IO UInt32 := do
  match Arguments.ofTexts arguments with
  | .error .help =>
    IO.print helpText
    return 0
  | .error .misused =>
    IO.eprint usage
    return 2
  | .ok a =>
    match run (← readClock) a (← readEnvironment) (← readFiles a) with
    | .ok p =>
      IO.print p.output
      IO.eprint p.errors
      return p.code.toUInt32
    | .error fault =>
      IO.eprintln fault.message
      return 1

end LogAnalysis.CommandLine

def main (arguments : List String) : IO UInt32 := LogAnalysis.CommandLine.printRun arguments
