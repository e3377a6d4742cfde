import LogAnalysis.Text.Basic

/-!
Files in folders.

A file is found by the names on the way to it. A folder is there as long as it holds a file.
-/

namespace LogAnalysis

/-- Files with the names on the way to them. The way of an absolute path begins with a slash. -/
structure FileTree where
  files : List (List String × List UInt8) := []
deriving Inhabited

namespace FileTree

def stepsOf (path : String) : List String × List String :=
  let steps := Text.pieces '/' path
  if path.toList.head? = some '/' then (["/"], steps) else ([], steps)

/-- The way after one more step. Two points lead back by one name, if there is one. -/
def advance (way : List String) (step : String) : List String :=
  if step = "" || step = "." then way
  else if step = ".." then
    match way.getLast? with
    | none | some ".." => way ++ [step]
    | some "/" => way
    | some _ => way.dropLast
  else way ++ [step]

def wayOf (path : String) : List String :=
  let (start, steps) := stepsOf path
  steps.foldl advance start

def ofPaths (files : List (String × List UInt8)) : FileTree :=
  ⟨files.map fun (path, bytes) => (wayOf path, bytes)⟩

def passes (way folder : List String) : Bool := folder.isPrefixOf way && folder.length < way.length

def isFolderAt (t : FileTree) (way : List String) : Bool :=
  way.isEmpty || t.files.any fun (other, _) => passes other way

def namesAt (t : FileTree) (folder : List String) : List String :=
  let names := t.files.filterMap fun (way, _) => if passes way folder then way[folder.length]? else none
  (names.filter fun name => name ≠ "/" && name ≠ "..").eraseDups

def walk (t : FileTree) : (way : List String) → (steps : List String) → Option (List String)
  | way, [] => some way
  | way, step :: steps => if t.isFolderAt way then t.walk (advance way step) steps else none

def leavesFile (t : FileTree) : (way : List String) → (steps : List String) → Bool
  | _, [] => false
  | way, step :: steps =>
    (t.files.lookup way).isSome || t.isFolderAt way && t.leavesFile (advance way step) steps

def way? (t : FileTree) (path : String) : Option (List String) :=
  let (start, steps) := stepsOf path
  if path = "" then none else t.walk start steps

def file? (t : FileTree) (path : String) : Option (List UInt8) := do
  t.files.lookup (← t.way? path)

def isFolder (t : FileTree) (path : String) : Bool := (t.way? path).any t.isFolderAt

def contains (t : FileTree) (path : String) : Bool := t.isFolder path || (t.file? path).isSome

end FileTree

end LogAnalysis
