import LogAnalysis.Fault
import LogAnalysis.Files.NamePattern
import LogAnalysis.Files.Tree

/-!
The files that paths and patterns of paths stand for.

In a pattern each name between slashes is a pattern of its own. It stands for names that begin with a point only if it
begins with one too.
-/

namespace LogAnalysis.FileTree

def splitLast (path : List Char) : List Char × List Char :=
  let name := (path.reverse.takeWhile (· ≠ '/')).reverse
  let start := path.take (path.length - name.length)
  let folder := (start.reverse.dropWhile (· = '/')).reverse
  (if folder.isEmpty then start else folder, name)

def join (folder name : List Char) : List Char :=
  if folder.isEmpty || folder.getLast? = some '/' then folder ++ name else folder ++ '/' :: name

def admitsName (pattern : List Char) (name : String) : Bool :=
  (pattern.head? = some '.' || name.toList.head? ≠ some '.') &&
    (NamePattern.ofChars pattern).admits name.toList

def namesLike (t : FileTree) (folder : String) (pattern : List Char) (foldersOnly : Bool) : List String :=
  match if folder = "" then some [] else t.way? folder with
  | none => []
  | some way =>
    (t.namesAt way).filter fun name =>
      admitsName pattern name && (!foldersOnly || t.isFolderAt (way ++ [name]))

def pathsLike (t : FileTree) : (fuel : Nat) → (foldersOnly : Bool) → (pattern : List Char) → List (List Char)
  | 0, _, _ => []
  | fuel + 1, foldersOnly, pattern =>
    let (folder, name) := splitLast pattern
    let folders :=
      if NamePattern.isPattern folder then t.pathsLike fuel true folder else [folder]
    folders.flatMap fun folder =>
      let path := String.ofList folder
      let names :=
        if NamePattern.isPattern name then (t.namesLike path name foldersOnly).map String.toList
        else if name.isEmpty then if t.isFolder path then [[]] else []
        else if t.contains (String.ofList (join folder name)) then [name] else []
      names.map (join folder)

def candidates (t : FileTree) (path : String) : Outcome (List String) :=
  if NamePattern.isPattern path.toList then
    let found := t.pathsLike (path.length + 1) false path.toList
    .ok ((found.map String.ofList).mergeSort (· ≤ ·))
  else if (t.file? path).isSome then .ok [path]
  else .error (.noFile path)

def select (t : FileTree) (paths : List String) : Outcome (List String) := do
  let found := (← paths.mapM t.candidates).flatten.eraseDups
  if found.isEmpty then .error .noFiles else return found

end LogAnalysis.FileTree
