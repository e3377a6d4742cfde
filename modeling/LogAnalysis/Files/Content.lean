import LogAnalysis.Fault
import LogAnalysis.Files.Tree

/-!
The text of files, as a whole or in chunks of some number of characters.
-/

namespace LogAnalysis

def chunksOf (size : Nat) : (fuel : Nat) → List Char → List (List Char)
  | 0, _ | _, [] => []
  | fuel + 1, cs => cs.take size :: chunksOf size fuel (cs.drop size)

def readChunks (bytes : List UInt8) (size : Int) : Outcome (List String) :=
  if size ≤ 0 then Fault.refuse .chunkSize
  else
    let cs := Text.Utf8.decode bytes
    .ok ((chunksOf size.toNat cs.length cs).map String.ofList)

def readText (bytes : List UInt8) : String := String.ofList (Text.Utf8.decode bytes)

/-- Why no file can be read at a path: a folder is there, a file stands in the way, or nothing is there. -/
def FileTree.unreadable (t : FileTree) (path : String) : Fault :=
  let (start, steps) := stepsOf path
  if path.toList.contains '\x00' then .unacceptable .nullInPath
  else if t.isFolder path then .isFolder path
  else if t.leavesFile start steps then .notFolder path
  else .noFile path

def FileTree.read (t : FileTree) (path : String) : Outcome (List UInt8) :=
  match t.file? path with
  | some bytes => .ok bytes
  | none => .error (t.unreadable path)

end LogAnalysis
