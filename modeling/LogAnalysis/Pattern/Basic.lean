import LogAnalysis.Pattern.Matcher
import LogAnalysis.Pattern.Parser

/-!
Patterns as users write them: with `(?<name>...)` for a named group and `\k<name>` for a reference to it. `translate`
brings both into the form that the reader of patterns takes; `search` and `captures` run a pattern.
-/

namespace LogAnalysis.Pattern

/-! ## Named groups -/

def startsName (cs : List Char) : Bool :=
  !(cs.takeWhile Text.isWord).isEmpty && (cs.dropWhile Text.isWord).head? == some '>'

def translateGroups (afterBackslash : Bool) : List Char → List Char
  | [] => []
  | '(' :: '?' :: '<' :: rest =>
    if !afterBackslash && startsName rest then
      '(' :: '?' :: 'P' :: '<' :: translateGroups false rest
    else '(' :: '?' :: '<' :: translateGroups false rest
  | c :: rest => c :: translateGroups (c == '\\') rest

/-- Gives references by name their longer form. `inName` says that a reference is being copied. -/
def translateReferences (inName : Bool) : List Char → List Char
  | [] => []
  | '\\' :: 'k' :: '<' :: rest =>
    if startsName rest then '(' :: '?' :: 'P' :: '=' :: translateReferences true rest
    else '\\' :: 'k' :: '<' :: translateReferences false rest
  | c :: rest =>
    if inName && c == '>' then ')' :: translateReferences false rest
    else c :: translateReferences inName rest

def translate (source : String) : String :=
  String.ofList (translateReferences false (translateGroups false source.toList))

/-! ## Running a pattern -/

def compile (source : String) (flags : Flags) : Except Refusal Parsed := parse flags (translate source)

def search (p : Parsed) (text : String) : Bool :=
  let cs := text.toList.toArray
  (p.node.searchFrom? cs (cs.size + 1) false 0).isSome

def between (text : Array Char) (start stop : Nat) : String :=
  String.ofList (text.toList.take stop |>.drop start)

def namedSpans (p : Parsed) (text : Array Char) (s : State) : List (String × String) :=
  p.names.filterMap fun (name, group) =>
    (s.span? group).map fun (start, stop) => (name, between text start stop)

def addCapture (captured : Members (List String)) (name value : String) : Members (List String) :=
  captured.put name ((captured.get? name).getD [] ++ [value])

def captures (p : Parsed) (text : String) : Members (List String) :=
  let cs := text.toList.toArray
  let found := (p.node.matchesFrom cs (2 * cs.size + 2) false 0).flatMap (namedSpans p cs)
  found.foldl (fun captured (name, value) => addCapture captured name value) []

end LogAnalysis.Pattern
