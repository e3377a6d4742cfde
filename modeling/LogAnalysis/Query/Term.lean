import LogAnalysis.Fault
import LogAnalysis.Filter.Condition
import LogAnalysis.Text.Caseless
import LogAnalysis.Text.Word

/-!
Terms of a query: a word, or a field with something to ask about it.

`readTerm` reads the term at the start of a text; its answer holds the number of characters that belong to the term. A
value without an operator says by its shape what is asked (`shapeCondition`).
-/

namespace LogAnalysis.Query

open Text

def refuse {α : Type} (problem : Problem) (fragment : List Char) (position : Nat) : Outcome α :=
  .error (.query ⟨problem, String.ofList fragment, some position⟩)

def compare (field : List Char) (operator : Operator) (value : List Char) : Condition :=
  ⟨.text (String.ofList field), .text operator.name, .text (String.ofList value)⟩

def holding (phrase : List Char) : Condition := compare "raw".toList .contains phrase

def endsWord (c : Char) : Bool := isBlank c || c = '(' || c = ')'

def wordOf (cs : List Char) : List Char := cs.takeWhile (!endsWord ·)

def endsTerm : List Char → Bool
  | [] => true
  | c :: _ => isBlank c || c = ')'

/-! ## Keywords -/

def keyword? (cs : List Char) : Option Keyword :=
  [Keyword.and, .or, .not].find? fun k =>
    match dropCaseless? k.text.toList cs with
    | some [] => true
    | some (c :: _) => endsWord c
    | none => false

/-! ## Values -/

def isSpecial (c : Char) : Bool :=
  "()[]\x7b\x7d?*+-|^$\\.&~# \t\n\r\x0b\x0c".toList.contains c

def escaped (cs : List Char) : List Char :=
  cs.flatMap fun c => if isSpecial c then ['\\', c] else [c]

def wildcardPattern (value : List Char) : List Char :=
  '^' :: (joinWith ".*".toList ((splitOn '*' value).map escaped) ++ ['$'])

def inner (cs : List Char) : List Char := (cs.drop 1).dropLast

def isBetween (opening closing : Char) (cs : List Char) : Bool :=
  2 ≤ cs.length && cs.head? = some opening && cs.getLast? = some closing

structure Written where
  text : List Char
  quoted : Bool := false
  pattern : Bool := false
deriving Repr, DecidableEq

/-- What a value without an operator asks. Slashes around it make it a pattern, a caret and a dollar sign tie it to the start
and the end of the field, and stars stand for any text. -/
def shapeCondition (field : List Char) (value : Written) : Condition :=
  let cs := value.text
  if value.pattern then compare field .matchesPattern cs
  else if isBetween '/' '/' cs then compare field .matchesPattern (inner cs)
  else if isBetween '^' '$' cs then
    compare field .matchesPattern ('^' :: (escaped (inner cs) ++ ['$']))
  else if cs.head? = some '^' then compare field .startsWith (cs.drop 1)
  else if cs.getLast? = some '$' then compare field .endsWith cs.dropLast
  else if !value.quoted && cs.contains '*' then
    compare field .matchesPattern (wildcardPattern cs)
  else compare field .contains cs

def readQuoted (position : Nat) (cs : List Char) : Outcome (List Char × Nat) :=
  let rest := cs.drop 1
  let phrase := rest.takeWhile (· ≠ '"')
  if phrase.length = rest.length then refuse .unterminatedQuote cs position
  else .ok (phrase, phrase.length + 2)

/-- The length of a pattern before the slash that ends it; a character after a backslash ends nothing. -/
def patternLength? : List Char → Option Nat
  | [] => none
  | '/' :: _ => some 0
  | '\\' :: rest =>
    match rest with
    | [] => none
    | _ :: rest => (patternLength? rest).map (· + 2)
  | _ :: rest => (patternLength? rest).map (· + 1)

/-- The pattern between slashes at the start of a text, and its length with them; nothing if no term ends after the
second slash. -/
def readPattern (position : Nat) (cs : List Char) : Outcome (Option (List Char × Nat)) :=
  let rest := cs.drop 1
  match patternLength? rest with
  | none => refuse .unterminatedPattern cs position
  | some n =>
    if endsTerm (rest.drop (n + 1)) then .ok (some (rest.take n, n + 2)) else .ok none

def readValue (position : Nat) (field before cs : List Char) : Outcome (Written × Nat) := do
  if endsTerm cs then
    let shown := before.drop (before.length - (field.length + 1))
    refuse (.missingValue (String.ofList field)) shown position
  else if cs.head? = some '"' then
    let (phrase, n) ← readQuoted position cs
    if isBetween '/' '/' phrase then return (⟨inner phrase, true, true⟩, n)
    else return (⟨phrase, true, false⟩, n)
  else
    let literal ← if cs.head? = some '/' then readPattern position cs else pure none
    match literal with
    | some (pattern, n) => return (⟨pattern, false, true⟩, n)
    | none =>
      -- Only a word is left; it can be missing, at an opening bracket.
      match wordOf cs with
      | [] => .error .noSuchPart
      | word => return (⟨word, false, false⟩, word.length)

/-! ## Lists -/

def itemOf (cs : List Char) : List Char :=
  let item := trim cs
  if isBetween '"' '"' item || isBetween '\'' '\'' item then inner item else item

/-- The items between brackets at the start of a text after the word that announces them, and the length of all. -/
def readList (position : Nat) (cs : List Char) : Outcome (List (List Char) × Nat) :=
  let rest := cs.drop 3
  let body := rest.takeWhile (· ≠ ')')
  if body.length = rest.length then refuse .unclosedList cs position
  else
    let items := ((splitOn ',' body).map itemOf).filter (!·.isEmpty)
    if items.isEmpty then refuse .emptyList (cs.take (body.length + 4)) position
    else .ok (items, body.length + 4)

/-! ## Terms -/

def comparisons : List (List Char × Operator) :=
  [(">=".toList, .greaterOrEqual), ("<=".toList, .lessOrEqual), ("!=".toList, .notEquals),
    (">".toList, .greaterThan), ("<".toList, .lessThan), ("=".toList, .equals)]

def comparison? (cs : List Char) : Option (Operator × Nat) :=
  (comparisons.find? fun c => c.1.isPrefixOf cs).map fun c => (c.2, c.1.length)

def existence? (cs : List Char) : Option (Condition × Nat) :=
  ["has:", "missing:"].findSome? fun word => do
    let rest ← dropCaseless? word.toList cs
    let field := rest.takeWhile isWord
    if field.isEmpty || !endsTerm (rest.drop field.length) then none
    let spelling := lowered (String.ofList (cs.take (word.length - 1)))
    let operator := if spelling = "has" then Operator.notEmpty else .empty
    some (⟨.text (String.ofList field), .text operator.name, .null⟩, word.length + field.length)

/-- The start of a question about a field: its name, the comparison if there is one, and the length of all. -/
def fieldStart? (cs : List Char) : Option (List Char × Option Operator × Nat) := do
  let field := cs.takeWhile isWord
  if field.isEmpty then none
  match cs.drop field.length with
  -- White space may stand around a comparison only behind a colon.
  | ':' :: rest =>
    let blanks := rest.takeWhile isBlank
    match comparison? (rest.drop blanks.length) with
    | some (operator, n) =>
      let more := (rest.drop (blanks.length + n)).takeWhile isBlank
      some (field, some operator, field.length + 1 + blanks.length + n + more.length)
    | none => some (field, none, field.length + 1)
  | rest =>
    let (operator, n) ← comparison? rest
    some (field, some operator, field.length + n)

def readField (position : Nat) (cs field : List Char) (operator : Option Operator) (start : Nat) :
    Outcome (Condition × Nat) := do
  let rest := cs.drop start
  match operator, dropCaseless? "in(".toList rest with
  | none, some _ =>
    let (items, n) ← readList (position + start) rest
    let values := items.map fun item => Value.text (String.ofList item)
    return (⟨.text (String.ofList field), .text Operator.oneOf.name, .list values⟩, start + n)
  | operator, _ =>
    let (value, n) ← readValue (position + start) field (cs.take start) rest
    match operator with
    | some operator => return (compare field operator value.text, start + n)
    | none => return (shapeCondition field value, start + n)

def readTerm (position : Nat) (cs : List Char) : Outcome (Condition × Nat) :=
  match existence? cs with
  | some found => .ok found
  | none =>
    match fieldStart? cs with
    | some (field, operator, start) => readField position cs field operator start
    | none => .ok (holding (wordOf cs), (wordOf cs).length)

end LogAnalysis.Query
