import LogAnalysis.Query.Token
import LogAnalysis.Query.Tree

/-!
From the tokens of a query to its tree.

A query is a chain of alternatives, an alternative a chain of conditions that all have to hold, with or without the
keyword between them, and brackets make one condition of a whole chain. Negation binds strongest. Chains are grouped to the left.
-/

namespace LogAnalysis.Query

abbrev Reading := Outcome (Tree × List Token)

def Token.refuse {α : Type} (t : Token) (problem : Problem) : Outcome α :=
  .error (.query ⟨problem, t.text, some t.position⟩)

def requireOperand (t : Token) (k : Keyword) : List Token → Outcome Unit
  | [] => t.refuse (.dangling k)
  | next :: _ =>
    match next.kind with
    | .closing | .keyword .and | .keyword .or => t.refuse (.dangling k)
    | _ => .ok ()

/-- Nothing more could be read, although something has to follow; the report shows the end of the query. -/
def unexpectedEnd {α : Type} (query : List Char) : Outcome α :=
  Query.refuse .unexpectedEnd (query.drop (query.length - 20)) query.length

def startsClosed : List Token → Bool
  | ⟨.closing, _, _⟩ :: _ => true
  | _ => false

mutual

def readAlternatives (query : List Char) : Nat → List Token → Reading
  | 0, _ => unexpectedEnd query
  | fuel + 1, ts => do
    let (left, ts) ← readConjunction query fuel ts
    moreAlternatives query fuel left ts

def moreAlternatives (query : List Char) : Nat → Tree → List Token → Reading
  | 0, _, _ => unexpectedEnd query
  | _ + 1, left, [] => .ok (left, [])
  | fuel + 1, left, t :: ts =>
    match t.kind with
    | .keyword .or => do
      requireOperand t .or ts
      let (right, ts) ← readConjunction query fuel ts
      moreAlternatives query fuel (.either left right) ts
    | _ => .ok (left, t :: ts)

def readConjunction (query : List Char) : Nat → List Token → Reading
  | 0, _ => unexpectedEnd query
  | fuel + 1, ts => do
    let (left, ts) ← readOperand query fuel ts
    moreConjuncts query fuel left ts

def moreConjuncts (query : List Char) : Nat → Tree → List Token → Reading
  | 0, _, _ => unexpectedEnd query
  | _ + 1, left, [] => .ok (left, [])
  | fuel + 1, left, t :: ts =>
    match t.kind with
    | .keyword .and => do
      requireOperand t .and ts
      let (right, ts) ← readOperand query fuel ts
      moreConjuncts query fuel (.both left right) ts
    | .keyword .or | .closing => .ok (left, t :: ts)
    | _ => do
      let (right, ts) ← readOperand query fuel (t :: ts)
      moreConjuncts query fuel (.both left right) ts

def readOperand (query : List Char) : Nat → List Token → Reading
  | 0, _ => unexpectedEnd query
  | _ + 1, [] => unexpectedEnd query
  | fuel + 1, t :: ts =>
    match t.kind with
    | .keyword .not => do
      requireOperand t .not ts
      let (operand, ts) ← readOperand query fuel ts
      return (.not operand, ts)
    | .keyword k => t.refuse (.unexpected k)
    | .closing => t.refuse .unopened
    | .term condition => .ok (.rule condition, ts)
    | .opening => readBrackets query fuel t ts

def readBrackets (query : List Char) : Nat → Token → List Token → Reading
  | 0, _, _ => unexpectedEnd query
  | fuel + 1, opened, ts =>
    if startsClosed ts then .error (.query ⟨.emptyParentheses, "()", some opened.position⟩)
    else do
      let (inside, ts) ← readAlternatives query fuel ts
      if startsClosed ts then return (inside, ts.drop 1)
      else Query.refuse .unclosed (query.drop opened.position) opened.position

end

def enoughFuel (ts : List Token) : Nat := 6 * ts.length + 6

def readTree (query : List Char) (ts : List Token) : Outcome Tree := do
  let (tree, rest) ← readAlternatives query (enoughFuel ts) ts
  match rest with
  | [] => return tree
  | t :: _ =>
    match t.kind with
    | .closing => t.refuse .unopened
    | _ => t.refuse .unexpectedToken

def parse (query : String) : Outcome (Option Tree) := do
  let ts ← tokens query
  if ts.isEmpty then return none
  else some <$> readTree query.toList ts

end LogAnalysis.Query
