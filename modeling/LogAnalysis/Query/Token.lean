import LogAnalysis.Query.Term

/-!
Tokens of a query.

`tokens` reads them from left to right. White space separates tokens and belongs to none; every token knows its text and
where it stands.
-/

namespace LogAnalysis.Query

inductive TokenKind
  | opening
  | closing
  | keyword (k : Keyword)
  | term (c : Condition)
deriving Repr, Inhabited

def TokenKind.name : TokenKind → String
  | opening => "LPAREN"
  | closing => "RPAREN"
  | keyword k => k.text
  | term _ => "TERM"

structure Token where
  kind : TokenKind
  text : String
  position : Nat
deriving Repr, Inhabited

def readToken (position : Nat) (cs : List Char) : Outcome (TokenKind × Nat) :=
  match cs.head? with
  | some '(' => .ok (.opening, 1)
  | some ')' => .ok (.closing, 1)
  | some '"' => do
    let (phrase, n) ← readQuoted position cs
    return (.term (holding phrase), n)
  | _ =>
    match keyword? cs with
    | some k => .ok (.keyword k, k.text.length)
    | none => do
      let (condition, n) ← readTerm position cs
      return (.term condition, n)

def tokensFrom (position : Nat) : List Char → Outcome (List Token)
  | [] => .ok []
  | c :: rest =>
    if Text.isBlank c then tokensFrom (position + 1) rest
    else do
      let (kind, n) ← readToken position (c :: rest)
      let more ← tokensFrom (position + (n - 1) + 1) (rest.drop (n - 1))
      return ⟨kind, String.ofList ((c :: rest).take n), position⟩ :: more
termination_by cs => cs.length
decreasing_by all_goals (simp only [List.length_cons, List.length_drop]; omega)

def tokens (query : String) : Outcome (List Token) := tokensFrom 0 query.toList

end LogAnalysis.Query
