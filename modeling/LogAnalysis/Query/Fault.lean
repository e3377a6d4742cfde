import LogAnalysis.Text.Quoted

/-!
Why a query is refused, with the part of the query that shows it.
-/

namespace LogAnalysis.Query

inductive Keyword
  | and
  | or
  | not
deriving Repr, DecidableEq

def Keyword.text : Keyword → String
  | and => "AND"
  | or => "OR"
  | not => "NOT"

inductive Problem
  | unterminatedQuote
  | unterminatedPattern
  | unclosedList
  | emptyList
  | missingValue (field : String)
  | dangling (keyword : Keyword)
  | unexpected (keyword : Keyword)
  | unexpectedToken
  | unexpectedEnd
  | emptyParentheses
  | unclosed
  | unopened
  | noComplement (operator : String)
  | tooComplex
deriving Repr, DecidableEq

def Problem.text : Problem → String
  | unterminatedQuote => "Unterminated quoted string"
  | unterminatedPattern => "Unterminated regex literal"
  | unclosedList => "Malformed IN(...) list: missing ')'"
  | emptyList => "Malformed IN(...) list: no values"
  | missingValue field => s!"Missing value for field '{field}'"
  | dangling keyword => s!"Dangling {keyword.text}: missing operand"
  | unexpected keyword => s!"Unexpected {keyword.text}"
  | unexpectedToken => "Unexpected token"
  | unexpectedEnd => "Unexpected end of query"
  | emptyParentheses => "Empty parentheses"
  | unclosed => "Unbalanced parentheses: missing ')'"
  | unopened => "Unbalanced parentheses: unexpected ')'"
  | noComplement operator => s!"Cannot express NOT {operator} as a flat rule"
  | tooComplex => "Query is too complex for a flat rule list"

structure Fault where
  problem : Problem
  fragment : String := ""
  position : Option Nat := none
deriving Repr, DecidableEq

def Fault.message (f : Fault) : String :=
  let piece := if f.fragment = "" then "" else " near " ++ Text.quoted f.fragment
  let place := match f.position with
    | some p => s!" (at position {p})"
    | none => ""
  "Query parse error: " ++ f.problem.text ++ piece ++ place

end LogAnalysis.Query
