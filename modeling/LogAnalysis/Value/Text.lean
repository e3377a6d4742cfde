import LogAnalysis.Decimal.Notation
import LogAnalysis.Text.Basic
import LogAnalysis.Text.Quoted
import LogAnalysis.Value.Basic

/-!
The text of a value, in two forms. `display` shows any value with its structure and `shown` is the same
with strings in quotation marks; `plain` is what filters compare: nothing for a missing value, and the items of a
list joined by commas.
-/

namespace LogAnalysis.Value

def boolText (b : Bool) : String := if b then "True" else "False"

mutual

def shown : Value → String
  | null => "None"
  | bool b => boolText b
  | int n => toString n
  | float x => Decimal.shortestText x
  | text s => Text.quoted s
  | list items => "[" ++ Text.joined ", " (shownItems items) ++ "]"
  | object members => "\x7b" ++ Text.joined ", " (shownMembers members) ++ "\x7d"

def shownItems : List Value → List String
  | [] => []
  | v :: rest => shown v :: shownItems rest

def shownMembers : List (String × Value) → List String
  | [] => []
  | (k, v) :: rest => (Text.quoted k ++ ": " ++ shown v) :: shownMembers rest

end

def display : Value → String
  | text s => s
  | v => shown v

mutual

def plain : Value → String
  | null => ""
  | list items => Text.joined "," (plainItems items)
  | text s => s
  | v => shown v

def plainItems : List Value → List String
  | [] => []
  | v :: rest => plain v :: plainItems rest

end

theorem plainItems_eq_map (items : List Value) : plainItems items = items.map plain := by
  induction items with
  | nil => rfl
  | cons v rest ih => simp [plainItems, ih]

end LogAnalysis.Value
