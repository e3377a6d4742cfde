import LogAnalysis.Entry

/-!
The order of the entries in a view.

Entries are ordered by their numbers, by another part, or by the first value of a field. Entries that are equal
under the order keep their places, in descending order too.
-/

namespace LogAnalysis

structure SortOrder where
  field : Value := .text "id"
  order : Value := .text "desc"
deriving Repr, Inhabited

namespace SortOrder

inductive Key
  | id
  | part (name : String)
  | field (name : String)
deriving Repr, DecidableEq

def Key.ofName (name : String) : Key :=
  let start := "field:"
  if Text.startsWith name start then field (String.ofList (name.toList.drop start.length))
  else
    let name := Entry.resolveName name
    if name = "id" then id else part name

def firstText : Value → String
  | .list [] => ""
  | .list (item :: _) => item.display
  | .null => ""
  | v => v.display

def Key.ascending : Key → Entry → Entry → Bool
  | id, a, b => a.id ≤ b.id
  | part name, a, b => firstText (a.get name) ≤ firstText (b.get name)
  | field name, a, b =>
    let text := fun (e : Entry) => firstText (Value.ofOption (Members.get? e.fields name))
    text a ≤ text b

def isDescending (s : SortOrder) : Bool :=
  match s.order with
  | .text "desc" => true
  | _ => false

def rows {α : Type} (s : SortOrder) (entryOf : α → Entry) (rows : List α) : Outcome (List α) :=
  match s.field with
  | .text name =>
    let before := (Key.ofName name).ascending
    .ok (rows.mergeSort fun a b =>
      -- The order is turned round and not the result, so that equal rows keep their places.
      if s.isDescending then before (entryOf b) (entryOf a) else before (entryOf a) (entryOf b))
  | _ => .error .noSuchPart

end SortOrder

end LogAnalysis
