/-!
Dynamic values: what a field of an entry, a rule or a data file may hold.

An object is a list of members in the order in which their names first came; `Members.put` keeps the names
distinct.
-/

namespace LogAnalysis

inductive Value
  | null
  | bool (b : Bool)
  | int (n : Int)
  | float (x : Float)
  | text (s : String)
  | list (items : List Value)
  | object (members : List (String × Value))
deriving Inhabited, Repr

abbrev Members (α : Type) := List (String × α)

namespace Members

def get? {α : Type} (m : Members α) (name : String) : Option α := m.lookup name

def names {α : Type} (m : Members α) : List String := m.map (·.1)

def put {α : Type} : Members α → String → α → Members α
  | [], name, value => [(name, value)]
  | (k, v) :: rest, name, value =>
    -- A name that is there keeps its place.
    if k = name then (name, value) :: rest else (k, v) :: put rest name value

def ofPairs {α : Type} (pairs : List (String × α)) : Members α :=
  pairs.foldl (fun m p => put m p.1 p.2) []

theorem get?_put {α : Type} (m : Members α) (name : String) (value : α) (other : String) :
    get? (put m name value) other = if other = name then some value else get? m other := by
  induction m with
  | nil =>
    by_cases h : other = name
    · simp [put, get?, h]
    · simp [put, get?, List.lookup_cons, h, beq_eq_false_iff_ne.2 h]
  | cons p rest ih =>
    obtain ⟨k, v⟩ := p
    simp only [get?] at ih
    by_cases hk : k = name
    · subst hk
      by_cases h : other = k
      · simp [put, get?, h]
      · simp [put, get?, List.lookup_cons, h, beq_eq_false_iff_ne.2 h]
    · by_cases h : other = k
      · subst h
        simp [put, get?, hk]
      · simp [put, get?, List.lookup_cons, hk, beq_eq_false_iff_ne.2 h, ih]

theorem names_put {α : Type} (m : Members α) (name : String) (value : α) :
    names (put m name value) = if name ∈ names m then names m else names m ++ [name] := by
  induction m with
  | nil => simp [put, names]
  | cons p rest ih =>
    obtain ⟨k, v⟩ := p
    simp only [names] at ih
    by_cases hk : k = name
    · subst hk; simp [put, names]
    · simp only [put, hk, if_false, names, List.map_cons, ih, List.mem_cons]
      have : name ≠ k := fun h => hk h.symm
      by_cases hm : name ∈ List.map (fun x => x.1) rest <;> simp_all

end Members

namespace Value

def isTruthy : Value → Bool
  | null => false
  | bool b => b
  | int n => n != 0
  | float x => x != 0
  | text s => s != ""
  | list items => !items.isEmpty
  | object members => !members.isEmpty

def truthy? (v : Value) : Option Value := if v.isTruthy then some v else none

def member? : Value → String → Option Value
  | object members, name => Members.get? members name
  | _, _ => none

def ofOption : Option Value → Value
  | some v => v
  | none => null

def scalar : Value → Value
  | list [item] => item
  | v => v

def toItems : Value → List Value
  | null => []
  | list items => items
  | v => [v]

end Value

end LogAnalysis
