import LogAnalysis.Pattern.Character

/-!
Matching by backtracking.

A tree becomes a `Matcher`: given a state and what is to follow, it tries its ways through the text in order of preference
and answers with the first for which the rest succeeds. What follows is a continuation, so that a tree never has to know its
context, and a state that led nowhere is simply forgotten.

A repetition tries a further round only while the rounds beyond the least number make progress.
-/

namespace LogAnalysis.Pattern

structure State where
  position : Nat
  starts : List (Nat × Nat) := []
  ends : List (Nat × Nat) := []
deriving Repr

abbrev Continuation := State → Option State

abbrev Matcher := State → Continuation → Option State

namespace State

def mark (places : List (Nat × Nat)) (group position : Nat) : List (Nat × Nat) :=
  (group, position) :: places.filter (·.1 ≠ group)

def span? (s : State) (group : Nat) : Option (Nat × Nat) :=
  match s.starts.lookup group, s.ends.lookup group with
  | some start, some stop => if start ≤ stop then some (start, stop) else none
  | _, _ => none

end State

section

variable (text : Array Char)

def wordAt (plain : Bool) (i : Nat) : Bool :=
  match text[i]? with
  | some c => Category.holds .word plain c
  | none => false

def Anchor.holds (a : Anchor) (i : Nat) : Bool :=
  match a with
  | .textStart => i = 0
  | .lineStart => i = 0 || text[i - 1]? = some '\n'
  | .textEnd => i = text.size
  | .lastLineEnd => i = text.size || (i + 1 = text.size && text[i]? = some '\n')
  | .lineEnd => i = text.size || text[i]? = some '\n'
  | .boundary negated plain =>
    if text.size = 0 then false
    else
      let before := 0 < i && wordAt text plain (i - 1)
      (before != wordAt text plain i) != negated

def copyAt? (letters : CaseRule) (start length i : Nat) : Option Nat :=
  let same (k : Nat) : Bool :=
    match text[start + k]?, text[i + k]? with
    | some a, some b => letters.same a b
    | _, _ => false
  if (List.range length).all same then some (i + length) else none

def runLength (s : Single) (limit i : Nat) : Nat :=
  let rec go : Nat → Nat → Nat
    | 0, n => n
    | fuel + 1, n =>
      match text[i + n]? with
      | some c => if s.accepts c then go fuel (n + 1) else n
      | none => n
  go (min limit (text.size - i)) 0

/-- Rounds of a repetition, as many as possible first. -/
def rounds (body : Matcher) (least : Nat) (most : Option Nat) :
    (fuel : Nat) → (count : Nat) → (last : Option Nat) → Matcher
  | 0, _, _, s, k => k s
  | fuel + 1, count, last, s, k =>
    if count < least then body s fun s => rounds body least most fuel (count + 1) last s k
    -- A round beyond the least number has to get on.
    else if most.any (· ≤ count) || last = some s.position then k s
    else
      match body s fun t => rounds body least most fuel (count + 1) (some s.position) t k with
      | some result => some result
      | none => k s

def fewRounds (body : Matcher) (least : Nat) (most : Option Nat) :
    (fuel : Nat) → (count : Nat) → (last : Option Nat) → Matcher
  | 0, _, _, s, k => k s
  | fuel + 1, count, last, s, k =>
    if count < least then body s fun s => fewRounds body least most fuel (count + 1) last s k
    else
      match k s with
      | some result => some result
      | none =>
        if most.any (· ≤ count) || last = some s.position then none
        else body s fun t => fewRounds body least most fuel (count + 1) (some s.position) t k

def allRounds (body : Matcher) (least : Nat) (most : Option Nat) :
    (fuel : Nat) → (count : Nat) → State → Option State
  | 0, _, s => some s
  | fuel + 1, count, s =>
    if count < least then (body s some).bind (allRounds body least most fuel (count + 1))
    else if most.any (· ≤ count) then some s
    else
      match body s some with
      | some t => if t.position = s.position then some t else allRounds body least most fuel (count + 1) t
      | none => some s

def longestFirst (least : Nat) (s : State) (k : Continuation) : Nat → Option State
  | 0 => if least = 0 then k s else none
  | n + 1 =>
    if n + 1 < least then none
    else
      match k { s with position := s.position + (n + 1) } with
      | some result => some result
      | none => longestFirst least s k n

def leafRounds (single : Single) (least : Nat) (most : Option Nat) (greed : Greed) : Matcher :=
  fun s k =>
    let n := runLength text single (most.getD text.size) s.position
    if n < least then none
    else
      match greed with
      | .most => longestFirst least s k n
      | .fewest =>
        (List.range (n + 1 - least)).findSome? fun i => k { s with position := s.position + least + i }
      | .all => k { s with position := s.position + n }

def Node.leaf? : Node → Option Single
  | .single s => some s
  | .bracket body => body.leaf?
  | _ => none

def Node.run : Node → Matcher
  | .empty => fun s k => k s
  | .single leaf => fun s k =>
    match text[s.position]? with
    | some c => if leaf.accepts c then k { s with position := s.position + 1 } else none
    | none => none
  | .anchor a => fun s k => if a.holds text s.position then k s else none
  | .seq first second => fun s k => first.run s fun t => second.run t k
  | .alt first second => fun s k =>
    match first.run s k with
    | some result => some result
    | none => second.run s k
  | .capture group body => fun s k =>
    body.run { s with starts := State.mark s.starts group s.position } fun t =>
      k { t with ends := State.mark t.ends group t.position }
  | .bracket body => body.run
  | .atomic body => fun s k => (body.run s some).bind k
  | .loop least most greed body => fun s k =>
    match body.leaf? with
    | some leaf => leafRounds text leaf least most greed s k
    | none =>
      let fuel := least + (text.size - s.position) + 2
      match greed with
      | .most => rounds body.run least most fuel 0 none s k
      | .fewest => fewRounds body.run least most fuel 0 none s k
      | .all => (allRounds body.run least most fuel 0 s).bind k
  | .reference group letters => fun s k =>
    match s.span? group with
    | some (start, stop) =>
      match copyAt? text letters start (stop - start) s.position with
      | some i => k { s with position := i }
      | none => none
    | none => none
  | .conditional group yes no => fun s k =>
    match s.span? group with
    | some _ => yes.run s k
    | none => no.run s k
  | .look behind negated body => fun s k =>
    let width := (behind.map (·.1)).getD 0
    let inner :=
      if width ≤ s.position then body.run { s with position := s.position - width } some else none
    match inner, negated with
    | some t, false => k { t with position := s.position }
    | none, true => k s
    | _, _ => none

def Node.matchAt? (node : Node) (mustAdvance : Bool) (i : Nat) : Option State :=
  node.run text { position := i } fun t => if mustAdvance && t.position = i then none else some t

def Node.searchFrom? (node : Node) : (fuel : Nat) → (mustAdvance : Bool) → (i : Nat) → Option (Nat × State)
  | 0, _, _ => none
  | fuel + 1, mustAdvance, i =>
    if text.size < i then none
    else
      match node.matchAt? text mustAdvance i with
      | some t => some (i, t)
      | none => node.searchFrom? fuel false (i + 1)

def Node.matchesFrom (node : Node) : (fuel : Nat) → (mustAdvance : Bool) → (i : Nat) → List State
  | 0, _, _ => []
  | fuel + 1, mustAdvance, i =>
    match node.searchFrom? text (text.size + 1) mustAdvance i with
    | none => []
    -- After an empty match the next one at its place must not be empty.
    | some (start, t) => t :: node.matchesFrom fuel (t.position = start) t.position

end

end LogAnalysis.Pattern
