import LogAnalysis.Pattern.Fault

/-!
Patterns as trees. All flags are resolved: every leaf says for itself how it compares letters.

`Node.width` gives the least and the greatest length of what a tree matches; a tree that looks behind needs them to be
equal, which `Node.problem?` checks.
-/

namespace LogAnalysis.Pattern

/-- How letters are compared: as they are, without regard to the case of the letters from A to Z, or of all
letters. -/
inductive CaseRule
  | exact
  | ascii
  | unicode
deriving Repr, DecidableEq

inductive Category
  | digit
  | space
  | word
deriving Repr, DecidableEq

/-- One part of a set of characters. `plain` limits a class to the first 128 characters. -/
inductive SetItem
  | code (n : Nat)
  | range (low high : Nat)
  | category (kind : Category) (negated plain : Bool)
deriving Repr, DecidableEq

inductive Test
  | code (n : Nat)
  | otherThan (n : Nat)
  | any
  | anyButNewline
  | set (negated : Bool) (items : List SetItem)
deriving Repr, DecidableEq

structure Single where
  test : Test
  letters : CaseRule
deriving Repr, DecidableEq

inductive Anchor
  | textStart
  | lineStart
  | textEnd
  | lastLineEnd
  | lineEnd
  | boundary (negated plain : Bool)
deriving Repr, DecidableEq

inductive Greed
  | most
  | fewest
  | all
deriving Repr, DecidableEq

abbrev Width := Nat × Nat

/-- A pattern. Groups are numbered from one. `behind` holds the width of what stands before the position. -/
inductive Node
  | empty
  | single (s : Single)
  | anchor (a : Anchor)
  | seq (first second : Node)
  | alt (first second : Node)
  | capture (group : Nat) (body : Node)
  | bracket (body : Node)
  | atomic (body : Node)
  | loop (least : Nat) (most : Option Nat) (greed : Greed) (body : Node)
  | reference (group : Nat) (letters : CaseRule)
  | conditional (group : Nat) (yes no : Node)
  | look (behind : Option Width) (negated : Bool) (body : Node)
deriving Repr, DecidableEq

def unboundedWidth : Nat := Nat.pow 2 64

def maxRepeat : Nat := Nat.pow 2 32 - 1

namespace Node

def sequence (items : List Node) : Node :=
  match items with
  | [] => empty
  | [item] => item
  | item :: rest => seq item (sequence rest)

def alternatives (items : List Node) : Node :=
  match items with
  | [] => empty
  | [item] => item
  | item :: rest => alt item (alternatives rest)

def width (groups : Nat → Width) : Node → Width
  | empty => (0, 0)
  | single _ => (1, 1)
  | anchor _ => (0, 0)
  | seq a b =>
    let (la, ha) := a.width groups
    let (lb, hb) := b.width groups
    (la + lb, ha + hb)
  | alt a b =>
    let (la, ha) := a.width groups
    let (lb, hb) := b.width groups
    (min la lb, max ha hb)
  | capture _ body => body.width groups
  | bracket body => body.width groups
  | atomic body => body.width groups
  | loop least most _ body =>
    let (low, high) := body.width groups
    (low * least, match most with
      | some n => high * n
      | none => if high = 0 then 0 else unboundedWidth)
  | reference group _ => groups group
  | conditional _ yes no =>
    let (ly, hy) := yes.width groups
    let (ln, hn) := no.width groups
    (min ly ln, max hy hn)
  | look _ _ _ => (0, 0)

/-- The first part of a tree that cannot be run: one that looks behind and has no fixed width, or a repetition where
the template flag allows none. -/
def problem? (template : Bool) : Node → Option Problem
  | empty | single _ | anchor _ | reference _ _ => none
  | seq a b | alt a b => (a.problem? template).or (b.problem? template)
  | capture _ body | bracket body | atomic body => body.problem? template
  | loop _ _ greed body =>
    if template then
      some (.templateRepeat (match greed with
        | .most => "MAX_REPEAT"
        | .fewest => "MIN_REPEAT"
        | .all => "POSSESSIVE_REPEAT"))
    else body.problem? template
  | conditional _ yes no => (yes.problem? template).or (no.problem? template)
  | look behind _ body =>
    match behind with
    | none => body.problem? template
    | some (low, high) =>
      if maxRepeat < low then some .lookbehindTooWide
      else if low ≠ high then some .lookbehindWidth
      else body.problem? template

end Node

end LogAnalysis.Pattern
