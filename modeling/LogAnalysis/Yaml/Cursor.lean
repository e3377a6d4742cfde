import LogAnalysis.Fault

/-!
A place in a YAML document: the text that follows it, and where it stands in its line.
-/

namespace LogAnalysis.Yaml

inductive Failure
  | malformed
  | refused (fault : Fault)
deriving Repr, DecidableEq

abbrev Reading (α : Type) := Except Failure α

def isBreak (c : Char) : Bool := c = '\n' || c = '\x85' || c = '\u2028' || c = '\u2029'

def isWhite (c : Char) : Bool := c = ' ' || c = '\t'

def unifyBreaks : List Char → List Char
  | [] => []
  | '\r' :: '\n' :: rest => '\n' :: unifyBreaks rest
  | '\r' :: rest => '\n' :: unifyBreaks rest
  | c :: rest => c :: unifyBreaks rest

def isAllowed (c : Char) : Bool :=
  let n := c.toNat
  n = 0x09 || n = 0x0a || n = 0x0d || (0x20 ≤ n && n ≤ 0x7e) || n = 0x85 || (0xa0 ≤ n && n ≤ 0xfffd) ||
    0x10000 ≤ n

structure Cursor where
  rest : List Char
  index : Nat := 0
  line : Nat := 0
  column : Nat := 0
deriving Repr, Inhabited

namespace Cursor

def head? (c : Cursor) : Option Char := c.rest.head?

def atEnd (c : Cursor) : Bool := c.rest.isEmpty

def headIs (c : Cursor) (p : Char → Bool) : Bool := c.rest.head?.any p

def next (c : Cursor) : Cursor :=
  match c.rest with
  | [] => c
  | ch :: rest =>
    if isBreak ch then ⟨rest, c.index + 1, c.line + 1, 0⟩
    -- A byte order mark takes no column.
    else ⟨rest, c.index + 1, c.line, if ch = '\ufeff' then c.column else c.column + 1⟩

def skip (c : Cursor) : Nat → Cursor
  | 0 => c
  | n + 1 => c.next.skip n

def skipWhile (c : Cursor) (p : Char → Bool) : Cursor := c.skip (c.rest.takeWhile p).length

def takeBreak (c : Cursor) : List Char × Cursor :=
  match c.rest with
  | ch :: _ =>
    if ch = '\n' || ch = '\x85' then (['\n'], c.next)
    else if isBreak ch then ([ch], c.next)
    else ([], c)
  | [] => ([], c)

end Cursor

def startsBlank : List Char → Bool
  | [] => true
  | c :: _ => isWhite c || isBreak c

def startsBreak : List Char → Bool
  | [] => true
  | c :: _ => isBreak c

def startsSpace : List Char → Bool
  | [] => true
  | c :: _ => c = ' ' || isBreak c

def startsMark (mark : String) (cs : List Char) : Bool :=
  mark.toList.isPrefixOf cs && startsBlank (cs.drop 3)

def startsSeparator (cs : List Char) : Bool := startsMark "---" cs || startsMark "..." cs

end LogAnalysis.Yaml
