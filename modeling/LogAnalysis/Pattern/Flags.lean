/-!
The flags that a pattern sets for itself or for one of its groups.
-/

namespace LogAnalysis.Pattern

structure Flags where
  caseless : Bool := false
  multiline : Bool := false
  dotAll : Bool := false
  verbose : Bool := false
  ascii : Bool := false
  unicode : Bool := false
  template : Bool := false
deriving Repr, DecidableEq

namespace Flags

def ofLetter? : Char → Option Flags
  | 'i' => some { caseless := true }
  | 'm' => some { multiline := true }
  | 's' => some { dotAll := true }
  | 'x' => some { verbose := true }
  | 'a' => some { ascii := true }
  | 'u' => some { unicode := true }
  | 't' => some { template := true }
  | _ => none

def union (a b : Flags) : Flags :=
  ⟨a.caseless || b.caseless, a.multiline || b.multiline, a.dotAll || b.dotAll,
    a.verbose || b.verbose, a.ascii || b.ascii, a.unicode || b.unicode, a.template || b.template⟩

def without (a b : Flags) : Flags :=
  ⟨a.caseless && !b.caseless, a.multiline && !b.multiline, a.dotAll && !b.dotAll,
    a.verbose && !b.verbose, a.ascii && !b.ascii, a.unicode && !b.unicode,
    a.template && !b.template⟩

def meets (a b : Flags) : Bool :=
  (a.caseless && b.caseless) || (a.multiline && b.multiline) || (a.dotAll && b.dotAll) ||
    (a.verbose && b.verbose) || (a.ascii && b.ascii) || (a.unicode && b.unicode) ||
    (a.template && b.template)

def isAlphabet (a : Flags) : Bool := a.ascii || a.unicode

/-- The flags inside a group that turns some on and some off. -/
def within (outer on off : Flags) : Flags :=
  -- A new alphabet replaces the old one.
  let base := if on.isAlphabet then { outer with ascii := false, unicode := false } else outer
  (base.union on).without off

end Flags

end LogAnalysis.Pattern
