import LogAnalysis.Decimal.Reader
import LogAnalysis.Text.Quoted

/-!
Why a pattern is refused: the problem, and where in the pattern it was found.
-/

namespace LogAnalysis.Pattern

inductive Problem
  | trailingBackslash
  | escape (text : String)
  | incompleteEscape (text : String)
  | octalRange (text : String)
  | unknownCharacter (name : String)
  | missing (what : String)
  | unterminatedName (closing : Char)
  | unterminatedGroup
  | unterminatedComment
  | unterminatedSet
  | unbalanced
  | unexpectedEnd
  | unknownExtension (text : String)
  | openGroup
  | sameLookbehind
  | noGroup (number : Nat)
  | noGroupNamed (name : String)
  | groupName (name : String)
  | groupNumber
  | groupRedefined (name : String) (new old : Nat)
  | thirdBranch
  | range (low high : String)
  | nothingToRepeat
  | repeatedRepeat
  | repeatOrder
  | lateFlags
  | localeFlag
  | typeFlags
  | typeFlagOff
  | unknownFlag
  | templateFlagOn
  | templateFlagOff
  | flagOnAndOff
  | templateRepeat (kind : String)
  | lookbehindTooWide
  | lookbehindWidth
  | notText (kind : String)
deriving Repr, DecidableEq

namespace Problem

def text : Problem → String
  | trailingBackslash => "bad escape (end of pattern)"
  | escape t => "bad escape " ++ t
  | incompleteEscape t => "incomplete escape " ++ t
  | octalRange t => s!"octal escape value {t} outside of range 0-0o377"
  | unknownCharacter name => "undefined character name " ++ Text.quoted name
  | missing what => "missing " ++ what
  | unterminatedName closing => s!"missing {closing}, unterminated name"
  | unterminatedGroup => "missing ), unterminated subpattern"
  | unterminatedComment => "missing ), unterminated comment"
  | unterminatedSet => "unterminated character set"
  | unbalanced => "unbalanced parenthesis"
  | unexpectedEnd => "unexpected end of pattern"
  | unknownExtension t => "unknown extension " ++ t
  | openGroup => "cannot refer to an open group"
  | sameLookbehind => "cannot refer to group defined in the same lookbehind subpattern"
  | noGroup n => s!"invalid group reference {n}"
  | noGroupNamed name => "unknown group name " ++ Text.quoted name
  | groupName name => "bad character in group name " ++ Text.quoted name
  | groupNumber => "bad group number"
  | groupRedefined name new old =>
    s!"redefinition of group name {Text.quoted name} as group {new}; was group {old}"
  | thirdBranch => "conditional backref with more than two branches"
  | range low high => s!"bad character range {low}-{high}"
  | nothingToRepeat => "nothing to repeat"
  | repeatedRepeat => "multiple repeat"
  | repeatOrder => "min repeat greater than max repeat"
  | lateFlags => "global flags not at the start of the expression"
  | localeFlag => "bad inline flags: cannot use 'L' flag with a str pattern"
  | typeFlags => "bad inline flags: flags 'a', 'u' and 'L' are incompatible"
  | typeFlagOff => "bad inline flags: cannot turn off flags 'a', 'u' and 'L'"
  | unknownFlag => "unknown flag"
  | templateFlagOn => "bad inline flags: cannot turn on global flag"
  | templateFlagOff => "bad inline flags: cannot turn off global flag"
  | flagOnAndOff => "bad inline flags: flag turned on and off"
  | templateRepeat kind => "internal: unsupported template operator " ++ kind
  | lookbehindTooWide => "looks too much behind"
  | lookbehindWidth => "look-behind requires fixed-width pattern"
  | notText kind => s!"expected string or bytes-like object, got '{kind}'"

end Problem

/-- A place in a pattern. Line and column are named only in a pattern of several lines. -/
structure Place where
  offset : Nat
  line : Nat
  column : Nat
  named : Bool
deriving Repr, DecidableEq

structure Fault where
  problem : Problem
  place : Option Place
deriving Repr, DecidableEq

def Fault.message (f : Fault) : String :=
  match f.place with
  | none => f.problem.text
  | some p =>
    let basic := s!"{f.problem.text} at position {p.offset}"
    if p.named then s!"{basic} (line {p.line}, column {p.column})" else basic

/-- Why a pattern has no meaning: it is malformed, a repetition number is beyond all bounds or has too many digits, or
its flags call for two alphabets. -/
inductive Refusal
  | malformed (fault : Fault)
  | repeatTooLarge
  | repeatDigits (digits : Nat)
  | alphabets
deriving Repr, DecidableEq

/-- A problem and the number of characters that were left where it arose, or another reason to stop. -/
inductive Failure
  | at (problem : Problem) (left : Nat)
  | nowhere (problem : Problem)
  | repeatTooLarge
  | repeatDigits (digits : Nat)
  | alphabets
deriving Repr, DecidableEq

def placeOf (pattern : List Char) (left : Nat) : Place :=
  let offset := pattern.length - left
  let before := pattern.take offset
  { offset := offset
    line := before.count '\n' + 1
    column := (before.reverse.takeWhile (· != '\n')).length + 1
    named := pattern.contains '\n' }

def Failure.locate (pattern : List Char) : Failure → Refusal
  | .at problem left => .malformed ⟨problem, some (placeOf pattern left)⟩
  | .nowhere problem => .malformed ⟨problem, none⟩
  | .repeatTooLarge => .repeatTooLarge
  | .repeatDigits digits => .repeatDigits digits
  | .alphabets => .alphabets

end LogAnalysis.Pattern
