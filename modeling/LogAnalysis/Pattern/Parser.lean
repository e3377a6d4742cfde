import LogAnalysis.Json.Reader
import LogAnalysis.Pattern.Flags
import LogAnalysis.Pattern.Syntax
import LogAnalysis.Text.CharacterName
import LogAnalysis.Text.Word

/-!
Reading patterns.

The text is taken token by token, a token being a character or a backslash with the character after it. A problem is
reported with the number of characters left, counted from the start of the token that comes next.
-/

namespace LogAnalysis.Pattern

/-! ## Tokens -/

inductive Token
  | plain (c : Char)
  | escaped (c : Char)
deriving DecidableEq

def Token.text : Token → String
  | plain c => String.singleton c
  | escaped c => String.ofList ['\\', c]

/-- What has been read: the rest of the pattern; the groups in order, each with its width once it is closed; the names of
groups; the number of groups before the look-behind that is open; and the groups that conditions mention, with the
places of the mentions. -/
structure Progress where
  rest : List Char
  groups : List (Option Width) := []
  names : List (String × Nat) := []
  behind : Option Nat := none
  mentions : List (Nat × Nat) := []

abbrev Parse := StateT Progress (Except Failure)

namespace Parse

def left : Parse Nat := do return (← get).rest.length

def fail {α : Type} (problem : Problem) (before : Nat := 0) : Parse α := do
  throw (.at problem ((← left) + before))

def failAt {α : Type} (problem : Problem) (left : Nat) : Parse α := throw (.at problem left)

def peek : Parse (Option Token) := do
  match (← get).rest with
  | [] => return none
  | '\\' :: c :: _ => return some (.escaped c)
  | c :: _ => return some (.plain c)

def checkEnd (rest : List Char) : Parse Unit :=
  match rest with
  | ['\\'] => throw (.at .trailingBackslash 1)
  | _ => return ()

def skip : Parse Unit := do
  let rest := match (← get).rest with
    | '\\' :: _ :: rest => rest
    | rest => rest.drop 1
  checkEnd rest
  modify fun p => { p with rest := rest }

def take : Parse (Option Token) := do
  let token ← peek
  skip
  return token

def accept (c : Char) : Parse Bool := do
  if (← peek) = some (.plain c) then
    skip
    return true
  else return false

def takeWhile (test : Char → Bool) : (most : Nat) → Parse (List Char)
  | 0 => return []
  | most + 1 => do
    match ← peek with
    | some (.plain c) =>
      if test c then
        skip
        return c :: (← takeWhile test most)
      else return []
    | _ => return []

/-- The characters up to a closing one, which is taken too. `fuel` is at least the number of characters left. -/
def takeName (closing : Char) (what : String) : (fuel : Nat) → (taken : String) → Parse String
  | 0, _ => fail (.missing what)
  | fuel + 1, taken => do
    match ← take with
    | none =>
      if taken = "" then fail (.missing what)
      else fail (.unterminatedName closing) taken.length
    | some token =>
      if token = .plain closing then
        if taken = "" then fail (.missing what) 1 else return taken
      else takeName closing what fuel (taken ++ token.text)

def name (closing : Char) (what : String) : Parse String := do
  takeName closing what ((← left) + 1) ""

end Parse

open Parse

/-! ## Escapes -/

def isOctal (c : Char) : Bool := '0' ≤ c && c ≤ '7'
def isHex (c : Char) : Bool := (Json.hexValue? c).isSome
def octalValue (cs : List Char) : Nat := cs.foldl (fun n c => 8 * n + (c.toNat - 48)) 0

def letterCode? : Char → Option Nat
  | 'a' => some 7
  | 'b' => some 8
  | 'f' => some 12
  | 'n' => some 10
  | 'r' => some 13
  | 't' => some 9
  | 'v' => some 11
  | '\\' => some 92
  | _ => none

def category? (plain : Bool) : Char → Option SetItem
  | 'd' => some (.category .digit false plain)
  | 'D' => some (.category .digit true plain)
  | 's' => some (.category .space false plain)
  | 'S' => some (.category .space true plain)
  | 'w' => some (.category .word false plain)
  | 'W' => some (.category .word true plain)
  | _ => none

def anchor? (plain : Bool) : Char → Option Anchor
  | 'A' => some .textStart
  | 'b' => some (.boundary false plain)
  | 'B' => some (.boundary true plain)
  | 'Z' => some .textEnd
  | _ => none

def hexEscape (c : Char) (width : Nat) : Parse Nat := do
  let ds ← takeWhile isHex width
  let text := String.ofList ('\\' :: c :: ds)
  if ds.length < width then fail (.incompleteEscape text) text.length
  else
    let n := (Json.hexNumber? ds).getD 0
    if 0x10ffff < n then fail (.escape text) text.length else return n

def namedEscape : Parse Nat := do
  if !(← accept '\x7b') then fail (.missing "\x7b")
  let name ← name '\x7d' "character name"
  match Text.characterNamed? name with
  | some n => return n
  | none => fail (.unknownCharacter name) (name.length + 4)

def codeEscape? (c : Char) : Option (Parse Nat) :=
  match c with
  | 'x' => some (hexEscape c 2)
  | 'u' => some (hexEscape c 4)
  | 'U' => some (hexEscape c 8)
  | 'N' => some namedEscape
  | _ => none

def literalEscape (c : Char) : Parse Nat :=
  if c.isAlphanum then fail (.escape (String.ofList ['\\', c])) 2 else return c.toNat

def octalEscape (ds : List Char) : Parse Nat := do
  let text := String.ofList ('\\' :: ds)
  if 0o377 < octalValue ds then fail (.octalRange text) text.length else return octalValue ds

def setEscape (plain : Bool) (c : Char) : Parse SetItem := do
  match letterCode? c, category? plain c, codeEscape? c with
  | some n, _, _ => return .code n
  | _, some item, _ => return item
  | _, _, some code => return .code (← code)
  | none, none, none =>
    if isOctal c then return .code (← octalEscape (c :: (← takeWhile isOctal 2)))
    else return .code (← literalEscape c)

/-! ## Leaves -/

def Flags.letters (flags : Flags) : CaseRule :=
  if !flags.caseless then .exact else if flags.ascii then .ascii else .unicode

def Flags.codeNode (flags : Flags) (n : Nat) : Node := .single ⟨.code n, flags.letters⟩

def isClosed (p : Progress) (group : Nat) : Bool :=
  match p.groups[group - 1]? with
  | some (some _) => true
  | _ => false

def checkBehind (group : Nat) : Parse Unit := do
  let p ← get
  match p.behind with
  | none => return ()
  | some first =>
    if !isClosed p group then fail .openGroup
    else if first ≤ group then fail .sameLookbehind

/-- Digits after a backslash: up to two octal ones after a zero, three octal ones, or the number of a group. -/
def digitEscape (flags : Flags) (c : Char) : Parse Node := do
  if c = '0' then
    let ds ← takeWhile isOctal 2
    return flags.codeNode (octalValue ds)
  else
    let second ← takeWhile Char.isDigit 1
    let third ←
      if isOctal c && !second.isEmpty && second.all isOctal then takeWhile isOctal 1 else pure []
    let ds := c :: (second ++ third)
    if !third.isEmpty then return flags.codeNode (← octalEscape ds)
    else
      let group := Numeral.digitsValue ds
      let p ← get
      if group ≤ p.groups.length then
        if !isClosed p group then fail .openGroup (ds.length + 1)
        checkBehind group
        return .reference group flags.letters
      else fail (.noGroup group) ds.length

def escape (flags : Flags) (c : Char) : Parse Node := do
  match anchor? flags.ascii c, category? flags.ascii c, letterCode? c, codeEscape? c with
  | some a, _, _, _ => return .anchor a
  | _, some item, _, _ => return .single ⟨.set false [item], flags.letters⟩
  | _, _, some n, _ => return flags.codeNode n
  | _, _, _, some code => return flags.codeNode (← code)
  | none, none, none, none =>
    if c.isDigit then digitEscape flags c
    else return flags.codeNode (← literalEscape c)

/-! ## Sets -/

def setItem (flags : Flags) (token : Token) : Parse SetItem :=
  match token with
  | .plain c => return .code c.toNat
  | .escaped c => setEscape flags.ascii c

/-- The parts of a set up to its closing bracket, in reverse. `start` is the number of characters left at the opening
bracket; `fuel` is at least the number of characters left. -/
def setItems (flags : Flags) (start : Nat) : (fuel : Nat) → List SetItem → Parse (List SetItem)
  | 0, items => return items
  | fuel + 1, items => do
    match ← take with
    | none => failAt .unterminatedSet start
    | some low =>
      if low = .plain ']' && !items.isEmpty then return items
      else
        let item ← setItem flags low
        if ← accept '-' then
          match ← take with
          | none => failAt .unterminatedSet start
          | some high =>
            if high = .plain ']' then return .code 45 :: item :: items
            else
              let upper ← setItem flags high
              let width := low.text.length + 1 + high.text.length
              match item, upper with
              | .code a, .code b =>
                if b < a then fail (.range low.text high.text) width
                else setItems flags start fuel (.range a b :: items)
              | _, _ => fail (.range low.text high.text) width
        else setItems flags start fuel (item :: items)

/-- A set after its opening bracket. A set of one character is that character. -/
def characterSet (flags : Flags) (start : Nat) : Parse Node := do
  let negated ← accept '^'
  let items := (← setItems flags start ((← left) + 1) []).reverse.eraseDups
  let test : Test := match items with
    | [.code n] => if negated then .otherThan n else .code n
    | items => .set negated items
  return .single ⟨test, flags.letters⟩

/-! ## Repetition -/

structure Bounds where
  least : Nat
  most : Option Nat

def bound (ds : List Char) : Parse Nat := do
  if Numeral.maxDigits < ds.length then throw (.repeatDigits ds.length)
  let n := Numeral.digitsValue ds
  if maxRepeat ≤ n then throw .repeatTooLarge else return n

/-- The bounds in braces after the opening one; none if the braces do not hold bounds, and then nothing is taken. -/
def braces? : Parse (Option Bounds) := do
  if (← peek) = some (.plain '\x7d') then return none
  let start ← get
  let afterBrace ← left
  let low ← takeWhile Char.isDigit afterBrace
  let high ← if ← accept ',' then takeWhile Char.isDigit afterBrace else pure low
  if !(← accept '\x7d') then
    set start
    return none
  let least ← if low.isEmpty then pure 0 else bound low
  if high.isEmpty then return some ⟨least, none⟩
  let most ← bound high
  if most < least then failAt .repeatOrder afterBrace
  return some ⟨least, some most⟩

def bounds? (c : Char) : Parse (Option Bounds) :=
  match c with
  | '?' => return some ⟨0, some 1⟩
  | '*' => return some ⟨0, none⟩
  | '+' => return some ⟨1, none⟩
  | _ => braces?

def greed : Parse Greed := do
  if ← accept '?' then return .fewest
  else if ← accept '+' then return .all
  else return .most

/-- Puts the last item under a repetition. `start` is the number of characters left at its sign. -/
def repeatLast (start : Nat) (b : Bounds) : List Node → Parse (List Node)
  | [] | .anchor _ :: _ => failAt .nothingToRepeat start
  | .loop .. :: _ => failAt .repeatedRepeat start
  | item :: items => return .loop b.least b.most (← greed) item :: items

/-! ## Flags -/

def flagOf? (token : Token) : Option Char :=
  match token with
  | .plain c => if "iLmsxatu".toList.contains c then some c else none
  | .escaped _ => none

def failFlag {α : Type} (token : Token) (otherwise : String) : Parse α :=
  match token with
  | .plain c =>
    if Text.isLetter c then fail .unknownFlag 1 else fail (.missing otherwise) 1
  | .escaped _ => fail (.missing otherwise) 2

def flagsOn : (fuel : Nat) → Flags → Char → Parse (Flags × Char)
  | 0, on, c => return (on, c)
  | fuel + 1, on, c => do
    if c = 'L' then fail .localeFlag
    let flag := (Flags.ofLetter? c).getD {}
    let on := on.union flag
    if flag.isAlphabet && on.ascii && on.unicode then fail .typeFlags
    match ← take with
    | none => fail (.missing "-, : or )")
    | some token =>
      match token, flagOf? token with
      | .plain ')', _ | .plain '-', _ | .plain ':', _ =>
        return (on, if token = .plain ')' then ')' else if token = .plain '-' then '-' else ':')
      | _, some c => flagsOn fuel on c
      | token, none => failFlag token "-, : or )"

def flagsOff : (fuel : Nat) → Flags → Char → Parse Flags
  | 0, off, _ => return off
  | fuel + 1, off, c => do
    let flag := (Flags.ofLetter? c).getD {}
    if flag.isAlphabet || c = 'L' then fail .typeFlagOff
    let off := off.union flag
    match ← take with
    | none => fail (.missing ":")
    | some token =>
      match token, flagOf? token with
      | .plain ':', _ => return off
      | _, some c => flagsOff fuel off c
      | token, none => failFlag token ":"

inductive FlagGroup
  | whole (flags : Flags)
  | local (on off : Flags)

def flagGroup (c : Char) : Parse FlagGroup := do
  let fuel := (← left) + 1
  let (on, sign) ← if c = '-' then pure ({}, '-') else flagsOn fuel {} c
  if sign = ')' then return .whole on
  if on.template then fail .templateFlagOn 1
  let off ←
    if sign = '-' then
      match ← take with
      | none => fail (.missing "flag")
      | some token =>
        match flagOf? token with
        | some c => flagsOff fuel {} c
        | none => failFlag token "flag"
    else pure {}
  if off.template then fail .templateFlagOff 1
  if on.meets off then fail .flagOnAndOff 1
  return .local on off

/-! ## Groups -/

def checkName (name : String) : Parse Unit :=
  if Text.isIdentifier name.toList then return ()
  else fail (.groupName name) (name.length + 1)

def openGroup (name : Option String) : Parse Nat := do
  let p ← get
  let number := p.groups.length + 1
  match name with
  | none => modify fun p => { p with groups := p.groups ++ [none] }
  | some name =>
    match p.names.lookup name with
    | some old => fail (.groupRedefined name number old) (name.length + 1)
    | none =>
      modify fun p =>
        { p with groups := p.groups ++ [none], names := p.names ++ [(name, number)] }
  return number

def Progress.widthOf (p : Progress) (group : Nat) : Width :=
  ((p.groups[group - 1]?).bind id).getD (0, 0)

def closeGroup (number : Nat) (body : Node) : Parse Unit :=
  modify fun p => { p with groups := p.groups.set (number - 1) (some (body.width p.widthOf)) }

def namedReference (flags : Flags) : Parse Node := do
  let name ← name ')' "group name"
  checkName name
  let p ← get
  match p.names.lookup name with
  | none => fail (.noGroupNamed name) (name.length + 1)
  | some group =>
    if !isClosed p group then fail .openGroup (name.length + 1)
    checkBehind group
    return .reference group flags.letters

def conditionGroup : Parse Nat := do
  let name ← name ')' "group name"
  let group ←
    if Text.isIdentifier name.toList then
      match (← get).names.lookup name with
      | none => fail (.noGroupNamed name) (name.length + 1)
      | some group => pure group
    else
      match Numeral.integer name with
      | .error _ => fail (.groupName name) (name.length + 1)
      | .ok n =>
        if n < 0 then fail (.groupName name) (name.length + 1)
        else if n = 0 then fail .groupNumber (name.length + 1)
        else if (Nat.pow 2 31 : Int) - 1 ≤ n then fail (.noGroup n.toNat) (name.length + 1)
        else
          let place := (← left) + name.length + 1
          modify fun p => { p with mentions := p.mentions ++ [(n.toNat, place)] }
          pure n.toNat
  checkBehind group
  return group

def skipComment (start : Nat) : (fuel : Nat) → Parse Unit
  | 0 => failAt .unterminatedComment start
  | fuel + 1 => do
    if (← peek).isNone then failAt .unterminatedComment start
    if (← take) = some (.plain ')') then return ()
    else skipComment start fuel

def skipLine : (fuel : Nat) → Parse Unit
  | 0 => return ()
  | fuel + 1 => do
    match ← take with
    | none => return ()
    | some token => if token = .plain '\n' then return () else skipLine fuel

def isLayout (c : Char) : Bool := c = ' ' || (9 ≤ c.toNat && c.toNat ≤ 13)

inductive Opening
  | comment
  | reference (node : Node)
  | group (name : Option String)
  | bracket (on off : Flags)
  | atomic
  | look (isBehind negated : Bool)
  | condition (group : Nat)
  | flags (whole : Flags)

def opening (flags : Flags) (start : Nat) : Parse Opening := do
  if !(← accept '?') then return .group none
  match ← take with
  | none => fail .unexpectedEnd
  | some (.plain 'P') =>
    if ← accept '<' then
      let name ← name '>' "group name"
      checkName name
      return .group (some name)
    else if ← accept '=' then return .reference (← namedReference flags)
    else
      match ← take with
      | none => fail .unexpectedEnd
      | some token => fail (.unknownExtension ("?P" ++ token.text)) (token.text.length + 2)
  | some (.plain ':') => return .bracket {} {}
  | some (.plain '#') =>
    skipComment start ((← left) + 1)
    return .comment
  | some (.plain '=') => return .look false false
  | some (.plain '!') => return .look false true
  | some (.plain '<') =>
    match ← take with
    | none => fail .unexpectedEnd
    | some (.plain '=') => return .look true false
    | some (.plain '!') => return .look true true
    | some token => fail (.unknownExtension ("?<" ++ token.text)) (token.text.length + 2)
  | some (.plain '(') => return .condition (← conditionGroup)
  | some (.plain '>') => return .atomic
  | some token =>
    match token, flagOf? token with
    | .plain '-', _ =>
      match ← flagGroup '-' with
      | .whole whole => return .flags whole
      | .local on off => return .bracket on off
    | _, some c =>
      match ← flagGroup c with
      | .whole whole => return .flags whole
      | .local on off => return .bracket on off
    | token, none => fail (.unknownExtension ("?" ++ token.text)) (token.text.length + 1)

def closing (start : Nat) : Parse Unit := do
  if !(← accept ')') then failAt .unterminatedGroup start

mutual

def alternatives : (fuel : Nat) → Flags → Parse Node
  | 0, _ => return .empty
  | fuel + 1, flags => do
    let first ← items fuel flags []
    if ← accept '|' then return .alt first (← alternatives fuel flags)
    else return first

def items : (fuel : Nat) → Flags → List Node → Parse Node
  | 0, _, done => return Node.sequence done.reverse
  | fuel + 1, flags, done => do
    let start ← left
    match ← peek with
    | none | some (.plain '|') | some (.plain ')') => return Node.sequence done.reverse
    | some token =>
      skip
      match token with
      | .escaped c => items fuel flags ((← escape flags c) :: done)
      | .plain c =>
        if flags.verbose && isLayout c then items fuel flags done
        else if flags.verbose && c = '#' then
          skipLine ((← left) + 1)
          items fuel flags done
        else match c with
          | '[' => items fuel flags ((← characterSet flags start) :: done)
          | '.' =>
            let test : Test := if flags.dotAll then .any else .anyButNewline
            items fuel flags (.single ⟨test, .exact⟩ :: done)
          | '^' =>
            let a : Anchor := if flags.multiline then .lineStart else .textStart
            items fuel flags (.anchor a :: done)
          | '$' =>
            let a : Anchor := if flags.multiline then .lineEnd else .lastLineEnd
            items fuel flags (.anchor a :: done)
          | '?' | '*' | '+' | '\x7b' =>
            match ← bounds? c with
            | some b => items fuel flags (← repeatLast start b done)
            | none => items fuel flags (flags.codeNode c.toNat :: done)
          | '(' =>
            match ← opening flags start with
            | .comment => items fuel flags done
            | .reference node => items fuel flags (node :: done)
            | .flags _ => failAt .lateFlags start
            | .group name =>
              let number ← openGroup name
              let body ← alternatives fuel flags
              closing start
              closeGroup number body
              items fuel flags (.capture number body :: done)
            | .bracket on off =>
              let body ← alternatives fuel (flags.within on off)
              closing start
              items fuel flags (.bracket body :: done)
            | .atomic =>
              let body ← alternatives fuel flags
              closing start
              items fuel flags (.atomic body :: done)
            | .look isBehind negated =>
              let outer := (← get).behind
              if isBehind && outer.isNone then
                modify fun p => { p with behind := some (p.groups.length + 1) }
              let body ← alternatives fuel flags
              modify fun p => { p with behind := outer }
              closing start
              let p ← get
              let behind := if isBehind then some (body.width p.widthOf) else none
              items fuel flags (.look behind negated body :: done)
            | .condition group =>
              let yes ← items fuel flags []
              let no ←
                if ← accept '|' then
                  let no ← items fuel flags []
                  if (← peek) = some (.plain '|') then fail .thirdBranch
                  pure no
                else pure .empty
              closing start
              items fuel flags (.conditional group yes no :: done)
          | c => items fuel flags (flags.codeNode c.toNat :: done)

end

/-- The flags at the start of a pattern, which hold for all of it, with the layout and the comments between them. -/
def header : (fuel : Nat) → Flags → Parse Flags
  | 0, flags => return flags
  | fuel + 1, flags => do
    let before ← get
    let start ← left
    match ← peek with
    | some (.plain '(') =>
      skip
      if ← accept '?' then
        match ← take with
        | some (.plain '#') =>
          skipComment start ((← left) + 1)
          header fuel flags
        | some token =>
          match flagOf? token with
          | some c =>
            match ← flagGroup c with
            | .whole whole => header fuel (flags.union whole)
            | .local .. =>
              set before
              return flags
          | none =>
            set before
            return flags
        | none =>
          set before
          return flags
      else
        set before
        return flags
    | some (.plain c) =>
      if flags.verbose && isLayout c then
        skip
        header fuel flags
      else if flags.verbose && c = '#' then
        skip
        skipLine ((← left) + 1)
        header fuel flags
      else return flags
    | _ => return flags

structure Parsed where
  node : Node
  groups : Nat
  names : List (String × Nat)
deriving Repr

def whole (flags : Flags) : Parse Parsed := do
  checkEnd (← get).rest
  let length ← left
  let flags ← header (length + 1) flags
  let node ← alternatives (2 * length + 2) flags
  if flags.ascii && flags.unicode then throw .alphabets
  if (← peek).isSome then fail .unbalanced
  let p ← get
  match p.mentions.find? fun (group, _) => p.groups.length < group with
  | some (group, place) => failAt (.noGroup group) place
  | none =>
    match node.problem? flags.template with
    | some problem => throw (.nowhere problem)
    | none => return ⟨node, p.groups.length, p.names⟩

def parse (flags : Flags) (pattern : String) : Except Refusal Parsed :=
  match (whole flags).run { rest := pattern.toList } with
  | .ok (parsed, _) => .ok parsed
  | .error f => .error (f.locate pattern.toList)

end LogAnalysis.Pattern
