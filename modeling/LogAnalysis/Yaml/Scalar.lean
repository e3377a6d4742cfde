import LogAnalysis.Yaml.Cursor

/-!
Scalars of a YAML document: plain, in quotation marks, and in blocks of lines.

In all of them a single line break stands for a space and further ones for themselves, apart from blocks that keep their
lines.
-/

namespace LogAnalysis.Yaml

def foldedBreak (lineBreak breaks : List Char) : List Char :=
  (if lineBreak ≠ ['\n'] then lineBreak else if breaks.isEmpty then [' '] else []) ++ breaks

/-! ## Plain scalars -/

def isFlowSign (c : Char) : Bool := c = ',' || c = '[' || c = ']' || c = '\x7b' || c = '\x7d'

def plainRun (inFlow : Bool) : List Char → List Char
  | [] => []
  | c :: rest =>
    if isWhite c || isBreak c then []
    else if c = ':' && (startsBlank rest || (inFlow && rest.head?.any isFlowSign)) then []
    else if inFlow && (c = '?' || isFlowSign c) then []
    else c :: plainRun inFlow rest

def plainBreaks : (fuel : Nat) → Cursor → Option (List Char) × Cursor
  | 0, c => (some [], c)
  | fuel + 1, c =>
    if c.headIs (· = ' ') then plainBreaks fuel c.next
    else match c.takeBreak with
      | ([], c) => (some [], c)
      | (b, c) =>
        if startsSeparator c.rest then (none, c)
        else
          let (more, c) := plainBreaks fuel c
          (more.map (b ++ ·), c)

def plainSpaces (c : Cursor) : List Char × Bool × Cursor :=
  let spaces := c.rest.takeWhile (· = ' ')
  match (c.skip spaces.length).takeBreak with
  | ([], c) => (spaces, false, c)
  | (b, c) =>
    -- Nothing is left of the white space before a mark between documents.
    if startsSeparator c.rest then ([], true, c)
    else match plainBreaks (c.rest.length + 1) c with
      | (none, c) => ([], true, c)
      | (some breaks, c) => (foldedBreak b breaks, true, c)

/-- The rest of a plain scalar after some text and the white space that follows it. The answer tells also whether the
scalar was followed by a line break. -/
def plainFrom (inFlow : Bool) (indent : Int) :
    (fuel : Nat) → (text spaces : List Char) → (broken : Bool) → Cursor → List Char × Bool × Cursor
  | 0, text, _, broken, c => (text, broken, c)
  | fuel + 1, text, spaces, broken, c =>
    match c.head?, plainRun inFlow c.rest with
    | some '#', _ | _, [] => (text, broken, c)
    | _, run =>
      let text := text ++ spaces ++ run
      let (spaces, broken, c) := plainSpaces (c.skip run.length)
      if spaces.isEmpty || c.head? = some '#' || (!inFlow && (c.column : Int) < indent) then
        (text, broken, c)
      else plainFrom inFlow indent fuel text spaces broken c

def plainScalar (inFlow : Bool) (indent : Int) (c : Cursor) : List Char × Bool × Cursor :=
  plainFrom inFlow (indent + 1) (c.rest.length + 1) [] [] false c

/-! ## Scalars in quotation marks -/

def escapes : List (Char × Char) :=
  [('0', '\x00'), ('a', '\x07'), ('b', '\x08'), ('t', '\t'), ('\t', '\t'), ('n', '\n'), ('v', '\x0b'),
    ('f', '\x0c'), ('r', '\r'), ('e', '\x1b'), (' ', ' '), ('"', '"'), ('\\', '\\'), ('/', '/'),
    ('N', '\x85'), ('_', '\xa0'), ('L', '\u2028'), ('P', '\u2029')]

def escapeDigits? : Char → Option Nat
  | 'x' => some 2
  | 'u' => some 4
  | 'U' => some 8
  | _ => none

def hexValue? (c : Char) : Option Nat :=
  if '0' ≤ c && c ≤ '9' then some (c.toNat - '0'.toNat)
  else if 'a' ≤ c && c ≤ 'f' then some (c.toNat - 'a'.toNat + 10)
  else if 'A' ≤ c && c ≤ 'F' then some (c.toNat - 'A'.toNat + 10)
  else none

def hexNumber? (count : Nat) (cs : List Char) : Option Nat :=
  if cs.length < count then none
  else (cs.take count).foldlM (fun n c => (hexValue? c).map (16 * n + ·)) 0

def character (n : Nat) : Reading Char :=
  if Nat.pow 2 31 ≤ n then .error (.refused .tooLarge)
  else if 0x10ffff < n then
    .error (.refused (.unacceptable (.scalar "chr() arg not in range(0x110000)")))
  -- Half of a pair of code units.
  else if 0xd800 ≤ n && n ≤ 0xdfff then .ok '\ufffd'
  else .ok (Char.ofNat n)

def quotedBreaks : (fuel : Nat) → Cursor → Reading (List Char × Cursor)
  | 0, c => .ok ([], c)
  | fuel + 1, c =>
    -- A mark between documents may not stand at the start of a line.
    if startsSeparator c.rest then .error .malformed
    else match (c.skipWhile isWhite).takeBreak with
      | ([], c) => .ok ([], c)
      | (b, c) => do
        let (more, c) ← quotedBreaks fuel c
        return (b ++ more, c)

def quotedSpaces (c : Cursor) : Reading (List Char × Cursor) := do
  let spaces := c.rest.takeWhile isWhite
  let c := c.skip spaces.length
  if c.atEnd then .error .malformed
  match c.takeBreak with
  | ([], c) => return (spaces, c)
  | (b, c) =>
    let (breaks, c) ← quotedBreaks (c.rest.length + 1) c
    return (foldedBreak b breaks, c)

def escapeAt (c : Cursor) : Reading (List Char × Cursor) := do
  let c := c.next
  match c.head? with
  | none => .error .malformed
  | some ch =>
    match escapes.lookup ch, escapeDigits? ch with
    | some meant, _ => return ([meant], c.next)
    | none, some count =>
      match hexNumber? count c.next.rest with
      | none => .error .malformed
      | some n => return ([← character n], c.next.skip count)
    | none, none =>
      if isBreak ch then
        let c := c.takeBreak.2
        quotedBreaks (c.rest.length + 1) c
      else .error .malformed

def isQuotedPlain (c : Char) : Bool :=
  !(c = '\'' || c = '"' || c = '\\' || isWhite c || isBreak c)

def quotedRun (double : Bool) : (fuel : Nat) → Cursor → Reading (List Char × Cursor)
  | 0, c => .ok ([], c)
  | fuel + 1, c => do
    let run := c.rest.takeWhile isQuotedPlain
    let c := c.skip run.length
    let piece : Option (List Char × Cursor) ← match c.rest with
      | '\'' :: more =>
        if double then pure (some (['\''], c.next))
        else if more.head? = some '\'' then pure (some (['\''], c.skip 2))
        else pure none
      | '"' :: _ => pure (if double then none else some (['"'], c.next))
      | '\\' :: _ => if double then some <$> escapeAt c else pure (some (['\\'], c.next))
      | _ => pure none
    match piece with
    | none => return (run, c)
    | some (text, c) =>
      let (more, c) ← quotedRun double fuel c
      return (run ++ text ++ more, c)

def quotedFrom (double : Bool) : (fuel : Nat) → (text : List Char) → Cursor → Reading (List Char × Cursor)
  | 0, _, _ => .error .malformed
  | fuel + 1, text, c => do
    if c.head? = some (if double then '"' else '\'') then return (text, c.next)
    else
      let (spaces, c) ← quotedSpaces c
      let (run, c) ← quotedRun double (c.rest.length + 1) c
      quotedFrom double fuel (text ++ spaces ++ run) c

def quotedScalar (double : Bool) (c : Cursor) : Reading (List Char × Cursor) := do
  let c := c.next
  let (run, c) ← quotedRun double (c.rest.length + 1) c
  quotedFrom double (c.rest.length + 1) run c

/-! ## Blocks of lines -/

inductive Chomping
  | strip
  | clip
  | keep
deriving Repr, DecidableEq

def chompingAt (c : Cursor) : Option Chomping × Cursor :=
  match c.head? with
  | some '+' => (some .keep, c.next)
  | some '-' => (some .strip, c.next)
  | _ => (none, c)

def incrementAt (c : Cursor) : Reading (Option Nat × Cursor) :=
  match c.head? with
  | some ch =>
    if '1' ≤ ch && ch ≤ '9' then .ok (some (ch.toNat - '0'.toNat), c.next)
    else if ch = '0' then .error .malformed
    else .ok (none, c)
  | none => .ok (none, c)

def blockHeader (c : Cursor) : Reading (Chomping × Option Nat × Cursor) := do
  let (first, c) := chompingAt c
  let (increment, c) ← incrementAt c
  let (second, c) := if first.isNone && increment.isSome then chompingAt c else (none, c)
  if startsSpace c.rest then return ((first.or second).getD .clip, increment, c)
  else .error .malformed

def ignoredLine (c : Cursor) : Reading Cursor :=
  let c := c.skipWhile (· = ' ')
  let c := if c.head? = some '#' then c.skipWhile (!isBreak ·) else c
  if startsBreak c.rest then .ok c.takeBreak.2 else .error .malformed

def blockIndentation : (fuel : Nat) → (deepest : Nat) → Cursor → List Char × Nat × Cursor
  | 0, deepest, c => ([], deepest, c)
  | fuel + 1, deepest, c =>
    if c.headIs (· = ' ') then blockIndentation fuel (max deepest c.next.column) c.next
    else match c.takeBreak with
      | ([], c) => ([], deepest, c)
      | (b, c) =>
        let (more, deepest, c) := blockIndentation fuel deepest c
        (b ++ more, deepest, c)

def skipIndent (indent : Nat) (c : Cursor) : Cursor :=
  c.skip (min (indent - c.column) (c.rest.takeWhile (· = ' ')).length)

def blockBreaks (indent : Nat) : (fuel : Nat) → Cursor → List Char × Cursor
  | 0, c => ([], c)
  | fuel + 1, c =>
    match (skipIndent indent c).takeBreak with
    | ([], c) => ([], c)
    | (b, c) =>
      let (more, c) := blockBreaks indent fuel c
      (b ++ more, c)

/-- The lines of a block after some text and the line breaks that follow it: their text, the break of the last line, and
the breaks after that. -/
def blockLines (folded : Bool) (indent : Nat) :
    (fuel : Nat) → (text breaks : List Char) → Cursor → List Char × List Char × List Char × Cursor
  | 0, text, breaks, c => (text, [], breaks, c)
  | fuel + 1, text, breaks, c =>
    if c.column ≠ indent || c.atEnd then (text, [], breaks, c)
    else
      let spaced := c.headIs isWhite
      let line := c.rest.takeWhile (!isBreak ·)
      let text := text ++ breaks ++ line
      let (lineBreak, c) := (c.skip line.length).takeBreak
      let (breaks, c) := blockBreaks indent (c.rest.length + 1) c
      if c.column ≠ indent || c.atEnd then (text, lineBreak, breaks, c)
      else
        let joint :=
          if folded && lineBreak = ['\n'] && !spaced && !c.headIs isWhite then
            if breaks.isEmpty then [' '] else []
          else lineBreak
        blockLines folded indent fuel (text ++ joint) breaks c

def blockScalar (folded : Bool) (indent : Int) (c : Cursor) : Reading (List Char × Cursor) := do
  let (chomping, increment, c) ← blockHeader c.next
  let c ← ignoredLine c
  let least := (max 1 (indent + 1)).toNat
  let enough := c.rest.length + 1
  let (breaks, indent, c) :=
    match increment with
    | none =>
      let (breaks, deepest, c) := blockIndentation enough 0 c
      (breaks, max least deepest, c)
    | some n =>
      let (breaks, c) := blockBreaks (least + n - 1) enough c
      (breaks, least + n - 1, c)
  let (text, lineBreak, breaks, c) := blockLines folded indent enough [] breaks c
  return (match chomping with
    | .strip => text
    | .clip => text ++ lineBreak
    | .keep => text ++ lineBreak ++ breaks, c)

end LogAnalysis.Yaml
