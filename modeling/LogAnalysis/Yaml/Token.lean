import LogAnalysis.Yaml.Scalar

/-!
Tokens of a YAML document.

Indentation and the keys of mappings make tokens of their own. A key is recognised only at the colon behind it,
so the scanner keeps the places at which a key may have begun (`Candidate`) and puts the tokens of a key there once the colon
is found.
-/

namespace LogAnalysis.Yaml

inductive Token
  | version (major : Nat)
  | tagHandle (handle expansion : String)
  | directive
  | documentStart
  | documentEnd
  | blockSequence
  | blockMapping
  | blockEnd
  | flowSequence
  | flowSequenceEnd
  | flowMapping
  | flowMappingEnd
  | blockEntry
  | flowEntry
  | key
  | value
  | alias (name : String)
  | anchor (name : String)
  | tag (handle : Option String) (suffix : String)
  | scalar (text : String) (plain : Bool)
deriving Repr, DecidableEq, Inhabited

structure Candidate where
  position : Nat
  required : Bool
  index : Nat
  line : Nat
  column : Nat
deriving Repr, Inhabited

/-- What is known after a part of the document: the tokens so far, the collections in brackets that are open, the
indentation of the open blocks, and the places at which a key may have begun, at most one for each level of brackets. -/
structure Scanner where
  cursor : Cursor
  tokens : Array Token := #[]
  depth : Nat := 0
  indent : Int := -1
  outer : List Int := []
  keyAllowed : Bool := true
  candidates : List (Nat × Candidate) := []
deriving Inhabited

namespace Scanner

def inFlow (s : Scanner) : Bool := s.depth != 0

def push (s : Scanner) (t : Token) : Scanner := { s with tokens := s.tokens.push t }

def skip (s : Scanner) (n : Nat) : Scanner := { s with cursor := s.cursor.skip n }

/-! ## Keys -/

def isStale (c : Cursor) (k : Candidate) : Bool := k.line ≠ c.line || 1024 < c.index - k.index

def dropStale (s : Scanner) : Reading Scanner :=
  let (stale, rest) := s.candidates.partition fun (_, k) => isStale s.cursor k
  -- A required key has to begin in time.
  if stale.any (·.2.required) then .error .malformed else .ok { s with candidates := rest }

def dropCandidate (s : Scanner) : Reading Scanner :=
  match s.candidates.lookup s.depth with
  | some k =>
    if k.required then .error .malformed
    else .ok { s with candidates := s.candidates.filter (·.1 ≠ s.depth) }
  | none => .ok s

def saveCandidate (s : Scanner) : Reading Scanner := do
  if !s.keyAllowed then return s
  let required := !s.inFlow && s.indent = s.cursor.column
  let s ← s.dropCandidate
  let k : Candidate := ⟨s.tokens.size, required, s.cursor.index, s.cursor.line, s.cursor.column⟩
  return { s with candidates := (s.depth, k) :: s.candidates }

/-! ## Indentation -/

def closeBlocks (column : Int) : (outer : List Int) → Scanner → Scanner
  | [], s => s
  | indent :: outer, s =>
    if column < s.indent then closeBlocks column outer { s.push .blockEnd with indent, outer } else s

def unwind (s : Scanner) (column : Int) : Scanner :=
  if s.inFlow then s else closeBlocks column s.outer s

/-- Opens a block at a column, with its token at a place among the others, unless one is open there. -/
def openBlock (s : Scanner) (column : Nat) (t : Token) (position : Nat) : Scanner :=
  if s.indent < column then
    { s with
      indent := column
      outer := s.indent :: s.outer
      tokens := s.tokens.insertIdxIfInBounds position t }
  else s

def openHere (s : Scanner) (t : Token) : Scanner := s.openBlock s.cursor.column t s.tokens.size

/-! ## Between tokens -/

def skipToToken : (fuel : Nat) → Scanner → Scanner
  | 0, s => s
  | fuel + 1, s =>
    let c := s.cursor.skipWhile (· = ' ')
    let c := if c.head? = some '#' then c.skipWhile (!isBreak ·) else c
    match c.takeBreak with
    | ([], c) => { s with cursor := c }
    | (_, c) => skipToToken fuel { s with cursor := c, keyAllowed := s.keyAllowed || !s.inFlow }

def skipMark (s : Scanner) : Scanner :=
  if s.cursor.index = 0 && s.cursor.head? = some '\ufeff' then s.skip 1 else s

/-! ## Names and tags -/

def isNameChar (c : Char) : Bool := c.isAlphanum || c = '-' || c = '_'

def isTagChar (c : Char) : Bool := c.isAlphanum || "-;/?:@&=+$,_.!~*'()[]".toList.contains c

def percentBytes : List Char → Reading (List UInt8 × List Char)
  | '%' :: a :: b :: rest => do
    match hexValue? a, hexValue? b with
    | some x, some y =>
      let (more, rest) ← percentBytes rest
      return ((16 * x + y).toUInt8 :: more, rest)
    | _, _ => .error .malformed
  | '%' :: _ => .error .malformed
  | rest => .ok ([], rest)

def tagText : (fuel : Nat) → List Char → Reading (List Char × List Char)
  | 0, cs => .ok ([], cs)
  | fuel + 1, cs => do
    match cs with
    | '%' :: _ =>
      let (bytes, rest) ← percentBytes cs
      match String.fromUTF8? bytes.toByteArray with
      | none => .error .malformed
      | some text =>
        let (more, rest) ← tagText fuel rest
        return (text.toList ++ more, rest)
    | c :: rest =>
      if isTagChar c then
        let (more, rest) ← tagText fuel rest
        return (c :: more, rest)
      else return ([], cs)
    | [] => return ([], [])

def tagTextAt (c : Cursor) : Reading (String × Cursor) := do
  let (text, rest) ← tagText (c.rest.length + 1) c.rest
  let c' := c.skip (c.rest.length - rest.length)
  if c'.index = c.index then .error .malformed else return (String.ofList text, c')

def tagHandleAt (c : Cursor) : Reading (String × Cursor) :=
  match c.rest with
  | '!' :: rest =>
    let name := rest.takeWhile isNameChar
    match rest.drop name.length with
    | '!' :: _ => .ok (String.ofList ('!' :: (name ++ ['!'])), c.skip (name.length + 2))
    | _ => if rest.head? = some ' ' then .ok ("!", c.skip 1) else .error .malformed
  | _ => .error .malformed

def nameAt (c : Cursor) : Reading (String × Cursor) :=
  let name := c.next.rest.takeWhile isNameChar
  let c := c.next.skip name.length
  if name.isEmpty then .error .malformed
  else if startsBlank c.rest || c.headIs ("?:,]\x7d%@\x60".toList.contains ·) then
    .ok (String.ofList name, c)
  else .error .malformed

def hasHandle (cs : List Char) : Bool := (cs.takeWhile fun c => !(c = ' ' || isBreak c)).contains '!'

def tagAt (c : Cursor) : Reading (Token × Cursor) := do
  let (t, c) ←
    if c.next.head? = some '<' then
      let (suffix, c) ← tagTextAt (c.skip 2)
      if c.head? = some '>' then pure (Token.tag none suffix, c.next) else .error .malformed
    else if startsBlank c.next.rest then pure (Token.tag none "!", c.next)
    else if hasHandle c.next.rest then
      let (handle, c) ← tagHandleAt c
      let (suffix, c) ← tagTextAt c
      pure (Token.tag (some handle) suffix, c)
    else
      let (suffix, c) ← tagTextAt c.next
      pure (Token.tag (some "!") suffix, c)
  if startsSpace c.rest then return (t, c) else .error .malformed

/-! ## Directives -/

def digitsAt (c : Cursor) : Reading (Nat × Cursor) :=
  let ds := c.rest.takeWhile Char.isDigit
  if ds.isEmpty then .error .malformed else .ok (Numeral.digitsValue ds, c.skip ds.length)

def directiveAt (c : Cursor) : Reading (Token × Cursor) := do
  let c := c.next
  let name := c.rest.takeWhile isNameChar
  let c := c.skip name.length
  if name.isEmpty || !startsSpace c.rest then .error .malformed
  let (t, c) ← match String.ofList name with
    | "YAML" =>
      let (major, c) ← digitsAt (c.skipWhile (· = ' '))
      if c.head? ≠ some '.' then .error .malformed
      let (_, c) ← digitsAt c.next
      if startsSpace c.rest then pure (Token.version major, c) else .error .malformed
    | "TAG" =>
      let (handle, c) ← tagHandleAt (c.skipWhile (· = ' '))
      if c.head? ≠ some ' ' then .error .malformed
      let (expansion, c) ← tagTextAt (c.skipWhile (· = ' '))
      if startsSpace c.rest then pure (Token.tagHandle handle expansion, c) else .error .malformed
    | _ => pure (Token.directive, c.skipWhile (!isBreak ·))
  return (t, ← ignoredLine c)

/-! ## Tokens -/

def endContent (s : Scanner) : Reading Scanner := do
  let s ← (s.unwind (-1)).dropCandidate
  return { s with keyAllowed := false }

def takeMark (s : Scanner) (t : Token) : Reading Scanner := do
  return ((← s.endContent).push t).skip 3

def takeOpening (s : Scanner) (t : Token) : Reading Scanner := do
  let s ← s.saveCandidate
  return ({ s with depth := s.depth + 1, keyAllowed := true }.push t).skip 1

def takeClosing (s : Scanner) (t : Token) : Reading Scanner := do
  if s.depth = 0 then .error .malformed
  let s ← s.dropCandidate
  return ({ s with depth := s.depth - 1, keyAllowed := false }.push t).skip 1

def takeFlowEntry (s : Scanner) : Reading Scanner := do
  let s ← { s with keyAllowed := true }.dropCandidate
  return (s.push .flowEntry).skip 1

def takeBlockSign (s : Scanner) (block t : Token) (keyAllowed : Bool) : Reading Scanner := do
  if !s.inFlow && !s.keyAllowed then .error .malformed
  let s := if s.inFlow then s else s.openHere block
  let s ← { s with keyAllowed }.dropCandidate
  return (s.push t).skip 1

def takeValue (s : Scanner) : Reading Scanner := do
  match s.candidates.lookup s.depth with
  | some k =>
    -- A key may have begun at this level, and so it did.
    let s := { s with
      candidates := s.candidates.filter (·.1 ≠ s.depth)
      tokens := s.tokens.insertIdxIfInBounds k.position .key
      keyAllowed := false }
    let s := if s.inFlow then s else s.openBlock k.column .blockMapping k.position
    return (s.push .value).skip 1
  | none =>
    if !s.inFlow && !s.keyAllowed then .error .malformed
    let s := if s.inFlow then s else s.openHere .blockMapping
    let s ← { s with keyAllowed := !s.inFlow }.dropCandidate
    return (s.push .value).skip 1

def takeContent (s : Scanner) (read : Cursor → Reading (Token × Cursor)) : Reading Scanner := do
  let s ← s.saveCandidate
  let (t, cursor) ← read s.cursor
  return { s with cursor, keyAllowed := false }.push t

def takePlain (s : Scanner) : Reading Scanner := do
  let s ← s.saveCandidate
  let (text, broken, cursor) := plainScalar s.inFlow s.indent s.cursor
  return { s with cursor, keyAllowed := broken }.push (.scalar (String.ofList text) true)

def takeBlock (s : Scanner) (folded : Bool) : Reading Scanner := do
  let s ← { s with keyAllowed := true }.dropCandidate
  let (text, cursor) ← blockScalar folded s.indent s.cursor
  return { s with cursor }.push (.scalar (String.ofList text) false)

def startsPlain (s : Scanner) (c : Char) (rest : List Char) : Bool :=
  !(isWhite c || isBreak c || "-?:,[]\x7b\x7d#&*!|>'\"%@\x60".toList.contains c) ||
    (!startsBlank rest && (c = '-' || (!s.inFlow && (c = '?' || c = ':'))))

def takeToken (s : Scanner) (c : Char) (rest : List Char) : Reading Scanner :=
  let atStart := s.cursor.column = 0
  let text := fun (r : Reading (List Char × Cursor)) =>
    r.map fun (cs, cursor) => (Token.scalar (String.ofList cs) false, cursor)
  if c = '%' && atStart then do
    let s ← s.endContent
    let (t, cursor) ← directiveAt s.cursor
    return { s with cursor }.push t
  else if atStart && startsMark "---" (c :: rest) then s.takeMark .documentStart
  else if atStart && startsMark "..." (c :: rest) then s.takeMark .documentEnd
  else if c = '[' then s.takeOpening .flowSequence
  else if c = '\x7b' then s.takeOpening .flowMapping
  else if c = ']' then s.takeClosing .flowSequenceEnd
  else if c = '\x7d' then s.takeClosing .flowMappingEnd
  else if c = ',' then s.takeFlowEntry
  else if c = '-' && startsBlank rest then s.takeBlockSign .blockSequence .blockEntry true
  else if c = '?' && (s.inFlow || startsBlank rest) then
    s.takeBlockSign .blockMapping .key (!s.inFlow)
  else if c = ':' && (s.inFlow || startsBlank rest) then s.takeValue
  else if c = '*' then s.takeContent fun c => (nameAt c).map fun (name, c) => (.alias name, c)
  else if c = '&' then s.takeContent fun c => (nameAt c).map fun (name, c) => (.anchor name, c)
  else if c = '!' then s.takeContent tagAt
  else if c = '|' && !s.inFlow then s.takeBlock false
  else if c = '>' && !s.inFlow then s.takeBlock true
  else if c = '\'' then s.takeContent fun c => text (quotedScalar false c)
  else if c = '"' then s.takeContent fun c => text (quotedScalar true c)
  else if s.startsPlain c rest then s.takePlain
  else .error .malformed

def run : (fuel : Nat) → Scanner → Reading (List Token)
  | 0, _ => .error .malformed
  | fuel + 1, s => do
    let s := (s.skipMark).skipToToken (s.cursor.rest.length + 1)
    let s ← s.dropStale
    let s := s.unwind s.cursor.column
    match s.cursor.rest with
    | [] => return (← s.endContent).tokens.toList
    | c :: rest => run fuel (← s.takeToken c rest)

end Scanner

def tokens (cs : List Char) : Reading (List Token) :=
  if cs.all isAllowed then Scanner.run (cs.length + 2) { cursor := { rest := cs } } else .error .malformed

end LogAnalysis.Yaml
