import LogAnalysis.Decimal.Reader
import LogAnalysis.Value.Basic

/-!
Reading JSON text. Besides the standard it takes `NaN`, `Infinity` and `-Infinity`, whole numbers of any size keep
all their digits, and of two members of one name the last counts.

A fault names the rest of the text at which it was found; `Fault.message` turns it into line, column and offset.
-/

namespace LogAnalysis.Json

inductive Problem
  | byteOrderMark
  | value
  | propertyName
  | colon
  | comma
  | extraData
  | unterminated
  | controlCharacter
  | escape
  | unicodeEscape
  | tooLong (digits : Nat)
  | tooDeep
deriving Repr, DecidableEq

structure Failure where
  problem : Problem
  rest : List Char

structure Fault where
  problem : Problem
  line : Nat
  column : Nat
  offset : Nat
deriving Repr, DecidableEq

namespace Problem

def text : Problem → String
  | byteOrderMark => "Unexpected UTF-8 BOM (decode using utf-8-sig)"
  | value => "Expecting value"
  | propertyName => "Expecting property name enclosed in double quotes"
  | colon => "Expecting ':' delimiter"
  | comma => "Expecting ',' delimiter"
  | extraData => "Extra data"
  | unterminated => "Unterminated string starting at"
  | controlCharacter => "Invalid control character at"
  | escape => "Invalid \\escape"
  | unicodeEscape => "Invalid \\uXXXX escape"
  | tooLong digits => (Numeral.IntegerFault.tooLong digits).message
  | tooDeep => ""

end Problem

def Fault.message (f : Fault) : String :=
  match f.problem with
  | .tooLong digits => (Numeral.IntegerFault.tooLong digits).message
  | problem => s!"{problem.text}: line {f.line} column {f.column} (char {f.offset})"

def Failure.locate (document : List Char) (f : Failure) : Fault :=
  let offset := document.length - f.rest.length
  let before := document.take offset
  let lastLine := (before.reverse.takeWhile (· != '\n')).length
  { problem := f.problem, line := before.count '\n' + 1, column := lastLine + 1, offset := offset }

/-! ## Parts -/

def isSpace (c : Char) : Bool := c == ' ' || c == '\t' || c == '\n' || c == '\r'

def skipSpace (cs : List Char) : List Char := cs.dropWhile isSpace

def hexValue? (c : Char) : Option Nat :=
  if '0' ≤ c ∧ c ≤ '9' then some (c.toNat - 48)
  else if 'a' ≤ c ∧ c ≤ 'f' then some (c.toNat - 87)
  else if 'A' ≤ c ∧ c ≤ 'F' then some (c.toNat - 55)
  else none

def hexNumber? (cs : List Char) : Option Nat :=
  cs.foldlM (fun n c => (hexValue? c).map (16 * n + ·)) 0

def simpleEscape? : Char → Option Char
  | '"' => some '"'
  | '\\' => some '\\'
  | '/' => some '/'
  | 'b' => some '\x08'
  | 'f' => some '\x0c'
  | 'n' => some '\n'
  | 'r' => some '\r'
  | 't' => some '\t'
  | _ => none

def unitChar (n : Nat) : Char := if 0xd800 ≤ n ∧ n < 0xe000 then '\ufffd' else Char.ofNat n

def isHighSurrogate (n : Nat) : Bool := 0xd800 ≤ n && n < 0xdc00

def isLowSurrogate (n : Nat) : Bool := 0xdc00 ≤ n && n < 0xe000

def push (c : Char) :
    Except Failure (List Char × List Char) → Except Failure (List Char × List Char)
  | .ok (cs, rest) => .ok (c :: cs, rest)
  | .error f => .error f

/-- The characters of a string up to the closing mark, and the text after it. `opening` is the text from the
opening mark on. -/
def readString (opening : List Char) : List Char → Except Failure (List Char × List Char)
  | [] => .error ⟨.unterminated, opening⟩
  | '"' :: rest => .ok ([], rest)
  | '\\' :: 'u' :: a :: b :: c :: d :: rest =>
    if rest.isEmpty then .error ⟨.unicodeEscape, 'u' :: a :: b :: c :: d :: rest⟩
    else match hexNumber? [a, b, c, d] with
      | none => .error ⟨.unicodeEscape, 'u' :: a :: b :: c :: d :: rest⟩
      | some high =>
        match rest with
        | '\\' :: 'u' :: e :: f :: g :: h :: after =>
          if isHighSurrogate high && !after.isEmpty then
            match hexNumber? [e, f, g, h] with
            | none => .error ⟨.unicodeEscape, 'u' :: e :: f :: g :: h :: after⟩
            | some low =>
              if isLowSurrogate low then
                push (Char.ofNat (0x10000 + (high - 0xd800) * 0x400 + (low - 0xdc00)))
                  (readString opening after)
              else push (unitChar high) (readString opening ('\\' :: 'u' :: e :: f :: g :: h :: after))
          else push (unitChar high) (readString opening ('\\' :: 'u' :: e :: f :: g :: h :: after))
        | tail => push (unitChar high) (readString opening tail)
  | '\\' :: 'u' :: rest => .error ⟨.unicodeEscape, 'u' :: rest⟩
  | '\\' :: c :: rest =>
    match simpleEscape? c with
    | some e => push e (readString opening rest)
    | none => .error ⟨.escape, '\\' :: c :: rest⟩
  | ['\\'] => .error ⟨.unterminated, opening⟩
  | c :: rest =>
    if c.toNat < 0x20 then .error ⟨.controlCharacter, c :: rest⟩
    else push c (readString opening rest)

def takePlaces (cs : List Char) : Option (List Char × List Char) :=
  match cs with
  | '.' :: r =>
    let places := r.takeWhile Char.isDigit
    if places.isEmpty then none else some (places, r.dropWhile Char.isDigit)
  | _ => none

def readNumber (cs : List Char) : Except Failure (Value × List Char) :=
  let (negative, body) := match cs with
    | '-' :: r => (true, r)
    | r => (false, r)
  let whole := match body with
    | '0' :: _ => ['0']
    | r => r.takeWhile Char.isDigit
  let afterWhole := body.drop whole.length
  if whole.isEmpty then .error ⟨.value, cs⟩
  else
    let (places, afterPlaces) := (takePlaces afterWhole).getD ([], afterWhole)
    let (power, rest) := Numeral.takeExponent afterPlaces
    if places.isEmpty && rest.length = afterPlaces.length then
      if Numeral.maxDigits < whole.length then .error ⟨.tooLong whole.length, cs⟩
      else
        let n := Numeral.digitsValue whole
        .ok (.int (if negative then -(n : Int) else n), rest)
    else
      let d : Decimal := ⟨Numeral.digitsValue (whole ++ places), power - places.length⟩
      .ok (.float (Numeral.signed negative (Numeral.toFloat d)), rest)

def wordValues : List (List Char × Value) := [
  ("null".toList, .null), ("true".toList, .bool true), ("false".toList, .bool false),
  ("NaN".toList, .float (0 / 0)), ("Infinity".toList, .float (1 / 0)),
  ("-Infinity".toList, .float (-(1 / 0)))]

def readAtom (cs : List Char) : Except Failure (Value × List Char) :=
  match wordValues.find? (·.1.isPrefixOf cs) with
  | some (word, v) => .ok (v, cs.drop word.length)
  | none => readNumber cs

/-! ## Values -/

mutual

def readValue : Nat → List Char → Except Failure (Value × List Char)
  | 0, cs => .error ⟨.tooDeep, cs⟩
  | fuel + 1, cs =>
    match cs with
    | [] => .error ⟨.value, []⟩
    | '"' :: rest => do
      let (s, rest) ← readString ('"' :: rest) rest
      .ok (.text (String.ofList s), rest)
    | '\x7b' :: rest =>
      match skipSpace rest with
      | '\x7d' :: rest => .ok (.object [], rest)
      | rest => do
        let (members, rest) ← readMembers fuel rest
        .ok (.object (Members.ofPairs members), rest)
    | '[' :: rest =>
      match skipSpace rest with
      | ']' :: rest => .ok (.list [], rest)
      | rest => do
        let (items, rest) ← readItems fuel rest
        .ok (.list items, rest)
    | cs => readAtom cs

def readItems : Nat → List Char → Except Failure (List Value × List Char)
  | 0, cs => .error ⟨.tooDeep, cs⟩
  | fuel + 1, cs => do
    let (v, rest) ← readValue fuel cs
    match skipSpace rest with
    | ']' :: rest => .ok ([v], rest)
    | ',' :: rest =>
      let (items, rest) ← readItems fuel (skipSpace rest)
      .ok (v :: items, rest)
    | rest => .error ⟨.comma, rest⟩

def readMembers : Nat → List Char → Except Failure (List (String × Value) × List Char)
  | 0, cs => .error ⟨.tooDeep, cs⟩
  | fuel + 1, cs =>
    match cs with
    | '"' :: rest => do
      let (name, rest) ← readString cs rest
      match skipSpace rest with
      | ':' :: rest =>
        let (v, rest) ← readValue fuel (skipSpace rest)
        match skipSpace rest with
        | '\x7d' :: rest => .ok ([(String.ofList name, v)], rest)
        | ',' :: rest =>
          let (members, rest) ← readMembers fuel (skipSpace rest)
          .ok ((String.ofList name, v) :: members, rest)
        | rest => .error ⟨.comma, rest⟩
      | rest => .error ⟨.colon, rest⟩
    | cs => .error ⟨.propertyName, cs⟩

end

def enough (cs : List Char) : Nat := 2 * cs.length + 2

def parse (s : String) : Except Fault Value :=
  let document := s.toList
  let result : Except Failure Value :=
    if document.head? = some '\ufeff' then .error ⟨.byteOrderMark, document⟩
    else do
      let (v, rest) ← readValue (enough document) (skipSpace document)
      match skipSpace rest with
      | [] => .ok v
      | rest => .error ⟨.extraData, rest⟩
  result.mapError (Failure.locate document)

end LogAnalysis.Json
