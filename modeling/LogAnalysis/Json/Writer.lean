import LogAnalysis.Decimal.Notation
import LogAnalysis.Text.Quoted
import LogAnalysis.Value.Basic

/-!
Writing JSON text in ASCII: on one line with chosen separators, or over several lines with an indentation.
-/

namespace LogAnalysis.Json

def units (c : Char) : List Nat :=
  if c.toNat < 0x10000 then [c.toNat]
  else
    let n := c.toNat - 0x10000
    [0xd800 + n / 0x400, 0xdc00 + n % 0x400]

def escape (c : Char) : List Char :=
  if c = '"' then ['\\', '"']
  else if c = '\\' then ['\\', '\\']
  else if c = '\n' then ['\\', 'n']
  else if c = '\r' then ['\\', 'r']
  else if c = '\t' then ['\\', 't']
  else if c = '\x0c' then ['\\', 'f']
  else if c = '\x08' then ['\\', 'b']
  else if 0x20 ≤ c.toNat ∧ c.toNat < 0x7f then [c]
  else (units c).flatMap fun u => '\\' :: 'u' :: Text.hexDigits 4 u

def writeString (s : String) : String :=
  String.ofList ('"' :: (s.toList.flatMap escape ++ ['"']))

def writeFloat (x : Float) : String :=
  match decode x with
  | .notANumber => "NaN"
  | .infinite negative => if negative then "-Infinity" else "Infinity"
  | .finite _ _ => Decimal.shortestText x

structure Layout where
  indent : Option Nat
  itemSeparator : String
  nameSeparator : String

def spaced : Layout := ⟨none, ", ", ": "⟩

def compact : Layout := ⟨none, ",", ":"⟩

def indented : Layout := ⟨some 2, ",", ": "⟩

def Layout.lineBreak (layout : Layout) (level : Nat) : String :=
  match layout.indent with
  | none => ""
  | some width => String.ofList ('\n' :: List.replicate (width * level) ' ')

def Layout.enclose (layout : Layout) (level : Nat) (opening closing : String) (parts : List String) :
    String :=
  match parts with
  | [] => opening ++ closing
  | parts =>
    let inner := layout.lineBreak (level + 1)
    opening ++ inner ++ String.intercalate (layout.itemSeparator ++ inner) parts ++
      layout.lineBreak level ++ closing

mutual

def writeAt (layout : Layout) (level : Nat) : Value → String
  | .null => "null"
  | .bool b => if b then "true" else "false"
  | .int n => toString n
  | .float x => writeFloat x
  | .text s => writeString s
  | .list items => layout.enclose level "[" "]" (writeItems layout (level + 1) items)
  | .object members =>
    layout.enclose level "\x7b" "\x7d" (writeMembers layout (level + 1) members)

def writeItems (layout : Layout) (level : Nat) : List Value → List String
  | [] => []
  | v :: rest => writeAt layout level v :: writeItems layout level rest

def writeMembers (layout : Layout) (level : Nat) : List (String × Value) → List String
  | [] => []
  | (k, v) :: rest =>
    (writeString k ++ layout.nameSeparator ++ writeAt layout level v) ::
      writeMembers layout level rest

end

def write (layout : Layout) (v : Value) : String := writeAt layout 0 v

mutual

def sorted : Value → Value
  | .list items => .list (sortedItems items)
  | .object members => .object ((sortedMembers members).mergeSort fun a b => a.1 ≤ b.1)
  | v => v

def sortedItems : List Value → List Value
  | [] => []
  | v :: rest => sorted v :: sortedItems rest

def sortedMembers : List (String × Value) → List (String × Value)
  | [] => []
  | (k, v) :: rest => (k, sorted v) :: sortedMembers rest

end

end LogAnalysis.Json
