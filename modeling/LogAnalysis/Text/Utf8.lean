import LogAnalysis.Text.Quoted

/-!
Texts as bytes. `decode` reads any bytes, with a replacement character for each longest part that begins a character and
does not go on as one; `decode?` refuses such bytes and says where they are.
-/

namespace LogAnalysis.Text.Utf8

def following : Nat × Nat := (0x80, 0xbf)

/-- The ranges of the bytes that have to follow a first byte; a byte that begins no character has none. -/
def owedAfter? (b : Nat) : Option (List (Nat × Nat)) :=
  if b < 0x80 then some []
  else if 0xc2 ≤ b ∧ b ≤ 0xdf then some [following]
  else if b = 0xe0 then some [(0xa0, 0xbf), following]
  else if b = 0xed then some [(0x80, 0x9f), following]
  else if 0xe1 ≤ b ∧ b ≤ 0xef then some [following, following]
  else if b = 0xf0 then some [(0x90, 0xbf), following, following]
  else if b = 0xf4 then some [(0x80, 0x8f), following, following]
  else if 0xf1 ≤ b ∧ b ≤ 0xf3 then some [following, following, following]
  else none

def firstBits (b following : Nat) : Nat := if following = 0 then b else b % Nat.pow 2 (6 - following)

/-- The bytes of a character that has begun, their bits, and the ranges of those that have to follow. Between characters
there are none. -/
structure Begun where
  bytes : List Nat := []
  bits : Nat := 0
  owed : List (Nat × Nat) := []
deriving Repr, Inhabited

inductive Step
  | character (c : Char)
  | more (begun : Begun)
  | stray
deriving Repr, Inhabited

def start (b : Nat) : Step :=
  match owedAfter? b with
  | none => .stray
  | some [] => .character (Char.ofNat b)
  | some owed => .more ⟨[b], firstBits b owed.length, owed⟩

def Begun.add? (s : Begun) (b : Nat) : Option Step :=
  match s.owed with
  | [] => none
  | (low, high) :: owed =>
    if low ≤ b ∧ b ≤ high then
      let bits := 64 * s.bits + b % 64
      some (if owed.isEmpty then .character (Char.ofNat bits) else .more ⟨s.bytes ++ [b], bits, owed⟩)
    else none

structure Decoder where
  text : Array Char := #[]
  begun : Option Begun := none
deriving Inhabited

namespace Decoder

def add (d : Decoder) : Step → Decoder
  | .character c => ⟨d.text.push c, none⟩
  | .more begun => ⟨d.text, some begun⟩
  | .stray => ⟨d.text.push '\ufffd', none⟩

def take (d : Decoder) (b : UInt8) : Decoder :=
  match d.begun with
  | none => d.add (start b.toNat)
  | some begun =>
    match begun.add? b.toNat with
    | some step => d.add step
    | none => add ⟨d.text.push '\ufffd', none⟩ (start b.toNat)

def finish (d : Decoder) : Array Char := if d.begun.isSome then d.text.push '\ufffd' else d.text

end Decoder

def decode (bytes : List UInt8) : List Char := (bytes.foldl Decoder.take {}).finish.toList

inductive Problem
  | start
  | continuation
  | incomplete
deriving Repr, DecidableEq

structure Fault where
  position : Nat
  bytes : List Nat
  problem : Problem
deriving Repr, DecidableEq

def Fault.message (f : Fault) : String :=
  let problem := match f.problem with
    | .start => "invalid start byte"
    | .continuation => "invalid continuation byte"
    | .incomplete => "unexpected end of data"
  let place := match f.bytes with
    | [b] => s!"byte 0x{String.ofList (hexDigits 2 b)} in position {f.position}"
    | bytes => s!"bytes in position {f.position}-{f.position + bytes.length - 1}"
  s!"'utf-8' codec can't decode {place}: {problem}"

def fault? (position : Nat) (begun : Option Begun) : List UInt8 → Option Fault
  -- Told as if the text began with the character that is cut off.
  | [] => begun.map fun s => ⟨0, s.bytes, .incomplete⟩
  | b :: rest =>
    match begun with
    | none =>
      match start b.toNat with
      | .character _ => fault? (position + 1) none rest
      | .more begun => fault? (position + 1) (some begun) rest
      | .stray => some ⟨position, [b.toNat], .start⟩
    | some s =>
      match s.add? b.toNat with
      | some (.more begun) => fault? (position + 1) (some begun) rest
      | some _ => fault? (position + 1) none rest
      | none => some ⟨position - s.bytes.length, s.bytes, .continuation⟩

def decode? (bytes : List UInt8) : Except Fault (List Char) :=
  match fault? 0 none bytes with
  | some fault => .error fault
  | none => .ok (decode bytes)

end LogAnalysis.Text.Utf8
