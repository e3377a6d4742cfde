/-!
Bytes written as letters, digits and two signs, each of which stands for six bits.
-/

namespace LogAnalysis.Text.Base64

def bits? (c : Char) : Option Nat :=
  if 'A' ≤ c && c ≤ 'Z' then some (c.toNat - 'A'.toNat)
  else if 'a' ≤ c && c ≤ 'z' then some (c.toNat - 'a'.toNat + 26)
  else if c.isDigit then some (c.toNat - '0'.toNat + 52)
  else if c = '+' then some 62
  else if c = '/' then some 63
  else none

/-- The bits that are left over from the characters so far: how many of the four characters of a group were read, the
bits of the last one, and how many signs for missing characters came after it. -/
structure State where
  place : Nat := 0
  bits : Nat := 0
  missing : Nat := 0
deriving Repr, Inhabited

def decodeFrom (s : State) : List Char → Option (List UInt8)
  | [] => if s.place = 0 then some [] else none
  | c :: rest =>
    if c = '=' then
      if 2 ≤ s.place then
        if 4 ≤ s.place + s.missing + 1 then some []
        else decodeFrom { s with missing := s.missing + 1 } rest
      else decodeFrom s rest
    else
      match bits? c with
      | none => decodeFrom s rest
      | some n =>
        match s.place with
        | 0 => decodeFrom ⟨1, n, 0⟩ rest
        | 1 => (decodeFrom ⟨2, n % 16, 0⟩ rest).map ((s.bits * 4 + n / 16).toUInt8 :: ·)
        | 2 => (decodeFrom ⟨3, n % 4, 0⟩ rest).map ((s.bits * 16 + n / 4).toUInt8 :: ·)
        | _ => (decodeFrom ⟨0, 0, 0⟩ rest).map ((s.bits * 64 + n).toUInt8 :: ·)

def decode? (cs : List Char) : Option (List UInt8) := decodeFrom {} cs

end LogAnalysis.Text.Base64
