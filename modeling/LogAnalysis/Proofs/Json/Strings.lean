import LogAnalysis.Json.Reader
import LogAnalysis.Json.Writer
import Mathlib.Algebra.Group.Nat.Defs

/-!
# Strings in JSON text

A written string reads back as itself, whatever its characters are (`Json.readString_written`).
-/

namespace LogAnalysis.Json

open Text (hexDigit hexDigits)

/-! ## Code units -/

theorem hexValue?_hexDigit {n : Nat} (small : n < 16) : hexValue? (hexDigit n) = some n := by
  have table : ∀ n < 16, hexValue? (hexDigit n) = some n := by decide
  exact table n small

theorem hexNumber?_hexDigits (width : Nat) {n : Nat} (small : n < 16 ^ width) :
    hexNumber? (hexDigits width n) = some n := by
  induction width generalizing n with
  | zero => exact congrArg some (Nat.lt_one_iff.mp small).symm
  | succ width ih =>
      have before : hexNumber? (hexDigits width (n / 16)) = some (n / 16) :=
        ih (Nat.div_lt_of_lt_mul (by rwa [Nat.pow_succ, Nat.mul_comm] at small))
      unfold hexNumber? at before ⊢
      rw [hexDigits, List.foldlM_append, before]
      show (hexValue? (hexDigit (n % 16))).map (16 * (n / 16) + ·) >>= pure = some n
      rw [hexValue?_hexDigit (Nat.mod_lt n (by decide))]
      exact congrArg some (Nat.div_add_mod n 16)

theorem hexDigits_four (n : Nat) : ∃ a b c d, hexDigits 4 n = [a, b, c, d] := ⟨_, _, _, _, rfl⟩

variable {opening tail : List Char}

theorem readString_unit {n : Nat} (small : n < 0x10000) (single : n < 0xd800 ∨ 0xe000 ≤ n) (more : tail ≠ []) :
    readString opening ('\\' :: 'u' :: hexDigits 4 n ++ tail) = push (Char.ofNat n) (readString opening tail) := by
  obtain ⟨a, b, c, d, digits⟩ := hexDigits_four n
  have number : hexNumber? [a, b, c, d] = some n := digits ▸ hexNumber?_hexDigits 4 small
  have notHigh : isHighSurrogate n = false := by
    simp only [isHighSurrogate, Bool.and_eq_false_iff, decide_eq_false_iff_not]
    omega
  have char : unitChar n = Char.ofNat n := if_neg (by omega)
  rw [digits]
  show readString opening ('\\' :: 'u' :: a :: b :: c :: d :: tail) = _
  have visible : tail.isEmpty = false := List.isEmpty_eq_false_iff.mpr more
  -- What follows is read as it stands, even if it starts with another code unit.
  rw [readString]
  simp only [visible, number, notHigh, char, Bool.false_and, Bool.false_eq_true, if_false]
  split <;> rfl

theorem readString_pair (opening : List Char) {n : Nat} (small : n < 0x100000) (more : tail ≠ []) :
    readString opening ('\\' :: 'u' :: hexDigits 4 (0xd800 + n / 0x400) ++
        ('\\' :: 'u' :: hexDigits 4 (0xdc00 + n % 0x400) ++ tail)) =
      push (Char.ofNat (0x10000 + n)) (readString opening tail) := by
  obtain ⟨a, b, c, d, digits⟩ := hexDigits_four (0xd800 + n / 0x400)
  obtain ⟨e, f, g, h, digits'⟩ := hexDigits_four (0xdc00 + n % 0x400)
  have high : hexNumber? [a, b, c, d] = some (0xd800 + n / 0x400) := by
    rw [← digits, hexNumber?_hexDigits]
    omega
  have low : hexNumber? [e, f, g, h] = some (0xdc00 + n % 0x400) := by
    rw [← digits', hexNumber?_hexDigits]
    omega
  rw [digits, digits']
  show readString opening ('\\' :: 'u' :: a :: b :: c :: d :: '\\' :: 'u' :: e :: f :: g :: h :: tail) = _
  have visible : tail.isEmpty = false := List.isEmpty_eq_false_iff.mpr more
  have isHigh : isHighSurrogate (0xd800 + n / 0x400) = true := by
    simp only [isHighSurrogate, Bool.and_eq_true, decide_eq_true_iff]
    omega
  have isLow : isLowSurrogate (0xdc00 + n % 0x400) = true := by
    simp only [isLowSurrogate, Bool.and_eq_true, decide_eq_true_iff]
    omega
  have whole : 0x10000 + (0xd800 + n / 0x400 - 0xd800) * 0x400 + (0xdc00 + n % 0x400 - 0xdc00) = 0x10000 + n := by omega
  rw [readString]
  simp only [List.isEmpty_cons, high, low, isHigh, isLow, visible, whole, Bool.not_false, Bool.and_self,
    Bool.false_eq_true, if_true, if_false]

/-! ## Characters -/

theorem readString_units (c : Char) (more : tail ≠ []) :
    readString opening (((units c).flatMap fun u => '\\' :: 'u' :: hexDigits 4 u) ++ tail) =
      push c (readString opening tail) := by
  have valid : c.toNat < 0xd800 ∨ 0xdfff < c.toNat ∧ c.toNat < 0x110000 := c.valid
  unfold units
  split
  · next small =>
      rw [List.flatMap_singleton, readString_unit small (by omega) more, Char.ofNat_toNat]
  · next large =>
      obtain ⟨n, whole⟩ := Nat.exists_eq_add_of_le (Nat.not_lt.mp large)
      have pair := readString_pair opening (n := n) (by omega) more
      rw [whole, Nat.add_sub_cancel_left, List.flatMap_cons, List.flatMap_singleton, List.append_assoc, pair, ← whole,
        Char.ofNat_toNat]

theorem readString_escape (c : Char) (more : tail ≠ []) :
    readString opening (escape c ++ tail) = push c (readString opening tail) := by
  unfold escape
  -- The seven characters with a letter of their own.
  iterate 7
    split
    · next isSame => rw [isSame]; rfl
  split
  · next plain =>
      rw [List.singleton_append, readString, if_neg (Nat.not_lt.mpr plain.1)]
      all_goals intros; contradiction
  · exact readString_units c more

theorem readString_written (s rest : List Char) :
    readString opening (s.flatMap escape ++ '"' :: rest) = .ok (s, rest) := by
  induction s with
  | nil => rfl
  | cons c s ih =>
      rw [List.flatMap_cons, List.append_assoc, readString_escape c (by simp), ih]
      rfl

/-! ## Whole strings -/

theorem toList_writeString (s : String) : (writeString s).toList = '"' :: (s.toList.flatMap escape ++ ['"']) :=
  String.toList_ofList

def IsPrinted (c : Char) : Prop := 0x20 ≤ c.toNat ∧ c.toNat < 0x7f

instance : DecidablePred IsPrinted := fun c => inferInstanceAs (Decidable (0x20 ≤ c.toNat ∧ c.toNat < 0x7f))

theorem printed_of_all {cs : List Char} (all : cs.all (fun c => decide (IsPrinted c)) = true) :
    ∀ c ∈ cs, IsPrinted c := fun c member => of_decide_eq_true (List.all_eq_true.mp all c member)

theorem hexDigits_printed (width n : Nat) : ∀ c ∈ hexDigits width n, IsPrinted c := by
  have table : ∀ n < 16, IsPrinted (hexDigit n) := by decide
  induction width generalizing n with
  | zero => exact fun _ member => nomatch member
  | succ width ih =>
      rw [hexDigits]
      refine List.forall_mem_append.mpr ⟨ih (n / 16), fun c member => ?_⟩
      rw [List.mem_singleton.mp member]
      exact table _ (Nat.mod_lt n (by decide))

theorem escape_printed (c : Char) : ∀ d ∈ escape c, IsPrinted d := by
  unfold escape
  iterate 7
    split
    · exact printed_of_all rfl
  split
  · next plain => exact fun d member => (List.mem_singleton.mp member).symm ▸ plain
  · intro d member
    obtain ⟨u, -, inUnit⟩ := List.mem_flatMap.mp member
    rcases List.mem_cons.mp inUnit with rfl | inUnit
    · decide
    · rcases List.mem_cons.mp inUnit with rfl | inUnit
      · decide
      · exact hexDigits_printed 4 u d inUnit

theorem flatMap_escape_printed (s : List Char) : ∀ c ∈ s.flatMap escape, IsPrinted c := by
  intro d member
  obtain ⟨c, -, inEscape⟩ := List.mem_flatMap.mp member
  exact escape_printed c d inEscape

theorem writeString_printed (s : String) : ∀ c ∈ (writeString s).toList, IsPrinted c := by
  rw [toList_writeString]
  exact List.forall_mem_cons.mpr
    ⟨by decide, List.forall_mem_append.mpr ⟨flatMap_escape_printed s.toList, printed_of_all rfl⟩⟩

end LogAnalysis.Json
