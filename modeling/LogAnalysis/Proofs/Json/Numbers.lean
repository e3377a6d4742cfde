import LogAnalysis.Json.Reader
import LogAnalysis.Proofs.Text.Digits

/-!
# Numbers in JSON text

A written whole number reads back as itself where something follows that ends it, unless it has more digits than are read
(`Json.readNumber_written`).
-/

namespace LogAnalysis.Json

/-! ## Where a number ends -/

def isEnd (c : Char) : Bool := c == ',' || c == ']' || c == '\x7d' || isSpace c

theorem not_digit_of_isEnd {c : Char} (ending : isEnd c = true) :
    c.isDigit = false ∧ c ≠ '.' ∧ c ≠ 'e' ∧ c ≠ 'E' := by
  simp only [isEnd, isSpace, Bool.or_eq_true, beq_iff_eq] at ending
  rcases ending with ((rfl | rfl) | rfl) | ((rfl | rfl) | rfl) | rfl <;> decide

def Ends (rest : List Char) : Prop := ∀ c ∈ rest.head?, isEnd c = true

theorem ends_nil : Ends [] := fun _ member => nomatch member

theorem ends_cons {c : Char} (ending : isEnd c = true) (rest : List Char) : Ends (c :: rest) := by
  rintro _ ⟨⟩
  exact ending

theorem ends_append {blanks : List Char} (spaces : ∀ c ∈ blanks, isSpace c = true) {rest : List Char}
    (ends : Ends rest) : Ends (blanks ++ rest) := by
  cases blanks with
  | nil => exact ends
  | cons c blanks => exact ends_cons (by simp [isEnd, spaces c List.mem_cons_self]) _

variable {rest : List Char}

theorem Ends.takeWhile (ends : Ends rest) : rest.takeWhile Char.isDigit = [] := by
  cases rest with
  | nil => rfl
  | cons c rest => rw [List.takeWhile_cons_of_neg (by simp [(not_digit_of_isEnd (ends c rfl)).1])]

theorem Ends.takePlaces (ends : Ends rest) : takePlaces rest = none := by
  unfold Json.takePlaces
  split
  · exact absurd rfl (not_digit_of_isEnd (ends '.' rfl)).2.1
  · rfl

theorem Ends.takeExponent (ends : Ends rest) : Numeral.takeExponent rest = (0, rest) := by
  cases rest with
  | nil => rfl
  | cons c rest =>
      obtain ⟨-, -, noSmall, noLarge⟩ := not_digit_of_isEnd (ends c rfl)
      rw [Numeral.takeExponent, if_neg (by simp [noSmall, noLarge])]

/-! ## Digits -/

theorem takeWhole (n : Nat) (ends : Ends rest) :
    (match Nat.toDigits 10 n ++ rest with
      | '0' :: _ => ['0']
      | r => r.takeWhile Char.isDigit) = Nat.toDigits 10 n := by
  have taken : (Nat.toDigits 10 n ++ rest).takeWhile Char.isDigit = Nat.toDigits 10 n := by
    rw [List.takeWhile_append_of_pos fun c => Numeral.isDigit_of_mem_digits, ends.takeWhile, List.append_nil]
  rcases Nat.eq_zero_or_pos n with rfl | positive
  · rfl
  · obtain ⟨c, cs, digits, nonzero⟩ := toDigits_of_ne_zero (Nat.ne_of_gt positive)
    rw [digits] at taken ⊢
    split
    · next zero => exact absurd (List.cons.inj zero).1 nonzero
    · exact taken

theorem takeMinus (n : Int) (rest : List Char) :
    (match (toString n).toList ++ rest with
      | '-' :: r => (true, r)
      | r => (false, r)) = (decide (n < 0), Nat.toDigits 10 n.natAbs ++ rest) := by
  rw [toList_toString_int]
  by_cases negative : n < 0
  · rw [if_pos negative, decide_eq_true negative]
    rfl
  · obtain ⟨c, cs, digits, isDigit⟩ := toDigits_eq_cons n.natAbs
    rw [if_neg negative, decide_eq_false negative, List.nil_append, digits]
    split
    · next minus =>
        rw [(List.cons.inj minus).1] at isDigit
        contradiction
    · rfl

theorem readNumber_written (n : Int) (ends : Ends rest) :
    readNumber ((toString n).toList ++ rest) =
      if Numeral.maxDigits < (Nat.toDigits 10 n.natAbs).length then
        .error ⟨.tooLong (Nat.toDigits 10 n.natAbs).length, (toString n).toList ++ rest⟩
      else .ok (.int n, rest) := by
  have nonempty : (Nat.toDigits 10 n.natAbs).isEmpty = false := List.isEmpty_eq_false_iff.mpr Nat.toDigits_ne_nil
  unfold readNumber
  split
  next negative body isSigned =>
    obtain ⟨rfl, rfl⟩ := Prod.mk.inj (isSigned.symm.trans (takeMinus n rest))
    extract_lets whole afterWhole value
    have isWhole : whole = Nat.toDigits 10 n.natAbs := takeWhole n.natAbs ends
    have isAfter : afterWhole = rest := by
      show List.drop whole.length (Nat.toDigits 10 n.natAbs ++ rest) = rest
      rw [isWhole, List.drop_left]
    have isValue : value = n.natAbs := (congrArg Numeral.digitsValue isWhole).trans (Numeral.digitsValue_toDigits _)
    have isSame : (if n < 0 then -(n.natAbs : Int) else n.natAbs) = n := by omega
    simp only [isWhole, isAfter, nonempty, ends.takePlaces, ends.takeExponent, Option.getD_none, List.isEmpty_nil,
      decide_true, Bool.and_self, Bool.false_eq_true, if_false, if_true, isValue, decide_eq_true_eq, isSame]

theorem readAtom_digit {c : Char} (isDigit : c.isDigit = true) (cs : List Char) :
    readAtom (c :: cs) = readNumber (c :: cs) ∧ readAtom ('-' :: c :: cs) = readNumber ('-' :: c :: cs) := by
  have words : wordValues.map (·.1) = ["null".toList, "true".toList, "false".toList, "NaN".toList, "Infinity".toList,
    "-Infinity".toList] := rfl
  have noLetter : ∀ d ∈ ['n', 't', 'f', 'N', 'I', '-'], d ≠ c := by
    have table : ∀ d ∈ ['n', 't', 'f', 'N', 'I', '-'], d.isDigit = false := by simp
    rintro d member rfl
    exact absurd isDigit (by simp [table d member])
  have noPrefix : ∀ w ∈ wordValues.map (·.1),
      ¬ w.isPrefixOf (c :: cs) = true ∧ ¬ w.isPrefixOf ('-' :: c :: cs) = true := by
    rw [words]
    simp only [List.forall_mem_cons, List.not_mem_nil, false_imp_iff, implies_true, and_true] at noLetter ⊢
    simp [List.isPrefixOf, noLetter]
  constructor
  · rw [readAtom, List.find?_eq_none.mpr fun w member => (noPrefix w.1 (List.mem_map_of_mem member)).1]
  · rw [readAtom, List.find?_eq_none.mpr fun w member => (noPrefix w.1 (List.mem_map_of_mem member)).2]

theorem readAtom_toString (n : Int) (rest : List Char) :
    readAtom ((toString n).toList ++ rest) = readNumber ((toString n).toList ++ rest) := by
  obtain ⟨c, cs, digits, isDigit⟩ := toDigits_eq_cons n.natAbs
  rw [toList_toString_int, digits]
  split
  · exact (readAtom_digit isDigit (cs ++ rest)).2
  · exact (readAtom_digit isDigit (cs ++ rest)).1

end LogAnalysis.Json
