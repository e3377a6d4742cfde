import LogAnalysis.Decimal.Reader
import Mathlib.Data.String.Basic

/-!
# Whole numbers in digits

How the digits of a whole number stand in its text, and that they tell the number.
-/

namespace LogAnalysis

theorem toList_toString_int (n : Int) :
    (toString n).toList = (if n < 0 then ['-'] else []) ++ Nat.toDigits 10 n.natAbs := by
  cases n with
  | ofNat n =>
      rw [if_neg (by simp)]
      show (Nat.repr n).toList = _
      rw [Nat.toList_repr]
      rfl
  | negSucc n =>
      rw [if_pos (Int.negSucc_lt_zero n)]
      show ("-" ++ Nat.repr (n + 1)).toList = _
      rw [String.toList_append, Nat.toList_repr]
      rfl

theorem toString_int_ne_empty (n : Int) : toString n ≠ "" := by
  intro empty
  have characters := congrArg String.toList empty
  rw [toList_toString_int, String.toList_empty] at characters
  exact Nat.toDigits_ne_nil (List.append_eq_nil_iff.mp characters).2

theorem toDigits_of_ne_zero {n : Nat} (nonzero : n ≠ 0) : ∃ c cs, Nat.toDigits 10 n = c :: cs ∧ c ≠ '0' := by
  induction n using Nat.strongRecOn with
  | ind n ih =>
      rcases Nat.lt_or_ge n 10 with small | large
      · have table : ∀ n < 10, n ≠ 0 → Nat.digitChar n ≠ '0' := by decide
        exact ⟨_, [], Nat.toDigits_of_lt_base small, table n small nonzero⟩
      · obtain ⟨c, cs, digits, first⟩ := ih (n / 10) (by omega) (by omega)
        exact ⟨c, cs ++ [Nat.digitChar (n % 10)], by rw [Nat.toDigits_of_base_le (by decide) large, digits]; rfl, first⟩

theorem toDigits_eq_cons (n : Nat) : ∃ c cs, Nat.toDigits 10 n = c :: cs ∧ c.isDigit = true := by
  obtain ⟨c, cs, digits⟩ := List.exists_cons_of_ne_nil (Nat.toDigits_ne_nil (b := 10) (n := n))
  have member : c ∈ Nat.toDigits 10 n := digits ▸ List.mem_cons_self
  exact ⟨c, cs, digits, Nat.isDigit_of_mem_toDigits (by decide) (by decide) member⟩

theorem mem_toString_int {n : Int} {c : Char} (member : c ∈ (toString n).toList) : c = '-' ∨ c.isDigit = true := by
  rw [toList_toString_int] at member
  rcases List.mem_append.mp member with sign | digit
  · split at sign
    · exact .inl (List.mem_singleton.mp sign)
    · contradiction
  · exact .inr (Nat.isDigit_of_mem_toDigits (by decide) (by decide) digit)

theorem toString_int_eq_cons (n : Int) : ∃ c cs, (toString n).toList = c :: cs ∧ (c = '-' ∨ c.isDigit = true) := by
  have nonempty : (toString n).toList ≠ [] := fun isNil => toString_int_ne_empty n (String.toList_eq_nil_iff.mp isNil)
  obtain ⟨c, cs, whole⟩ := List.exists_cons_of_ne_nil nonempty
  exact ⟨c, cs, whole, mem_toString_int (whole ▸ List.mem_cons_self)⟩

theorem exists_digitChar {c : Char} (isDigit : c.isDigit = true) : ∃ n < 10, c = Nat.digitChar n := by
  have bounds : 48 ≤ c.toNat ∧ c.toNat ≤ 57 := Char.isDigit_iff_toNat.mp isDigit
  have table : ∀ n < 10, Char.ofNat (n + 48) = Nat.digitChar n := by decide
  refine ⟨c.toNat - 48, by omega, ?_⟩
  rw [← table _ (by omega), Nat.sub_add_cancel bounds.1, Char.ofNat_toNat]

theorem decimalValue?_of_isDigit {c : Char} (digit : c.isDigit = true) : Text.decimalValue? c = some (c.toNat - 48) := by
  have table : ∀ n < 10, Text.decimalValue? (Nat.digitChar n) = some ((Nat.digitChar n).toNat - 48) := by decide
  obtain ⟨n, small, rfl⟩ := exists_digitChar digit
  exact table n small

namespace Numeral

theorem digitsValue_toDigits (n : Nat) : digitsValue (Nat.toDigits 10 n) = n :=
  Nat.ofDigitChars_toDigits (by decide) (by decide)

theorem digitsValue_cons (c : Char) (cs : List Char) :
    digitsValue (c :: cs) = (c.toNat - 48) * 10 ^ cs.length + digitsValue cs := by
  have shifted : Nat.ofDigitChars 10 cs (c.toNat - 48) = 10 ^ cs.length * (c.toNat - 48) + digitsValue cs :=
    Nat.ofDigitChars_eq_ofDigitChars_zero
  rw [Nat.mul_comm, ← shifted]
  exact congrArg (Nat.ofDigitChars 10 cs) (Nat.zero_add _)

theorem digitsValue_lt {cs : List Char} (digits : ∀ c ∈ cs, c.isDigit = true) : digitsValue cs < 10 ^ cs.length := by
  induction cs with
  | nil => exact Nat.one_pos
  | cons c cs ih =>
      obtain ⟨first, others⟩ := List.forall_mem_cons.mp digits
      have small : c.toNat - 48 ≤ 9 := by
        have bounds : 48 ≤ c.toNat ∧ c.toNat ≤ 57 := Char.isDigit_iff_toNat.mp first
        omega
      have rest := ih others
      have whole := Nat.mul_le_mul_right (10 ^ cs.length) small
      rw [digitsValue_cons, List.length_cons, Nat.pow_succ]
      omega

theorem digitsValue_append (cs ds : List Char) :
    digitsValue (cs ++ ds) = digitsValue cs * 10 ^ ds.length + digitsValue ds := by
  induction cs with
  | nil => simp [digitsValue]
  | cons c cs ih =>
      rw [List.cons_append, digitsValue_cons, digitsValue_cons, ih, List.length_append, Nat.pow_add, Nat.add_mul,
        Nat.mul_assoc, Nat.add_assoc]

theorem digitsValue_zeros (zeros : Nat) : digitsValue (List.replicate zeros '0') = 0 := by
  induction zeros with
  | zero => rfl
  | succ zeros ih => exact ih

theorem isDigit_of_mem_digits {n : Nat} {c : Char} (member : c ∈ Nat.toDigits 10 n) : c.isDigit = true :=
  Nat.isDigit_of_mem_toDigits (by decide) (by decide) member

theorem length_digits_le_iff {n : Nat} : (Nat.toDigits 10 n).length ≤ maxDigits ↔ n < 10 ^ maxDigits :=
  Nat.length_toDigits_le_iff (by decide) (by decide)

/-! ## Reading a number from its text -/

theorem plain_of_digit {c : Char} (written : c = '-' ∨ c.isDigit = true) : isPadding c = false ∧ plainDigit c = c := by
  have table : ∀ n < 10, isPadding (Nat.digitChar n) = false ∧ plainDigit (Nat.digitChar n) = Nat.digitChar n := by
    decide
  rcases written with rfl | isDigit
  · decide
  · obtain ⟨n, small, rfl⟩ := exists_digitChar isDigit
    exact table n small

theorem unpadded_of_none {cs : List Char} (none : ∀ c ∈ cs, isPadding c = false) : unpadded cs = cs := by
  have kept (ds : List Char) (plain : ∀ c ∈ ds, isPadding c = false) : ds.dropWhile isPadding = ds := by
    cases ds with
    | nil => rfl
    | cons c ds => rw [List.dropWhile_cons_of_neg (by simp [plain c List.mem_cons_self])]
  rw [unpadded, kept cs none, kept cs.reverse fun c member => none c (List.mem_reverse.mp member),
    List.reverse_reverse]

theorem joinDigits_of_digits {c : Char} {cs : List Char} (digits : ∀ d ∈ c :: cs, d.isDigit = true) :
    joinDigits (c :: cs) = some (c :: cs) := by
  induction cs generalizing c with
  | nil => simp [joinDigits, digits c List.mem_cons_self]
  | cons d cs ih =>
      obtain ⟨first, others⟩ := List.forall_mem_cons.mp digits
      have noLowLine : d ≠ '_' := by
        rintro rfl
        exact absurd (others '_' List.mem_cons_self) (by decide)
      rw [joinDigits, if_pos first, ih others, Option.map_some]
      · intro isEmpty
        contradiction
      · intro rest isLowLine
        exact noLowLine (List.cons.inj isLowLine).1

theorem map_plainDigit {cs : List Char} (written : ∀ c ∈ cs, c = '-' ∨ c.isDigit = true) : cs.map plainDigit = cs :=
  (List.map_congr_left fun c member => (plain_of_digit (written c member)).2).trans (List.map_id cs)

theorem takeSign_of_digit {c : Char} (isDigit : c.isDigit = true) (cs : List Char) :
    takeSign (c :: cs) = (false, c :: cs) := by
  unfold takeSign
  split
  · next same => exact absurd ((List.cons.inj same).1 ▸ isDigit) (by decide)
  · next same => exact absurd ((List.cons.inj same).1 ▸ isDigit) (by decide)
  · rfl

theorem takeSign_of_digits {cs : List Char} (digits : ∀ c ∈ cs, c.isDigit = true) : takeSign cs = (false, cs) := by
  cases cs with
  | nil => rfl
  | cons c cs => exact takeSign_of_digit (digits c List.mem_cons_self) cs

theorem integer_toString {n : Int} (short : (Nat.toDigits 10 n.natAbs).length ≤ maxDigits) :
    integer (toString n) = .ok n := by
  have digits : ∀ c ∈ Nat.toDigits 10 n.natAbs, c.isDigit = true := fun c => isDigit_of_mem_digits
  have plain : (unpadded (toString n).toList).map plainDigit = (toString n).toList := by
    rw [unpadded_of_none fun c member => (plain_of_digit (mem_toString_int member)).1]
    exact map_plainDigit fun c => mem_toString_int
  have signed : takeSign (toString n).toList = (decide (n < 0), Nat.toDigits 10 n.natAbs) := by
    rw [toList_toString_int]
    split
    · next negative => rw [decide_eq_true negative]; rfl
    · next notNegative =>
        rw [decide_eq_false notNegative, List.nil_append]
        exact takeSign_of_digits digits
  have joined : joinDigits (Nat.toDigits 10 n.natAbs) = some (Nat.toDigits 10 n.natAbs) := by
    obtain ⟨c, cs, whole, -⟩ := toDigits_eq_cons n.natAbs
    rw [whole] at digits ⊢
    exact joinDigits_of_digits digits
  simp only [integer, plain, signed, joined, if_neg (Nat.not_lt.mpr short), digitsValue_toDigits, decide_eq_true_eq]
  congr 1
  omega

theorem takeDecimal_of_digits (n : Nat) {c : Char} (noDigit : c.isDigit = false) (noPoint : c ≠ '.')
    (noPower : (c = 'e' || c = 'E') = false) (cs : List Char) :
    takeDecimal (Nat.toDigits 10 n ++ c :: cs) = some (⟨n, 0⟩, c :: cs) := by
  have whole : (Nat.toDigits 10 n ++ c :: cs).takeWhile Char.isDigit = Nat.toDigits 10 n := by
    rw [List.takeWhile_append_of_pos fun d => isDigit_of_mem_digits, List.takeWhile_cons_of_neg (by simp [noDigit]),
      List.append_nil]
  have rest : (Nat.toDigits 10 n ++ c :: cs).dropWhile Char.isDigit = c :: cs := by
    rw [List.dropWhile_append_of_pos fun d => isDigit_of_mem_digits, List.dropWhile_cons_of_neg (by simp [noDigit])]
  have nonempty : (Nat.toDigits 10 n).isEmpty = false := List.isEmpty_eq_false_iff.mpr Nat.toDigits_ne_nil
  have power : takeExponent (c :: cs) = (0, c :: cs) := by rw [takeExponent, noPower]; rfl
  unfold takeDecimal
  simp [whole, rest, noPoint, nonempty, power, digitsValue_toDigits]

/-! ## Numbers with a fixed number of digits -/

structure IsNumeral (width n : Nat) (cs : List Char) : Prop where
  length : cs.length = width
  digits : ∀ c ∈ cs, c.isDigit = true
  value : digitsValue cs = n

theorem isNumeral_toDigits (n : Nat) : IsNumeral (Nat.toDigits 10 n).length n (Nat.toDigits 10 n) :=
  ⟨rfl, fun _ => isDigit_of_mem_digits, digitsValue_toDigits n⟩

theorem length_toDigits {width n : Nat} (positive : 0 < width) (large : 10 ^ width ≤ n) (small : n < 10 ^ (width + 1)) :
    (Nat.toDigits 10 n).length = width + 1 := by
  have atMost := (Nat.length_toDigits_le_iff (by decide) (Nat.succ_pos width)).mpr small
  have more := mt (Nat.length_toDigits_le_iff (by decide) positive).mp (Nat.not_lt.mpr large)
  omega

theorem isNumeral_zeros {width n : Nat} {cs : List Char} (numeral : IsNumeral width n cs) (zeros : Nat) :
    IsNumeral (zeros + width) n (List.replicate zeros '0' ++ cs) where
  length := by rw [List.length_append, List.length_replicate, numeral.length]
  digits := List.forall_mem_append.mpr ⟨fun c member => List.eq_of_mem_replicate member ▸ rfl, numeral.digits⟩
  value := by rw [digitsValue_append, digitsValue_zeros, Nat.zero_mul, Nat.zero_add, numeral.value]

theorem IsNumeral.append_zeros {width n : Nat} {cs : List Char} (numeral : IsNumeral width n cs) (zeros : Nat) :
    IsNumeral (width + zeros) (n * 10 ^ zeros) (cs ++ List.replicate zeros '0') where
  length := by rw [List.length_append, List.length_replicate, numeral.length]
  digits := List.forall_mem_append.mpr ⟨numeral.digits, fun c member => List.eq_of_mem_replicate member ▸ rfl⟩
  value := by rw [digitsValue_append, digitsValue_zeros, List.length_replicate, numeral.value, Nat.add_zero]

theorem IsNumeral.lt {width m n : Nat} {xs ys : List Char} (first : IsNumeral width m xs) (second : IsNumeral width n ys)
    (less : m < n) (more more' : List Char) : xs ++ more < ys ++ more' := by
  obtain ⟨length, digits, rfl⟩ := first
  obtain ⟨length', digits', rfl⟩ := second
  induction xs generalizing width ys with
  | nil =>
      obtain rfl : ys = [] := List.length_eq_zero_iff.mp (length'.trans length.symm)
      exact absurd less (Nat.lt_irrefl _)
  | cons x xs ih =>
      cases ys with
      | nil => exact absurd (length.trans length'.symm) (Nat.succ_ne_zero _)
      | cons y ys =>
          have same : ys.length = xs.length := Nat.succ.inj (length'.trans length.symm)
          obtain ⟨isDigit, others⟩ := List.forall_mem_cons.mp digits
          obtain ⟨isDigit', others'⟩ := List.forall_mem_cons.mp digits'
          have bounds : 48 ≤ x.toNat ∧ x.toNat ≤ 57 := Char.isDigit_iff_toNat.mp isDigit
          have bounds' : 48 ≤ y.toNat ∧ y.toNat ≤ 57 := Char.isDigit_iff_toNat.mp isDigit'
          have small := digitsValue_lt others
          have small' := digitsValue_lt others'
          rw [digitsValue_cons, digitsValue_cons, same] at less
          rw [same] at small'
          rw [List.cons_append, List.cons_append, List.cons_lt_cons_iff]
          rcases Nat.lt_trichotomy x.toNat y.toNat with before | equal | after
          · exact .inl before
          · obtain rfl : x = y := Char.toNat_inj.mp equal
            exact .inr ⟨rfl, ih rfl others same others' (by omega)⟩
          · have more : y.toNat - 48 + 1 ≤ x.toNat - 48 := by omega
            have product := Nat.mul_le_mul_right (10 ^ xs.length) more
            rw [Nat.add_mul] at product
            omega

theorem IsNumeral.integer_eq {width n : Nat} {cs : List Char} (numeral : IsNumeral width n cs) (nonempty : 0 < width)
    (short : width ≤ maxDigits) : integer (String.ofList cs) = .ok n := by
  have plain : (unpadded cs).map plainDigit = cs := by
    rw [unpadded_of_none fun c member => (plain_of_digit (.inr (numeral.digits c member))).1]
    exact map_plainDigit fun c member => .inr (numeral.digits c member)
  have joined : joinDigits cs = some cs := by
    cases cs with
    | nil => exact absurd numeral.length (Nat.ne_of_lt nonempty)
    | cons c cs => exact joinDigits_of_digits numeral.digits
  have fits : ¬ maxDigits < cs.length := Nat.not_lt.mpr (numeral.length ▸ short)
  simp only [integer, String.toList_ofList, plain, takeSign_of_digits numeral.digits, joined, if_neg fits, numeral.value,
    Bool.false_eq_true, if_false]

end Numeral

end LogAnalysis
