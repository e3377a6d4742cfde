import LogAnalysis.Proofs.Decimal.Numbers
import LogAnalysis.Proofs.Text.Characters
import LogAnalysis.Proofs.Text.Digits
import LogAnalysis.Proofs.Text.Trimming
import LogAnalysis.Value.Number
import Mathlib

/-!
# The two readers of numbers

A text that is a number as a whole also starts with a number, and a decimal that breaks off after a digit is still one
(`Numeral.IsDecimal.of_append`). What starts the text goes on to its first low line, or to its end where it has none.

* `Numeral.isDecimal_of_takeDecimal`, `Numeral.IsDecimal.takeDecimal_append`: what is read as a decimal, as a grammar.
* `Value.leadingNumber_of_isNumber`: the number that starts a text which is one as a whole.
-/

namespace LogAnalysis

namespace Numeral

open Text

def EndsDecimal (rest : List Char) : Prop :=
  ∀ c ∈ rest.head?, c.isDigit = false ∧ c ≠ '.' ∧ (c = 'e' || c = 'E') = false

theorem endsDecimal_nil : EndsDecimal [] := nofun

theorem takeWhile_digits {digits rest : List Char} (isDigits : ∀ c ∈ digits, c.isDigit = true)
    (stops : ∀ c ∈ rest.head?, c.isDigit = false) : (digits ++ rest).takeWhile Char.isDigit = digits := by
  rw [List.takeWhile_append_of_pos isDigits]
  cases rest with
  | nil => simp
  | cons c rest => simp [stops c rfl]

theorem dropWhile_digits {digits rest : List Char} (isDigits : ∀ c ∈ digits, c.isDigit = true)
    (stops : ∀ c ∈ rest.head?, c.isDigit = false) : (digits ++ rest).dropWhile Char.isDigit = rest := by
  rw [List.dropWhile_append_of_pos isDigits]
  cases rest with
  | nil => rfl
  | cons c rest => simp [stops c rfl]

theorem EndsDecimal.stops {rest : List Char} (ends : EndsDecimal rest) : ∀ c ∈ rest.head?, c.isDigit = false :=
  fun c first => (ends c first).1

theorem takeSign_append {cs : List Char} (nonempty : cs ≠ []) (rest : List Char) :
    takeSign (cs ++ rest) = ((takeSign cs).1, (takeSign cs).2 ++ rest) := by
  cases cs with
  | nil => exact absurd rfl nonempty
  | cons c cs =>
      by_cases minus : c = '-'
      · subst minus; rfl
      · by_cases plus : c = '+'
        · subst plus; rfl
        · simp [takeSign, minus, plus]

/-! ## The grammar of decimals -/

inductive IsPower : List Char → Prop
  | none : IsPower []
  | digits {mark : Char} {cs : List Char} (isMark : (mark = 'e' || mark = 'E') = true)
      (digits : ∀ c ∈ (takeSign cs).2, c.isDigit = true) (nonempty : (takeSign cs).2 ≠ []) : IsPower (mark :: cs)

/-- Digits, a point and digits, of which the point or the digits on one side may be missing, and a power of ten. -/
inductive IsDecimal : List Char → Prop
  | whole {digits power : List Char} (isDigits : ∀ c ∈ digits, c.isDigit = true) (nonempty : digits ≠ [])
      (isPower : IsPower power) : IsDecimal (digits ++ power)
  | pointed {digits places power : List Char} (isDigits : ∀ c ∈ digits, c.isDigit = true)
      (isPlaces : ∀ c ∈ places, c.isDigit = true) (nonempty : digits ≠ [] ∨ places ≠ [])
      (isPower : IsPower power) : IsDecimal (digits ++ '.' :: (places ++ power))

theorem isDigit_of_dropWhile_eq_nil {cs : List Char} (none : cs.dropWhile Char.isDigit = []) :
    cs.takeWhile Char.isDigit = cs ∧ ∀ c ∈ cs, c.isDigit = true := by
  have all := List.dropWhile_eq_nil_iff.mp none
  exact ⟨List.takeWhile_eq_self_iff.mpr all, all⟩

theorem isPower_of_takeExponent {cs : List Char} {n : Int} (taken : takeExponent cs = (n, [])) : IsPower cs := by
  cases cs with
  | nil => exact .none
  | cons mark cs =>
      rw [takeExponent] at taken
      split at taken
      · next isMark =>
          dsimp only at taken
          split at taken
          · exact absurd (congrArg Prod.snd taken) (List.cons_ne_nil _ _)
          · next some =>
              obtain ⟨whole, digits⟩ := isDigit_of_dropWhile_eq_nil (congrArg Prod.snd taken)
              refine .digits isMark digits ?_
              intro nothing
              rw [nothing] at some
              exact some rfl
      · exact absurd (congrArg Prod.snd taken) (List.cons_ne_nil _ _)

theorem IsPower.takeExponent_append {cs : List Char} (isPower : IsPower cs) :
    ∃ n, ∀ rest, EndsDecimal rest → takeExponent (cs ++ rest) = (n, rest) := by
  cases isPower with
  | none =>
      refine ⟨0, ?_⟩
      intro rest ends
      cases rest with
      | nil => rfl
      | cons c rest => simp [takeExponent, (ends c rfl).2.2]
  | @digits mark cs isMark digits nonempty =>
      have some : cs ≠ [] := by
        rintro rfl
        exact nonempty rfl
      refine ⟨if (takeSign cs).1 then -digitsValue (takeSign cs).2 else digitsValue (takeSign cs).2, ?_⟩
      intro rest ends
      simp only [List.cons_append, takeExponent, isMark, if_true, takeSign_append some, takeWhile_digits digits ends.stops,
        dropWhile_digits digits ends.stops, List.isEmpty_iff, nonempty, if_false]

theorem IsPower.stops {cs rest : List Char} (isPower : IsPower cs) (ends : EndsDecimal rest) :
    ∀ c ∈ (cs ++ rest).head?, c.isDigit = false ∧ c ≠ '.' := by
  cases isPower with
  | none => exact fun c first => ⟨(ends c first).1, (ends c first).2.1⟩
  | @digits mark cs isMark =>
      intro c first
      obtain rfl := Option.some.inj first
      simp only [Bool.or_eq_true, decide_eq_true_eq] at isMark
      rcases isMark with rfl | rfl <;> decide

theorem takeDecimal_whole {digits rest : List Char} (isDigits : ∀ c ∈ digits, c.isDigit = true)
    (stops : ∀ c ∈ rest.head?, c.isDigit = false ∧ c ≠ '.') : takeDecimal (digits ++ rest) =
      if digits.isEmpty then none
      else some (⟨digitsValue digits, (takeExponent rest).1⟩, (takeExponent rest).2) := by
  have noDigit : ∀ c ∈ rest.head?, c.isDigit = false := fun c first => (stops c first).1
  rw [takeDecimal, takeWhile_digits isDigits noDigit, dropWhile_digits isDigits noDigit]
  dsimp only
  split
  · exact absurd rfl (stops '.' rfl).2
  · simp

theorem takeDecimal_pointed {digits places rest : List Char} (isDigits : ∀ c ∈ digits, c.isDigit = true)
    (isPlaces : ∀ c ∈ places, c.isDigit = true) (stops : ∀ c ∈ rest.head?, c.isDigit = false) :
    takeDecimal (digits ++ '.' :: (places ++ rest)) =
      if digits.isEmpty && places.isEmpty then none
      else some (⟨digitsValue (digits ++ places), (takeExponent rest).1 - places.length⟩, (takeExponent rest).2) := by
  have point : ∀ c ∈ ('.' :: (places ++ rest)).head?, c.isDigit = false := by simp
  rw [takeDecimal, takeWhile_digits isDigits point, dropWhile_digits isDigits point]
  simp only [takeWhile_digits isPlaces stops, dropWhile_digits isPlaces stops]

theorem exists_digits (cs : List Char) : ∃ digits rest, cs = digits ++ rest ∧ (∀ c ∈ digits, c.isDigit = true) ∧
    ∀ c ∈ rest.head?, c.isDigit = false := by
  refine ⟨cs.takeWhile Char.isDigit, cs.dropWhile Char.isDigit, List.takeWhile_append_dropWhile.symm,
    fun c => List.mem_takeWhile_imp, ?_⟩
  intro c first
  have stops := List.head?_dropWhile_not Char.isDigit cs
  rwa [first] at stops

theorem isDecimal_of_takeDecimal {cs : List Char} {d : Decimal} (taken : takeDecimal cs = some (d, [])) : IsDecimal cs := by
  obtain ⟨digits, rest, rfl, isDigits, stops⟩ := exists_digits cs
  by_cases point : rest.head? = some '.'
  · obtain ⟨after, rfl⟩ := List.head?_eq_some_iff.mp point
    obtain ⟨places, power, rfl, isPlaces, stops⟩ := exists_digits after
    rw [takeDecimal_pointed isDigits isPlaces stops] at taken
    split at taken
    · contradiction
    · next some =>
        refine .pointed isDigits isPlaces ?_ (isPower_of_takeExponent (Prod.ext rfl (Prod.mk.inj (Option.some.inj taken)).2))
        simpa [Classical.or_iff_not_imp_left] using some
  · have stops' : ∀ c ∈ rest.head?, c.isDigit = false ∧ c ≠ '.' := by
      intro c first
      refine ⟨stops c first, ?_⟩
      rintro rfl
      exact point first
    rw [takeDecimal_whole isDigits stops'] at taken
    split at taken
    · contradiction
    · next some =>
        refine .whole isDigits ?_ (isPower_of_takeExponent (Prod.ext rfl (Prod.mk.inj (Option.some.inj taken)).2))
        simpa using some

theorem IsDecimal.takeDecimal_append {cs : List Char} (isDecimal : IsDecimal cs) :
    ∃ d, ∀ rest, EndsDecimal rest → takeDecimal (cs ++ rest) = some (d, rest) := by
  cases isDecimal with
  | @whole digits power isDigits nonempty isPower =>
      obtain ⟨n, taken⟩ := isPower.takeExponent_append
      refine ⟨⟨digitsValue digits, n⟩, ?_⟩
      intro rest ends
      rw [List.append_assoc, takeDecimal_whole isDigits (isPower.stops ends), taken rest ends]
      simp [nonempty]
  | @pointed digits places power isDigits isPlaces nonempty isPower =>
      obtain ⟨n, taken⟩ := isPower.takeExponent_append
      refine ⟨⟨digitsValue (digits ++ places), n - places.length⟩, ?_⟩
      intro rest ends
      have stops : ∀ c ∈ (power ++ rest).head?, c.isDigit = false := fun c first => (isPower.stops ends c first).1
      rw [List.append_assoc, List.cons_append, List.append_assoc, takeDecimal_pointed isDigits isPlaces stops, taken rest ends]
      simpa [Classical.or_iff_not_imp_left] using nonempty

/-! ## Decimals that break off after a digit -/

def EndsWithDigit (cs : List Char) : Prop := ∃ c, cs.getLast? = some c ∧ c.isDigit = true

theorem EndsWithDigit.of_append {xs ys : List Char} (ends : EndsWithDigit (xs ++ ys)) (nonempty : ys ≠ []) :
    EndsWithDigit ys := by
  obtain ⟨c, last, isDigit⟩ := ends
  exact ⟨c, List.getLast?_append_of_ne_nil xs nonempty ▸ last, isDigit⟩

theorem EndsWithDigit.ne_nil {cs : List Char} (ends : EndsWithDigit cs) : cs ≠ [] := by
  rintro rfl
  obtain ⟨c, last, -⟩ := ends
  contradiction

theorem endsWithDigit_singleton {c : Char} : EndsWithDigit [c] ↔ c.isDigit = true := by
  simp [EndsWithDigit]

theorem takeSign_eq_nil {cs : List Char} (nothing : (takeSign cs).2 = []) : cs = [] ∨ cs = ['-'] ∨ cs = ['+'] := by
  cases cs with
  | nil => exact .inl rfl
  | cons c cs =>
      by_cases minus : c = '-'
      · subst minus
        exact .inr (.inl (congrArg ('-' :: ·) nothing))
      · by_cases plus : c = '+'
        · subst plus
          exact .inr (.inr (congrArg ('+' :: ·) nothing))
        · simp [takeSign, minus, plus] at nothing

theorem IsPower.of_append {cs rest : List Char} (isPower : IsPower (cs ++ rest)) (ends : EndsWithDigit cs) : IsPower cs := by
  cases cs with
  | nil => exact .none
  | cons mark cs =>
      rw [List.cons_append] at isPower
      cases isPower with
      | digits isMark digits nonempty =>
          have some : cs ≠ [] := by
            rintro rfl
            have isDigit := endsWithDigit_singleton.mp ends
            simp only [Bool.or_eq_true, decide_eq_true_eq] at isMark
            rcases isMark with rfl | rfl <;> contradiction
          have ends' : EndsWithDigit cs := @EndsWithDigit.of_append [mark] cs ends some
          rw [takeSign_append some] at digits
          refine .digits isMark (fun c member => digits c (List.mem_append_left _ member)) ?_
          intro nothing
          rcases takeSign_eq_nil nothing with rfl | rfl | rfl
          · exact some rfl
          · exact absurd (endsWithDigit_singleton.mp ends') (by decide)
          · exact absurd (endsWithDigit_singleton.mp ends') (by decide)

theorem IsDecimal.of_digits {cs : List Char} (digits : ∀ c ∈ cs, c.isDigit = true) (nonempty : cs ≠ []) : IsDecimal cs :=
  List.append_nil cs ▸ .whole digits nonempty .none

theorem IsDecimal.of_append {cs rest : List Char} (isDecimal : IsDecimal (cs ++ rest)) (ends : EndsWithDigit cs) :
    IsDecimal cs := by
  generalize whole : cs ++ rest = text at isDecimal
  cases isDecimal with
  | @whole digits power isDigits nonempty isPower =>
      rcases List.append_eq_append_iff.mp whole with ⟨more, rfl, -⟩ | ⟨after, rfl, rfl⟩
      · exact .of_digits (fun c member => isDigits c (List.mem_append_left _ member)) ends.ne_nil
      · by_cases none : after = []
        · subst none
          exact .whole isDigits nonempty .none
        · exact .whole isDigits nonempty (isPower.of_append (ends.of_append none))
  | @pointed digits places power isDigits isPlaces nonempty isPower =>
      rcases List.append_eq_append_iff.mp whole with ⟨more, rfl, -⟩ | ⟨after, rfl, tail⟩
      · exact .of_digits (fun c member => isDigits c (List.mem_append_left _ member)) ends.ne_nil
      · cases after with
        | nil =>
            rw [List.append_nil] at ends ⊢
            exact .of_digits isDigits ends.ne_nil
        | cons c after =>
            obtain ⟨rfl, tail'⟩ := List.cons.inj tail
            -- The text goes on behind the point.
            have ends' : EndsWithDigit ('.' :: after) := ends.of_append (List.cons_ne_nil _ _)
            have some : after ≠ [] := by
              rintro rfl
              exact absurd (endsWithDigit_singleton.mp ends') (by decide)
            rcases List.append_eq_append_iff.mp tail'.symm with ⟨more, rfl, -⟩ | ⟨after', rfl, rfl⟩
            · have isPlaces' : ∀ c ∈ after, c.isDigit = true := fun c member => isPlaces c (List.mem_append_left _ member)
              exact List.append_nil after ▸ .pointed isDigits isPlaces' (.inr some) .none
            · by_cases none : after' = []
              · subst none
                exact .pointed isDigits isPlaces nonempty .none
              · refine .pointed isDigits isPlaces nonempty (isPower.of_append ?_)
                exact @EndsWithDigit.of_append places _ (@EndsWithDigit.of_append ['.'] _ ends' some) none

/-! ## Low lines -/

theorem plainDigit_cases (c : Char) : (decimalValue? c = none ∧ plainDigit c = c) ∨
    ((decimalValue? c).isSome = true ∧ (plainDigit c).isDigit = true) := by
  unfold plainDigit
  split
  · next d value =>
      right
      rw [value]
      refine ⟨rfl, ?_⟩
      obtain ⟨r, -, rfl⟩ := Option.map_eq_some_iff.mp value
      have table : ∀ d < 10, (Char.ofNat (48 + d)).isDigit = true := by decide
      exact table _ (Nat.mod_lt _ (by decide))
  · next none => exact .inl ⟨none, rfl⟩

theorem plainDigit_eq_lowLine {c : Char} : plainDigit c = '_' ↔ c = '_' := by
  constructor
  · intro same
    rcases plainDigit_cases c with ⟨-, self⟩ | ⟨-, isDigit⟩
    · exact self ▸ same
    · rw [same] at isDigit
      contradiction
  · rintro rfl
    decide

theorem dropLowLines_cons {c : Char} (noLowLine : c ≠ '_') (afterDigit : Bool) (cs : List Char) :
    dropLowLines afterDigit (c :: cs) = (dropLowLines c.isDigit cs).map (c :: ·) := by
  rw [dropLowLines]
  exact noLowLine

theorem dropLowLines_eq_some {afterDigit : Bool} {cs joined : List Char} (dropped : dropLowLines afterDigit cs = some joined) :
    ('_' ∉ cs ∧ joined = cs) ∨ ∃ before after more, cs = before ++ '_' :: after ∧ '_' ∉ before ∧ joined = before ++ more ∧
      (EndsWithDigit before ∨ before = [] ∧ afterDigit = true) := by
  induction cs generalizing afterDigit joined with
  | nil =>
      obtain rfl := Option.some.inj dropped
      exact .inl ⟨List.not_mem_nil, rfl⟩
  | cons c cs ih =>
      by_cases lowLine : c = '_'
      · subst lowLine
        right
        cases cs with
        | nil => contradiction
        | cons d cs =>
            rw [dropLowLines] at dropped
            split at dropped
            · next digits =>
                exact ⟨[], d :: cs, joined, rfl, List.not_mem_nil, rfl, .inr ⟨rfl, (Bool.and_eq_true_iff.mp digits).1⟩⟩
            · contradiction
      · rw [dropLowLines_cons lowLine] at dropped
        obtain ⟨rest, dropped', rfl⟩ := Option.map_eq_some_iff.mp dropped
        have other : '_' ≠ c := fun same => lowLine same.symm
        rcases ih dropped' with ⟨none, rfl⟩ | ⟨before, after, more, rfl, none, rfl, ends⟩
        · exact .inl ⟨by simp [other, none], rfl⟩
        · right
          refine ⟨c :: before, after, more, rfl, by simp [other, none], rfl, .inl ?_⟩
          rcases ends with ⟨d, last, isDigit⟩ | ⟨rfl, isDigit⟩
          · exact ⟨d, by rw [List.getLast?_cons, last]; rfl, isDigit⟩
          · exact endsWithDigit_singleton.mpr isDigit

theorem dropLowLines_of_none {afterDigit : Bool} {cs : List Char} (none : '_' ∉ cs) : dropLowLines afterDigit cs = some cs := by
  induction cs generalizing afterDigit with
  | nil => rfl
  | cons c cs ih =>
      rw [dropLowLines_cons (fun lowLine => none (lowLine ▸ List.mem_cons_self)),
        ih fun member => none (List.mem_cons_of_mem c member)]
      rfl

/-! ## The two readers -/

theorem EndsWithDigit.takeSign {cs : List Char} (ends : EndsWithDigit cs) : EndsWithDigit (takeSign cs).2 := by
  have some : (Numeral.takeSign cs).2 ≠ [] := by
    intro nothing
    rcases takeSign_eq_nil nothing with rfl | rfl | rfl
    · exact ends.ne_nil rfl
    · exact absurd (endsWithDigit_singleton.mp ends) (by decide)
    · exact absurd (endsWithDigit_singleton.mp ends) (by decide)
  obtain ⟨sign, whole⟩ : ∃ sign, cs = sign ++ (Numeral.takeSign cs).2 := by
    unfold Numeral.takeSign
    split
    · exact ⟨['-'], rfl⟩
    · exact ⟨['+'], rfl⟩
    · exact ⟨[], rfl⟩
  rw [whole] at ends
  exact ends.of_append some

theorem IsDecimal.ne_nil {cs : List Char} (isDecimal : IsDecimal cs) : cs ≠ [] := by
  cases isDecimal with
  | whole _ nonempty => simp [nonempty]
  | pointed => simp

theorem IsDecimal.word?_eq_none {cs : List Char} (isDecimal : IsDecimal cs) : word? cs = none := by
  obtain ⟨c, rest, rfl, first⟩ : ∃ c rest, cs = c :: rest ∧ (c = '.' ∨ c.isDigit = true) := by
    cases isDecimal with
    | @whole digits power isDigits nonempty =>
        obtain ⟨c, digits, rfl⟩ := List.exists_cons_of_ne_nil nonempty
        exact ⟨c, _, rfl, .inr (isDigits c List.mem_cons_self)⟩
    | @pointed digits places power isDigits =>
        cases digits with
        | nil => exact ⟨'.', _, rfl, .inl rfl⟩
        | cons c digits => exact ⟨c, _, rfl, .inr (isDigits c List.mem_cons_self)⟩
  have noLetter : c.toLower ≠ 'i' ∧ c.toLower ≠ 'n' := by
    have table : ∀ n < 10, (Nat.digitChar n).toLower ≠ 'i' ∧ (Nat.digitChar n).toLower ≠ 'n' := by decide
    rcases first with rfl | isDigit
    · decide
    · obtain ⟨n, small, rfl⟩ := exists_digitChar isDigit
      exact table n small
  unfold word?
  split
  · next same => exact absurd (List.cons.inj (String.ofList_injective same)).1 noLetter.1
  · next same => exact absurd (List.cons.inj (String.ofList_injective same)).1 noLetter.1
  · next same => exact absurd (List.cons.inj (String.ofList_injective same)).1 noLetter.2
  · rfl

theorem isFinite_word {cs : List Char} {x : Float} (word : word? cs = some x) (isNegative : Bool) :
    (signed isNegative x).isFinite = false := by
  unfold word? at word
  split at word
  · obtain rfl := Option.some.inj word
    cases isNegative <;> decide
  · obtain rfl := Option.some.inj word
    cases isNegative <;> decide
  · obtain rfl := Option.some.inj word
    cases isNegative <;> decide
  · contradiction

end Numeral

namespace Text

theorem isPadding_of_not_blank {c : Char} (noBlank : isBlank c = false) : Numeral.isPadding c = false := by
  simp [Numeral.isPadding, noBlank]

theorem IsTrimmed.unpadded_eq {cs : List Char} (trimmed : IsTrimmed cs) : Numeral.unpadded cs = cs := by
  have kept {ds : List Char} (first : ∀ c ∈ ds.head?, isBlank c = false) : ds.dropWhile Numeral.isPadding = ds := by
    cases ds with
    | nil => rfl
    | cons d ds => simp [isPadding_of_not_blank (first d rfl)]
  rw [Numeral.unpadded, kept trimmed.first, kept, List.reverse_reverse]
  intro c first
  rw [List.head?_reverse] at first
  exact trimmed.last c first

theorem exists_trim_append (cs : List Char) :
    ∃ blanks, cs.dropWhile isBlank = trim cs ++ blanks ∧ ∀ c ∈ blanks, isBlank c = true := by
  refine ⟨(cs.dropWhile isBlank).rtakeWhile isBlank, ?_, fun c => List.mem_rtakeWhile_imp⟩
  rw [trim, trimRight_eq_rdropWhile, List.rdropWhile_append_rtakeWhile]

/-- The text from its first character that is no white space to its first low line. -/
def beforeLowLine (s : String) : String := String.ofList ((trim s.toList).takeWhile (· ≠ '_'))

theorem not_mem_beforeLowLine (s : String) : '_' ∉ (beforeLowLine s).toList := by
  intro member
  rw [beforeLowLine, String.toList_ofList] at member
  have other := List.mem_takeWhile_imp member
  simp at other

theorem beforeLowLine_of_none {s : String} (none : '_' ∉ s.toList) : beforeLowLine s = trimmed s := by
  have kept : ∀ c ∈ trim s.toList, decide (c ≠ '_') = true := by
    intro c member
    refine decide_eq_true ?_
    rintro rfl
    obtain ⟨blanks, visible, -⟩ := exists_trim_append s.toList
    have later : '_' ∈ s.toList.dropWhile isBlank := visible ▸ List.mem_append_left blanks member
    exact none ((List.dropWhile_sublist isBlank).subset later)
  rw [beforeLowLine, List.takeWhile_eq_self_iff.mpr kept]
  rfl

end Text

/-! ## The two readers -/

namespace Numeral

open Text

variable {s : String}

theorem exists_isDecimal (isNumber : (Value.text s).isNumber = true) : ∃ plain,
    dropLowLines false ((trim s.toList).map plainDigit) = some plain ∧ IsDecimal (takeSign plain).2 := by
  have whole : (float? (trimmed s)).any Float.isFinite = true := by
    rw [Value.isNumber, Value.plain] at isNumber
    · exact isNumber
    · exact nofun
  obtain ⟨x, read, isFinite⟩ := Option.any_eq_true _ _ |>.mp whole
  rw [float?, trimmed, String.toList_ofList, (isTrimmed_trim _).unpadded_eq] at read
  obtain ⟨plain, joined, read⟩ := Option.bind_eq_some_iff.mp read
  refine ⟨plain, joined, ?_⟩
  dsimp only at read
  split at read
  · next word =>
      obtain rfl := Option.some.inj read
      rw [isFinite_word word] at isFinite
      exact absurd isFinite Bool.false_ne_true
  · obtain ⟨⟨d, rest⟩, taken, read⟩ := Option.bind_eq_some_iff.mp read
    dsimp only at read
    split at read
    · next none =>
        obtain rfl := List.isEmpty_iff.mp none
        exact isDecimal_of_takeDecimal taken
    · cases read

theorem exists_start (isNumber : (Value.text s).isNumber = true) : ∃ rest,
    (trim s.toList).map plainDigit = (beforeLowLine s).toList.map plainDigit ++ rest ∧
    IsDecimal (takeSign ((beforeLowLine s).toList.map plainDigit)).2 ∧
    (rest = [] ∨ rest.head? = some '_' ∧ EndsWithDigit ((beforeLowLine s).toList.map plainDigit)) := by
  have start : (beforeLowLine s).toList.map plainDigit = ((trim s.toList).map plainDigit).takeWhile (· ≠ '_') := by
    rw [beforeLowLine, String.toList_ofList, List.takeWhile_map]
    simp only [Function.comp_def, ne_eq, plainDigit_eq_lowLine]
  obtain ⟨plain, joined, isDecimal⟩ := exists_isDecimal isNumber
  rw [start]
  generalize (trim s.toList).map plainDigit = text at joined
  rcases dropLowLines_eq_some joined with ⟨none, rfl⟩ | ⟨before, after, more, rfl, none, rfl, ends | ⟨-, impossible⟩⟩
  · have same : plain.takeWhile (· ≠ '_') = plain := by
      rw [List.takeWhile_eq_self_iff]
      intro c member
      refine decide_eq_true ?_
      rintro rfl
      exact none member
    refine ⟨[], ?_, ?_, .inl rfl⟩
    · rw [same, List.append_nil]
    · rwa [same]
  · have same : (before ++ '_' :: after).takeWhile (· ≠ '_') = before := by
      rw [List.takeWhile_append_of_pos]
      · simp
      · intro c member
        refine decide_eq_true ?_
        rintro rfl
        exact none member
    refine ⟨'_' :: after, ?_, ?_, .inr ⟨rfl, ?_⟩⟩
    · rw [same]
    · rw [takeSign_append ends.ne_nil] at isDecimal
      rw [same]
      exact isDecimal.of_append ends.takeSign
    · rwa [same]
  · exact absurd impossible Bool.false_ne_true

theorem plainDigit_of_isBlank {c : Char} (blank : isBlank c = true) : plainDigit c = c := by
  rw [plainDigit, decimalValue?_of_isBlank blank]

theorem not_isDigit_of_isBlank {c : Char} (blank : isBlank c = true) : c.isDigit = false := by
  by_contra isDigit
  obtain ⟨n, small, rfl⟩ := exists_digitChar (Bool.eq_true_of_not_eq_false isDigit)
  have table : ∀ n < 10, isBlank (Nat.digitChar n) = false := by decide
  rw [table n small] at blank
  contradiction

theorem isBlank_of_isDigit_plainDigit {c : Char} (isDigit : (plainDigit c).isDigit = true) : isBlank c = false := by
  by_contra blank
  have blank' := Bool.eq_true_of_not_eq_false blank
  rw [plainDigit_of_isBlank blank', not_isDigit_of_isBlank blank'] at isDigit
  contradiction

theorem isTrimmed_beforeLowLine {rest : List Char}
    (whole : (trim s.toList).map plainDigit = (beforeLowLine s).toList.map plainDigit ++ rest)
    (ends : rest = [] ∨ rest.head? = some '_' ∧ EndsWithDigit ((beforeLowLine s).toList.map plainDigit)) :
    IsTrimmed (beforeLowLine s).toList := by
  have trimmed := isTrimmed_trim s.toList
  have start : (beforeLowLine s).toList <+: trim s.toList := by
    rw [beforeLowLine, String.toList_ofList]
    exact List.takeWhile_prefix _
  rcases ends with rfl | ⟨-, c, last, isDigit⟩
  · have length := congrArg List.length whole
    rw [List.append_nil, List.length_map, List.length_map] at length
    rwa [start.eq_of_length length.symm]
  · obtain ⟨more, split⟩ := start
    refine ⟨fun d first => trimmed.first d ?_, fun d final => ?_⟩
    · rw [← split, List.head?_append, first]
      rfl
    · rw [List.getLast?_map, final] at last
      obtain rfl := Option.some.inj last
      exact isBlank_of_isDigit_plainDigit isDigit

theorem endsDecimal_of_blanks {blanks : List Char} (allBlank : ∀ c ∈ blanks, isBlank c = true) :
    EndsDecimal (blanks.map plainDigit) := by
  cases blanks with
  | nil => exact nofun
  | cons b blanks =>
      have blank := allBlank b List.mem_cons_self
      intro c first
      obtain rfl := Option.some.inj first
      rw [plainDigit_of_isBlank blank]
      refine ⟨not_isDigit_of_isBlank blank, ?_, ?_⟩
      · rintro rfl
        exact absurd blank (by decide)
      · rw [Bool.or_eq_false_iff, decide_eq_false_iff_not, decide_eq_false_iff_not]
        constructor
        · rintro rfl
          exact absurd blank (by decide)
        · rintro rfl
          exact absurd blank (by decide)

theorem endsDecimal_rest {rest blanks : List Char} (ends : rest = [] ∨ rest.head? = some '_')
    (allBlank : ∀ c ∈ blanks, isBlank c = true) : EndsDecimal (rest ++ blanks.map plainDigit) := by
  rcases ends with rfl | lowLine
  · exact endsDecimal_of_blanks allBlank
  · intro c first
    rw [List.head?_append, lowLine] at first
    obtain rfl := Option.some.inj first
    decide

theorem float?_of_isDecimal {cs : List Char} {d : Decimal} (trimmed : IsTrimmed cs) (none : '_' ∉ cs)
    (isDecimal : IsDecimal (takeSign (cs.map plainDigit)).2)
    (taken : takeDecimal (takeSign (cs.map plainDigit)).2 = some (d, [])) :
    float? (String.ofList cs) = some (signed (takeSign (cs.map plainDigit)).1 (toFloat d)) := by
  have none' : '_' ∉ cs.map plainDigit := by
    intro member
    obtain ⟨c, member, same⟩ := List.mem_map.mp member
    exact none (plainDigit_eq_lowLine.mp same ▸ member)
  rw [float?, String.toList_ofList, trimmed.unpadded_eq, dropLowLines_of_none none']
  simp only [Option.bind_eq_bind, Option.bind_some, isDecimal.word?_eq_none, taken]
  rfl

end Numeral

theorem Value.leadingNumber_text (s : String) :
    (Value.text s).leadingNumber = .ok ((Numeral.leading? s).getD Value.nan) := by
  show Except.ok ((Numeral.leading? (Value.plain (.text s))).getD Value.nan) = _
  rw [Value.plain]

/-- A text that is a number as a whole starts with a number, which is what it reads up to its first low line. Without low
lines that is the whole number. -/
theorem Value.leadingNumber_of_isNumber (s : String) (isNumber : (Value.text s).isNumber = true) :
    ∃ x, (Value.text s).leadingNumber = .ok x ∧ x.isNaN = false ∧ Numeral.float? (Text.beforeLowLine s) = some x ∧
      ('_' ∉ s.toList → Numeral.float? (Text.trimmed s) = some x) := by
  obtain ⟨rest, whole, isDecimal, ends⟩ := Numeral.exists_start isNumber
  obtain ⟨d, taken⟩ := isDecimal.takeDecimal_append
  obtain ⟨blanks, visible, allBlank⟩ := Text.exists_trim_append s.toList
  -- The text from its first visible character on is the start of the number and something that ends it.
  have ending := Numeral.endsDecimal_rest (ends.imp_right And.left) allBlank
  have shown : (s.toList.dropWhile Text.isBlank).map Numeral.plainDigit =
      (Text.beforeLowLine s).toList.map Numeral.plainDigit ++ (rest ++ blanks.map Numeral.plainDigit) := by
    rw [visible, List.map_append, whole, List.append_assoc]
  have nonempty : (Text.beforeLowLine s).toList.map Numeral.plainDigit ≠ [] := by
    intro nothing
    rw [nothing] at isDecimal
    exact isDecimal.ne_nil rfl
  have leading : Numeral.leading? s =
      some (Numeral.signed (Numeral.takeSign ((Text.beforeLowLine s).toList.map Numeral.plainDigit)).1 (Numeral.toFloat d)) := by
    rw [Numeral.leading?, shown, Numeral.takeSign_append nonempty]
    simp only [taken _ ending]
    rfl
  have read := Numeral.float?_of_isDecimal (Numeral.isTrimmed_beforeLowLine whole ends) (Text.not_mem_beforeLowLine s) isDecimal
    (List.append_nil _ ▸ taken [] Numeral.endsDecimal_nil)
  rw [String.ofList_toList] at read
  refine ⟨_, ?_, Numeral.isNaN_signed (Numeral.isNaN_toFloat d) _, read, ?_⟩
  · rw [Value.leadingNumber_text, leading, Option.getD_some]
  · intro none
    rw [← Text.beforeLowLine_of_none none]
    exact read

theorem Value.leadingNumber_of_isNumber_lowLine :
    (Value.text " 1_0.5 ").isNumber = true ∧
      ∃ x, (Value.text " 1_0.5 ").leadingNumber = .ok x ∧ x.isNaN = false ∧
        Numeral.float? (Text.beforeLowLine " 1_0.5 ") = some x ∧
        ('_' ∉ " 1_0.5 ".toList → Numeral.float? (Text.trimmed " 1_0.5 ") = some x) :=
  have isNumber : (Value.text " 1_0.5 ").isNumber = true := by decide +kernel
  ⟨isNumber, Value.leadingNumber_of_isNumber " 1_0.5 " isNumber⟩

/-- A low line groups the digits of a number, and ends the number that starts a text: 1000 starts with 1. -/
theorem Value.not_leadingNumber_eq_float? :
    ¬ ∀ s : String, (Value.text s).isNumber = true →
      ∃ x, (Value.text s).leadingNumber = .ok x ∧ x.isNaN = false ∧ Numeral.float? (Text.trimmed s) = some x := by
  intro agree
  have whole : (Numeral.float? (Text.trimmed "1_000")).map Float.toBits = some 0x408F400000000000 := by decide +kernel
  have start : (Numeral.leading? "1_000").map Float.toBits = some 0x3FF0000000000000 := by decide +kernel
  obtain ⟨x, leading, -, float⟩ := agree "1_000" (by decide +kernel)
  rw [float] at whole
  rw [Value.leadingNumber_text] at leading
  cases read : Numeral.leading? "1_000" with
  | none => rw [read] at start; cases start
  | some y =>
      rw [read] at start leading
      obtain rfl := Except.ok.inj leading
      exact absurd (start.symm.trans whole) (by decide)

end LogAnalysis
