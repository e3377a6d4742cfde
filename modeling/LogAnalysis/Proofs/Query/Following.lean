import LogAnalysis.Proofs.Query.Forms

/-!
# What may follow a token

A token that is read from the start of a text is read in the same way when something else follows it, as long as the new text
begins like the old one or ends terms (`MayReplace`). There are two exceptions (`Unsettled`), and both have a bracket follow a word.
-/

namespace LogAnalysis.Query

open Text

/-- A text may stand in the place of another one after a token: it begins like the other, or a term ends before it. -/
def MayReplace (r other : List Char) : Prop := other.head? = r.head? ∨ endsTerm other = true

section

variable {r other : List Char}

theorem endsWord_of_endsTerm (ends : endsTerm r = true) : EndsWord r := by
  rintro c first
  obtain ⟨rest, rfl⟩ := List.head?_eq_some_iff.mp first
  simp only [endsTerm, Bool.or_eq_true, decide_eq_true_eq] at ends
  rcases ends with blank | rfl
  · simp [endsWord, blank]
  · rfl

theorem endsTerm_eq_of_head? (same : other.head? = r.head?) : endsTerm other = endsTerm r := by
  cases r <;> cases other <;> simp_all [endsTerm]

theorem MayReplace.endsWord (may : MayReplace r other) (ends : EndsWord r) : EndsWord other := by
  rcases may with same | ends
  · intro c first
    exact ends c (same ▸ first)
  · exact endsWord_of_endsTerm ends

theorem MayReplace.endsTerm (may : MayReplace r other) (ends : endsTerm r = true) : endsTerm other = true := by
  rcases may with same | ends'
  · rwa [endsTerm_eq_of_head? same]
  · exact ends'

theorem head?_eq_of_endsWord (ends : EndsWord r) (goesOn : Query.endsTerm r = false) : r.head? = some '(' := by
  cases r with
  | nil => contradiction
  | cons c r =>
      have isEnd := ends c rfl
      by_cases opens : c = '('
      · rw [opens]
        rfl
      · rw [endsTerm_of_endsWord isEnd opens] at goesOn
        contradiction

end

/-! ## Quotation marks and lists -/

section

variable {text r : List Char} {place : Nat}

theorem text_of_readQuoted {phrase : List Char} (read : readQuoted place (text ++ r) = .ok (phrase, text.length)) :
    ∃ q, text = q :: (phrase ++ ['"']) ∧ '"' ∉ phrase := by
  obtain ⟨q, rest, whole, noQuote, length_text⟩ := exists_of_readQuoted read
  have parts : text ++ r = (q :: (phrase ++ ['"'])) ++ rest := by rw [whole]; simp
  obtain ⟨rfl, -⟩ := List.append_inj parts (by rw [length_text]; simp)
  exact ⟨q, rfl, noQuote⟩

theorem text_of_readList {items : List (List Char)} (read : readList place (text ++ r) = .ok (items, text.length)) :
    ∃ a b c body, text = [a, b, c] ++ (body ++ [')']) ∧ ')' ∉ body ∧ items = itemsOf body ∧ items ≠ [] := by
  obtain ⟨start, body, rest, whole, length_start, noBracket, rfl, someItems, length_text⟩ := exists_of_readList read
  obtain ⟨a, b, c, rfl⟩ := List.length_eq_three.mp length_start
  have parts : text ++ r = ([a, b, c] ++ (body ++ [')'])) ++ rest := by rw [whole]; simp
  obtain ⟨rfl, -⟩ := List.append_inj parts (by rw [length_text]; simp)
  exact ⟨a, b, c, body, rfl, noBracket, rfl, someItems⟩

theorem split_after {a b : List Char} (whole : text ++ r = a ++ b) (shorter : a.length ≤ text.length) :
    ∃ v, text = a ++ v ∧ b = v ++ r := by
  rcases List.append_eq_append_iff.mp whole with ⟨v, rfl, rfl⟩ | ⟨v, rfl, rfl⟩
  · have noMore : v = [] := List.eq_nil_of_length_eq_zero (by rw [List.length_append] at shorter; omega)
    subst noMore
    exact ⟨[], by simp, rfl⟩
  · exact ⟨v, rfl, rfl⟩

theorem split_term {field sign rest : List Char} {n : Nat} (whole : text ++ r = field ++ (sign ++ rest))
    (length_text : text.length = field.length + sign.length + n) :
    ∃ v, text = field ++ (sign ++ v) ∧ rest = v ++ r ∧ n = v.length := by
  obtain ⟨u, rfl, afterField⟩ := split_after whole (by omega)
  obtain ⟨v, rfl, rfl⟩ := split_after afterField.symm (by rw [List.length_append] at length_text; omega)
  refine ⟨v, rfl, rfl, ?_⟩
  rw [List.length_append, List.length_append] at length_text
  omega

end

/-! ## Signs -/

section

variable {c : Char} {x y : List Char} (same : x.head? = some '=' ↔ y.head? = some '=')

include same

theorem comparison?_congr (c : Char) : comparison? (c :: x) = comparison? (c :: y) := by
  have second (cs : List Char) : ['='].isPrefixOf cs = true ↔ cs.head? = some '=' := by
    cases cs with
    | nil => simp
    | cons d cs => simp [List.isPrefixOf, eq_comm (a := d)]
  have firsts : ['='].isPrefixOf x = ['='].isPrefixOf y := Bool.eq_iff_iff.mpr ((second x).trans (same.trans (second y).symm))
  have heads : ∀ sign ∈ comparisons, ∃ s more, sign.1 = s :: more ∧ (more = [] ∨ more = ['=']) := by simp [comparisons]
  unfold comparison?
  congr 1
  refine List.find?_congr fun sign member => ?_
  obtain ⟨s, more, split, alone | equals⟩ := heads sign member
  · rw [split, alone]
    simp [List.isPrefixOf]
  · rw [split, equals, List.isPrefixOf, List.isPrefixOf, firsts]

theorem sign?_colon_congr (noBlank : isBlank c = false) {z : List Char} {operator : Option Operator}
    (signed : sign? (':' :: (z ++ c :: x)) = some (operator, 1 + z.length)) :
    sign? (':' :: (z ++ c :: y)) = some (operator, 1 + z.length) := by
  have stops (cs : List Char) : Stops isBlank (c :: cs) := stops_cons noBlank cs
  have bound := length_takeWhile_le isBlank z
  have compared : comparison? (z.drop (z.takeWhile isBlank).length ++ c :: x) =
      comparison? (z.drop (z.takeWhile isBlank).length ++ c :: y) := by
    cases z.drop (z.takeWhile isBlank).length with
    | nil => exact comparison?_congr same c
    | cons d ds => exact comparison?_congr (by cases ds <;> simp) d
  rw [sign?_colon, takeWhile_append_of_stops z (stops _)] at signed ⊢
  dsimp only at signed ⊢
  rw [List.drop_append_of_le_length bound] at signed ⊢
  rw [← compared]
  cases found : comparison? (z.drop (z.takeWhile isBlank).length ++ c :: x) with
  | none =>
      rw [found] at signed
      exact signed
  | some result =>
      rw [found] at signed
      dsimp only at signed ⊢
      have total := (Prod.mk.inj (Option.some.inj signed)).2
      have inside : (z.takeWhile isBlank).length + result.2 ≤ z.length := by omega
      rw [List.drop_append_of_le_length inside, takeWhile_append_of_stops _ (stops _)] at signed ⊢
      exact signed

theorem sign?_congr (noBlank : isBlank c = false) {sign : List Char} {operator : Option Operator}
    (signed : sign? (sign ++ c :: x) = some (operator, sign.length)) :
    sign? (sign ++ c :: y) = some (operator, sign.length) := by
  obtain ⟨s, more, rfl, -⟩ := (fieldSign_of_sign? signed).head
  by_cases colon : s = ':'
  · subst colon
    rw [List.length_cons, Nat.add_comm] at signed ⊢
    exact sign?_colon_congr same noBlank signed
  · have noColon (cs : List Char) : (s :: cs).head? ≠ some ':' := by simpa using colon
    rw [List.cons_append, sign?_of_comparison (noColon _)] at signed ⊢
    have compared : comparison? (s :: (more ++ c :: x)) = comparison? (s :: (more ++ c :: y)) :=
      comparison?_congr (by cases more <;> simp) s
    rwa [← compared]

end

/-! ## Values -/

section

variable {v r other : List Char} {value : Written}

theorem EndsWord.stops_word (ends : EndsWord r) : Stops (!endsWord ·) r := fun c first => by simp [ends c first]

theorem wordOf_append_of_endsWord (ends : EndsWord r) (word : ∀ c ∈ v, endsWord c = false) : wordOf (v ++ r) = v := by
  rw [wordOf, takeWhile_append_of_stops v ends.stops_word, takeWhile_eq_self fun c member => by simp [word c member]]

theorem endsWord_of_wordOf (length : (wordOf (v ++ r)).length = v.length) :
    wordOf (v ++ r) = v ∧ EndsWord r ∧ ∀ c ∈ v, endsWord c = false := by
  have whole : wordOf (v ++ r) ++ (v ++ r).drop (wordOf (v ++ r)).length = v ++ r := takeWhile_append_drop _ _
  obtain ⟨same, -⟩ := List.append_inj whole length
  have inside : ∀ c ∈ v, (!endsWord c) = true := by
    rw [← same]
    exact of_mem_takeWhile
  have beyond : v ++ wordOf r = v := by rwa [wordOf, List.takeWhile_append_of_pos inside] at same
  refine ⟨same, fun c first => ?_, fun c member => by simpa using inside c member⟩
  obtain ⟨rest, rfl⟩ := List.head?_eq_some_iff.mp first
  by_contra goesOn
  rw [wordOf_cons (Bool.eq_false_iff.mpr goesOn)] at beyond
  simp at beyond

/-- A value in quotation marks does not depend on what follows, a pattern has a term end after it, and a word a word. -/
theorem ValueAt.cases_append (read : ValueAt (v ++ r) value v.length) :
    (∃ phrase, v = '"' :: (phrase ++ ['"']) ∧ ∀ other, ValueAt (v ++ other) value v.length) ∨
    (∃ w, v = '/' :: (w ++ ['/']) ∧ endsTerm r = true ∧ ∀ other, endsTerm other = true → ValueAt (v ++ other) value v.length) ∨
    (value = ⟨v, false, false⟩ ∧ EndsWord r ∧ (∀ c ∈ v, endsWord c = false) ∧ v ≠ [] ∧ v.head? ≠ some '"' ∧
      ∀ w, v = '/' :: w → Unpatterned (w ++ r)) := by
  generalize whole : v ++ r = cs at read
  generalize length_v : v.length = n at read
  cases read with
  | @quoted _ phrase _ quote quoted =>
      subst whole length_v
      obtain ⟨q, rfl, noQuote⟩ := text_of_readQuoted quoted
      obtain rfl : q = '"' := by simpa using quote
      refine .inl ⟨phrase, rfl, fun other => ?_⟩
      have quotedThere := readQuoted_eq 0 '"' noQuote other
      exact .quoted rfl (by simpa using quotedThere)
  | @pattern rest body after split cut ends =>
      obtain ⟨rfl, others⟩ := cutPattern?_eq_some cut
      have parts : v ++ r = ('/' :: (body ++ ['/'])) ++ after := by rw [whole, split]; simp
      obtain ⟨rfl, rfl⟩ := List.append_inj parts (by rw [length_v]; simp)
      refine .inr (.inl ⟨body, rfl, ends, fun other endsOther => ?_⟩)
      exact .pattern (by simp) (others other) endsOther
  | word goesOn noQuote noBracket unpatterned =>
      subst whole
      obtain ⟨same, ends, word⟩ := endsWord_of_wordOf length_v.symm
      obtain ⟨c, rest, nonempty⟩ := exists_wordOf (by simp [goesOn]) noBracket
      rw [same] at nonempty ⊢
      subst nonempty
      refine .inr (.inr ⟨rfl, ends, word, List.cons_ne_nil c rest, noQuote, fun w split => unpatterned _ ?_⟩)
      rw [split]
      rfl

theorem ValueAt.of_word (nonempty : v ≠ []) (word : ∀ c ∈ v, endsWord c = false) (noQuote : v.head? ≠ some '"')
    (ends : EndsWord other) (unpatterned : ∀ w, v = '/' :: w → Unpatterned (w ++ other)) :
    ValueAt (v ++ other) ⟨v, false, false⟩ v.length := by
  have same := wordOf_append_of_endsWord ends word
  cases v with
  | nil => contradiction
  | cons c v =>
      obtain ⟨noBlank, noOpening, noClosing⟩ := endsWord_eq_false.mp (word c List.mem_cons_self)
      have goesOn : endsTerm (c :: v ++ other) = false := by simp [endsTerm, noBlank, noClosing]
      have read := ValueAt.word goesOn noQuote (by simpa using noOpening) fun rest split => by
        obtain ⟨rfl, rfl⟩ := List.cons.inj split
        exact unpatterned v rfl
      rwa [same] at read

end

/-! ## Words that announce something -/

section

variable {text r other : List Char}

theorem exists_of_keyword? {cs : List Char} {k : Keyword} (found : keyword? cs = some k) :
    ∃ u rest, cs = u ++ rest ∧ u.length = k.text.length ∧ EndsWord rest := by
  have isKeyword := List.find?_some found
  cases dropped : dropCaseless? k.text.toList cs with
  | none => simp [dropped] at isKeyword
  | some rest =>
      obtain ⟨u, rfl, length_u⟩ := exists_of_dropCaseless? dropped
      refine ⟨u, rest, rfl, by rw [length_u, String.length_toList], ?_⟩
      rintro c first
      obtain ⟨rest, rfl⟩ := List.head?_eq_some_iff.mp first
      simpa [dropped] using isKeyword

theorem exists_of_existence? {cs : List Char} {c : Condition} {n : Nat} (found : existence? cs = some (c, n)) :
    ∃ u rest, cs = u ++ rest ∧ u.length = n ∧ endsTerm rest = true := by
  obtain ⟨word, -, rest, dropped, -, rfl, ends, -⟩ := existence?_eq_some found
  obtain ⟨u, rfl, length_u⟩ := exists_of_dropCaseless? dropped
  have whole := takeWhile_append_drop isWord rest
  refine ⟨u ++ rest.takeWhile isWord, _, ?_, ?_, ends⟩
  · rw [List.append_assoc, whole]
  · rw [List.length_append, length_u, String.length_toList]

theorem value_of_existence? {cs : List Char} {c : Condition} {n : Nat} (found : existence? cs = some (c, n)) :
    c.value = .null := by
  obtain ⟨word, -, rest, -, -, -, -, rfl⟩ := existence?_eq_some found
  rfl

theorem BeginsWord.replace (begins : BeginsWord (text ++ r)) (nonempty : text ≠ []) (other : List Char) :
    BeginsWord (text ++ other) := by
  obtain ⟨c, rest, whole, goesOn, noQuote⟩ := begins
  cases text with
  | nil => contradiction
  | cons d text =>
      obtain ⟨rfl, -⟩ := List.cons.inj whole
      exact ⟨d, text ++ other, rfl, goesOn, noQuote⟩

theorem dropCaseless?_bracket (ends : endsTerm r = true) : dropCaseless? ['('] r = none := by
  cases r with
  | nil => rfl
  | cons c r =>
      have other : sameCaseless '(' c = false := by
        simp only [endsTerm, Bool.or_eq_true, decide_eq_true_eq] at ends
        rcases ends with blank | rfl
        · exact sameCaseless_of_isBlank (by decide) blank
        · decide
      simp [dropCaseless?, other]

theorem isSome_dropCaseless?_bracket {cs ds : List Char} (same : ds.head? = cs.head?) :
    (dropCaseless? ['('] ds).isSome = (dropCaseless? ['('] cs).isSome := by
  cases cs with
  | nil => rw [List.head?_eq_none_iff.mp same]
  | cons c cs =>
      obtain ⟨ds, rfl⟩ := List.head?_eq_some_iff.mp same
      simp only [dropCaseless?]
      split <;> rfl

theorem announcesList_replace (ends : EndsWord r) (may : MayReplace r other) (noList : announcesList (text ++ r) = false) :
    announcesList (text ++ other) = false := by
  have parts (tail : List Char) (ends : EndsWord tail) : announcesList (text ++ tail) =
      (((dropCaseless? "in".toList text).map (· ++ tail)).bind (dropCaseless? ['('])).isSome := by
    have letters : "in".toList ⊆ spelling := by decide
    rw [← dropCaseless?_append_of_stops fun a member => ends.stops (letters member), ← dropCaseless?_two]
    rfl
  rw [parts r ends] at noList
  rw [parts other (may.endsWord ends)]
  cases dropped : dropCaseless? "in".toList text with
  | none => rfl
  | some rest =>
      rw [dropped, Option.map_some, Option.bind_some] at noList
      rw [Option.map_some, Option.bind_some]
      cases rest with
      | nil =>
          rcases may with same | endsOther
          · rwa [List.nil_append, isSome_dropCaseless?_bracket same]
          · rw [List.nil_append, dropCaseless?_bracket endsOther]
            rfl
      | cons d rest =>
          have same : (d :: rest ++ other).head? = (d :: rest ++ r).head? := rfl
          rwa [isSome_dropCaseless?_bracket same]

/-! ## Words without a question -/

theorem head?_equals_iff (one : EndsWord r) (two : EndsWord other) (cs : List Char) :
    (cs ++ r).head? = some '=' ↔ (cs ++ other).head? = some '=' := by
  have noEquals {tail : List Char} (ends : EndsWord tail) : tail.head? ≠ some '=' :=
    fun first => absurd (ends '=' first) (by decide)
  cases cs with
  | nil => exact iff_of_false (noEquals one) (noEquals two)
  | cons c cs => exact Iff.rfl

theorem sign?_of_endsWord (ends : EndsWord r) : sign? r = none := by
  cases signed : sign? r with
  | none => rfl
  | some found =>
      obtain ⟨sign, rest, isSign, rfl, -⟩ := sign?_eq_some signed
      obtain ⟨s, more, rfl, isStart⟩ := isSign.head
      have goesOn : ∀ s ∈ signStarts, endsWord s = false := forall_mem_eq_false (by decide)
      have isEnd := ends s rfl
      exact absurd isEnd (Bool.eq_false_iff.mp (goesOn s isStart))

theorem sign?_replace (one : EndsWord r) (two : EndsWord other) (noSign : sign? (text ++ r) = none) :
    sign? (text ++ other) = none := by
  cases text with
  | nil => exact sign?_of_endsWord two
  | cons c text =>
      by_cases colon : c = ':'
      · subst colon
        rw [List.cons_append, sign?_colon] at noSign
        dsimp only at noSign
        split at noSign <;> contradiction
      · have noColon (cs : List Char) : (c :: cs).head? ≠ some ':' := by simpa using colon
        rw [List.cons_append, sign?_of_comparison (noColon _)] at noSign ⊢
        rwa [← comparison?_congr (head?_equals_iff one two text) c]

theorem fieldStart?_replace (one : EndsWord r) (two : EndsWord other) (noField : fieldStart? (text ++ r) = none) :
    fieldStart? (text ++ other) = none := by
  rw [fieldStart?_eq, takeWhile_append_of_stops text one.unannounced.noWord,
    List.drop_append_of_le_length (length_takeWhile_le isWord text)] at noField
  rw [fieldStart?_eq, takeWhile_append_of_stops text two.unannounced.noWord,
    List.drop_append_of_le_length (length_takeWhile_le isWord text)]
  split at noField
  · next noName => rw [if_pos noName]
  · next someName => rw [if_neg someName, sign?_replace one two (Option.map_eq_none_iff.mp noField), Option.map_none]

theorem value_valueCondition (field : List Char) (operator : Option Operator) (value : Written) :
    (valueCondition field operator value).value ≠ .null := by
  cases operator with
  | some operator => simp [valueCondition, compare]
  | none =>
      simp only [valueCondition, shapeCondition]
      repeat' split
      all_goals simp [compare]

/-! ## Tokens -/

/-- The value of a term is a word that begins with a slash. Before a text that ends words, it is a pattern where a term ends after
the next slash, and this word elsewhere. -/
structure SlashWord (text r start w field : List Char) (operator : Option Operator) : Prop where
  text_eq : text = start ++ '/' :: w
  ends : EndsWord r
  unpatterned : Unpatterned (w ++ r)
  word : ∀ other, EndsWord other → Unpatterned (w ++ other) →
    TokenAt (text ++ other) (.term (valueCondition field operator ⟨'/' :: w, false, false⟩)) text.length
  pattern : ∀ other body after, EndsWord other → cutPattern? false (w ++ other) = some (body, after) → endsTerm after = true →
    TokenAt (text ++ other) (.term (valueCondition field operator ⟨body, false, true⟩)) (start.length + (body.length + 2))

/-- What comes after a token decides how it is read. There are two ways: a word before a bracket is a question where a term
ends, and a word that begins with a slash may be the start of a pattern. -/
inductive Unsettled (text r : List Char) : TokenKind → Prop
  | question {c d n} : r.head? = some '(' → c ≠ d →
      (∀ other, endsTerm other = true → TokenAt (text ++ other) (.term d) n) →
      (∀ other, other.head? = some '(' → TokenAt (text ++ other) (.term c) text.length) → Unsettled text r (.term c)
  | slash {start w field operator} : SlashWord text r start w field operator →
      Unsettled text r (.term (valueCondition field operator ⟨'/' :: w, false, false⟩))

theorem settled_or_question {c : Condition} (begins : BeginsWord (text ++ r)) (nonempty : text ≠ [])
    (noKeyword : keyword? (text ++ r) = none) (noQuestion : existence? (text ++ r) = none) (ends : EndsWord r)
    (compares : c.value ≠ .null) (otherwise : ∀ other, MayReplace r other → existence? (text ++ other) = none →
      TokenAt (text ++ other) (.term c) text.length) :
    (∀ other, MayReplace r other → TokenAt (text ++ other) (.term c) text.length) ∨ Unsettled text r (.term c) := by
  have atEnd {tail : List Char} (endsTail : endsTerm tail = true) : existence? (text ++ tail) = existence? text := by
    have same := existence?_congr (endsWord_of_endsTerm endsTail).unannounced closes_nil.endsWord.unannounced endsTail text
    rwa [List.append_nil] at same
  cases asked : existence? text with
  | none =>
      refine .inl fun other may => otherwise other may ?_
      rcases may with same | endsOther
      · have endsOther := MayReplace.endsWord (.inl same) ends
        rwa [existence?_congr endsOther.unannounced ends.unannounced (endsTerm_eq_of_head? same)]
      · rw [atEnd endsOther, asked]
  | some found =>
      obtain ⟨d, n⟩ := found
      have goesOn : endsTerm r = false := by
        refine Bool.eq_false_iff.mpr fun endsR => ?_
        rw [atEnd endsR, asked] at noQuestion
        contradiction
      -- The question is asked where a term ends, but it was not asked here: words end here and terms do not.
      have bracket := head?_eq_of_endsWord ends goesOn
      refine .inr (.question bracket (d := d) (n := n) ?_ (fun other endsOther => ?_) fun other first => ?_)
      · rintro rfl
        exact compares (value_of_existence? asked)
      · refine .question (begins.replace nonempty other) ?_ (by rw [atEnd endsOther, asked])
        rwa [keyword?_congr (endsWord_of_endsTerm endsOther) ends]
      · have same := first.trans bracket.symm
        have endsOther := MayReplace.endsWord (.inl same) ends
        refine otherwise other (.inl same) ?_
        rwa [existence?_congr endsOther.unannounced ends.unannounced (endsTerm_eq_of_head? same)]

section

variable {field sign v : List Char} {operator : Option Operator} {value : Written} (nonempty : field ≠ [])
  (word : ∀ c ∈ field, isWord c = true)

include word in
theorem existence?_of_sign (isSign : FieldSign sign operator) {rest : List Char} (noWord : Stops isWord rest) :
    existence? (field ++ (sign ++ rest)) = none := by
  obtain ⟨s, more, after, isStart, noWordAfter⟩ := isSign.starts noWord
  rw [after]
  exact existence?_of_field word isStart more fun isColon => .inl (noWordAfter isColon)

include nonempty word in
theorem TokenAt.of_value {c : Char} {x y : List Char} {n : Nat} (noBlank : isBlank c = false)
    (signed : sign? (sign ++ c :: x) = some (operator, sign.length))
    (same : x.head? = some '=' ↔ y.head? = some '=') (noQuestion : existence? (field ++ (sign ++ c :: y)) = none)
    (noList : operator = none → announcesList (c :: y) = false) (read : ValueAt (c :: y) value n) :
    TokenAt (field ++ (sign ++ c :: y)) (.term (valueCondition field operator value)) (field.length + sign.length + n) :=
  .value rfl nonempty word noQuestion (sign?_congr same noBlank signed) noList read

include nonempty word in
theorem follow_value (signed : sign? (sign ++ (v ++ r)) = some (operator, sign.length))
    (noQuestion : existence? (field ++ (sign ++ (v ++ r))) = none)
    (noList : operator = none → announcesList (v ++ r) = false) (read : ValueAt (v ++ r) value v.length) :
    (∀ other, MayReplace r other → TokenAt (field ++ (sign ++ v) ++ other) (.term (valueCondition field operator value))
      (field ++ (sign ++ v)).length) ∨
    Unsettled (field ++ (sign ++ v)) r (.term (valueCondition field operator value)) := by
  have isSign := fieldSign_of_sign? signed
  have whole (other : List Char) : field ++ (sign ++ v) ++ other = field ++ (sign ++ (v ++ other)) := by
    rw [List.append_assoc, List.append_assoc]
  have length_text : (field ++ (sign ++ v)).length = field.length + sign.length + v.length := by
    rw [List.length_append, List.length_append, Nat.add_assoc]
  rcases read.cases_append with ⟨phrase, rfl, reads⟩ | ⟨w, rfl, ends, reads⟩ | ⟨rfl, ends, inWord, someWord, noQuote, unpatterned⟩
  · refine .inl fun other _ => ?_
    rw [whole, length_text]
    exact .of_value nonempty word (by decide) signed (by cases phrase <;> simp)
      (existence?_of_sign word isSign (stops_cons (by decide) _)) (fun _ => rfl) (reads other)
  · refine .inl fun other may => ?_
    rw [whole, length_text]
    exact .of_value nonempty word (by decide) signed (by cases w <;> simp)
      (existence?_of_sign word isSign (stops_cons (by decide) _)) (fun _ => rfl) (reads other (may.endsTerm ends))
  cases v with
  | nil => exact absurd rfl someWord
  | cons c w =>
      have noBlank := (endsWord_eq_false.mp (inWord c List.mem_cons_self)).1
      have equals {other : List Char} (endsOther : EndsWord other) := head?_equals_iff ends endsOther w
      by_cases slash : c = '/'
      · subst slash
        have parts : field ++ (sign ++ '/' :: w) = (field ++ sign) ++ '/' :: w := (List.append_assoc ..).symm
        refine .inr (.slash ⟨parts, ends, unpatterned w rfl, fun other endsOther free => ?_,
          fun other body after endsOther cut endsAfter => ?_⟩)
        · rw [whole, length_text]
          refine .of_value nonempty word noBlank signed (equals endsOther)
            (existence?_of_sign word isSign (stops_cons (by decide) _)) (fun _ => rfl) ?_
          exact .of_word someWord inWord noQuote endsOther fun w' split => (List.cons.inj split).2 ▸ free
        · rw [whole, List.length_append]
          exact .of_value nonempty word noBlank signed (equals endsOther)
            (existence?_of_sign word isSign (stops_cons (by decide) _)) (fun _ => rfl) (.pattern rfl cut endsAfter)
      · refine settled_or_question ?_ (by simp [nonempty]) ?_ ?_ ends (value_valueCondition _ _ _) fun other may noQuestionThere => ?_
        · rw [whole]
          exact beginsWord_of_field nonempty word _
        · rw [whole]
          exact keyword?_of_sign word isSign _
        · rwa [whole]
        · have endsOther := may.endsWord ends
          rw [whole] at noQuestionThere ⊢
          rw [length_text]
          refine .of_value nonempty word noBlank signed (equals endsOther) noQuestionThere
            (fun noOperator => announcesList_replace ends may (noList noOperator)) ?_
          refine .of_word someWord inWord noQuote endsOther fun w' split => ?_
          exact absurd (List.cons.inj split).1 slash

end

theorem announcesList_of_start {a b c : Char} {rest : List Char} (announced : announcesList ([a, b, c] ++ rest) = true)
    (other : List Char) : announcesList ([a, b, c] ++ other) = true := by
  simpa [announcesList, dropCaseless?, apply_ite Option.isSome] using announced

theorem isBlank_of_announcesList {c : Char} {rest : List Char} (announced : announcesList (c :: rest) = true) :
    isBlank c = false := by
  cases blank : isBlank c with
  | false => rfl
  | true =>
      have other : sameCaseless 'i' c = false := sameCaseless_of_endsWord (by decide) (by simp [endsWord, blank])
      simp [announcesList, dropCaseless?, other] at announced

theorem unannounced_cons {d : Char} (letters : spelling.all (!sameCaseless · d) = true) (noWord : isWord d = false)
    (rest : List Char) : Unannounced (d :: rest) :=
  ⟨fun a member => stops_cons (forall_mem_eq_false letters a member) rest, stops_cons noWord rest⟩

theorem TokenAt.follow {kind : TokenKind} (token : TokenAt (text ++ r) kind text.length) (nonempty : text ≠ []) :
    (∀ other, MayReplace r other → TokenAt (text ++ other) kind text.length) ∨ Unsettled text r kind := by
  generalize whole : text ++ r = cs at token
  generalize length_text : text.length = n at token
  have first (other : List Char) : (text ++ other).head? = cs.head? := by
    rw [← whole, head?_append nonempty, head?_append nonempty]
  cases token with
  | opening opens => exact .inl fun other _ => .opening ((first other).trans opens)
  | closing closes => exact .inl fun other _ => .closing ((first other).trans closes)
  | @phrase _ phrase _ quote quoted =>
      subst whole length_text
      obtain ⟨q, rfl, noQuote⟩ := text_of_readQuoted quoted
      have quotedThere (other : List Char) := readQuoted_eq 0 q noQuote other
      exact .inl fun other _ => .phrase ((first other).trans quote) (by simpa using quotedThere other)
  | keyword begins found =>
      obtain ⟨u, rest, rfl, length_u, ends⟩ := exists_of_keyword? found
      obtain ⟨rfl, rfl⟩ := List.append_inj whole (length_text.trans length_u.symm)
      refine .inl fun other may => .keyword (begins.replace nonempty other) ?_
      rw [keyword?_congr (may.endsWord ends) ends, found]
  | question begins noKeyword found =>
      obtain ⟨u, rest, rfl, length_u, ends⟩ := exists_of_existence? found
      obtain ⟨rfl, rfl⟩ := List.append_inj whole (length_text.trans length_u.symm)
      refine .inl fun other may => ?_
      have endsOther := endsWord_of_endsTerm (may.endsTerm ends)
      have endsHere := endsWord_of_endsTerm ends
      refine .question (begins.replace nonempty other) ?_ ?_
      · rwa [keyword?_congr endsOther endsHere]
      · rwa [existence?_congr endsOther.unannounced endsHere.unannounced ((may.endsTerm ends).trans ends.symm)]
  | @list _ field sign rest items m split someName word noQuestion signed announced readItems =>
      subst split
      obtain ⟨v, rfl, rfl, rfl⟩ := split_term whole length_text
      obtain ⟨a, b, c, body, rfl, noBracket, rfl, someItems⟩ := text_of_readList readItems
      refine .inl fun other _ => ?_
      have unannounced (rest : List Char) : Unannounced (')' :: rest) := unannounced_cons (by decide) (by decide) rest
      have noQuestionThere : existence? (field ++ (sign ++ ([a, b, c] ++ (body ++ ')' :: other)))) = none := by
        have same := existence?_congr (unannounced other) (unannounced r) rfl (field ++ (sign ++ ([a, b, c] ++ body)))
        simpa using same.trans (by simpa using noQuestion)
      have signedThere : sign? (sign ++ ([a, b, c] ++ (body ++ ')' :: other))) = some (none, sign.length) :=
        sign?_congr (by simp) (isBlank_of_announcesList announced) signed
      have token := TokenAt.list rfl someName word noQuestionThere signedThere (announcesList_of_start announced _)
        (readList_eq 0 rfl noBracket someItems other)
      simpa using token
  | @value field sign operator rest value m split someName word noQuestion signed noList read =>
      subst split
      obtain ⟨v, rfl, rfl, rfl⟩ := split_term whole length_text
      rw [← length_text]
      exact follow_value someName word signed noQuestion noList read
  | word begins noKeyword noQuestion noField =>
      subst whole
      obtain ⟨same, ends, inWord⟩ := endsWord_of_wordOf length_text.symm
      rw [same]
      refine settled_or_question begins nonempty noKeyword noQuestion ends (by simp [holding, compare])
        fun other may noQuestionThere => ?_
      have endsOther := may.endsWord ends
      have token := TokenAt.word (begins.replace nonempty other) (by rwa [keyword?_congr endsOther ends]) noQuestionThere
        (fieldStart?_replace ends endsOther noField)
      rwa [wordOf_append_of_endsWord endsOther inWord] at token

theorem TokenAt.endsWord {kind : TokenKind} (token : TokenAt (text ++ r) kind text.length) {d : Char}
    (last : text.getLast? = some d) (plain : d ∉ ['"', '(', ')']) : EndsWord r := by
  generalize whole : text ++ r = cs at token
  generalize length_text : text.length = n at token
  have single (bracket : Char) (first : cs.head? = some bracket) (length : text.length = 1) : d = bracket := by
    obtain ⟨c, rfl⟩ := List.length_eq_one_iff.mp length
    obtain rfl : c = d := by simpa using last
    rw [← whole] at first
    simpa using first
  cases token with
  | opening first => exact absurd (by simp [single '(' first length_text]) plain
  | closing first => exact absurd (by simp [single ')' first length_text]) plain
  | phrase quote quoted =>
      subst whole length_text
      obtain ⟨q, rfl, -⟩ := text_of_readQuoted quoted
      obtain rfl : '"' = d := by simpa [List.getLast?_cons] using last
      exact absurd (by simp) plain
  | keyword begins found =>
      obtain ⟨u, rest, rfl, length_u, ends⟩ := exists_of_keyword? found
      obtain ⟨-, rfl⟩ := List.append_inj whole (length_text.trans length_u.symm)
      exact ends
  | question begins noKeyword found =>
      obtain ⟨u, rest, rfl, length_u, ends⟩ := exists_of_existence? found
      obtain ⟨-, rfl⟩ := List.append_inj whole (length_text.trans length_u.symm)
      exact endsWord_of_endsTerm ends
  | list split _ _ _ _ _ readItems =>
      subst split
      obtain ⟨v, rfl, rfl, rfl⟩ := split_term whole length_text
      obtain ⟨a, b, c, body, rfl, -⟩ := text_of_readList readItems
      obtain rfl : ')' = d := by simpa [List.getLast?_append, List.getLast?_cons] using last
      exact absurd (by simp) plain
  | value split _ _ _ _ _ read =>
      subst split
      obtain ⟨v, rfl, rfl, rfl⟩ := split_term whole length_text
      rcases read.cases_append with ⟨phrase, rfl, -⟩ | ⟨w, -, ends, -⟩ | ⟨-, ends, -⟩
      · obtain rfl : '"' = d := by simpa [List.getLast?_append, List.getLast?_cons] using last
        exact absurd (by simp) plain
      · exact endsWord_of_endsTerm ends
      · exact ends
  | word =>
      subst whole
      exact (endsWord_of_wordOf length_text.symm).2.1

end

end LogAnalysis.Query
