import LogAnalysis.Proofs.Query.Closing
import LogAnalysis.Proofs.Query.Slashes

/-!
# The forms of tokens

`ValueAt` and `TokenAt` list the ways in which a value and a token are read, each with what decides for it. The listing is
complete, and every way in it is taken (`readToken_eq_ok_iff`).
-/

namespace LogAnalysis.Query

open Text

/-! ## Quotation marks and lists -/

section

variable {place n : Nat} {cs : List Char}

theorem readQuoted_eq (place : Nat) (q : Char) {phrase : List Char} (noQuote : '"' ∉ phrase) (rest : List Char) :
    readQuoted place (q :: (phrase ++ '"' :: rest)) = .ok (phrase, phrase.length + 2) := by
  have all : ∀ c ∈ phrase, decide (c ≠ '"') = true :=
    fun c member => decide_eq_true fun isQuote => noQuote (isQuote ▸ member)
  have body : (phrase ++ '"' :: rest).takeWhile (· ≠ '"') = phrase := by
    rw [takeWhile_append_of_stops phrase (stops_cons (by decide) rest), takeWhile_eq_self all]
  unfold readQuoted
  dsimp only
  rw [List.drop_succ_cons, List.drop_zero, body, if_neg (by simp)]

theorem exists_of_readQuoted {phrase : List Char} (read : readQuoted place cs = .ok (phrase, n)) :
    ∃ q rest, cs = q :: (phrase ++ '"' :: rest) ∧ '"' ∉ phrase ∧ n = phrase.length + 2 := by
  cases cs with
  | nil => contradiction
  | cons q cs =>
      unfold readQuoted at read
      dsimp only at read
      rw [List.drop_succ_cons, List.drop_zero] at read
      split at read
      · contradiction
      · next stops =>
          obtain ⟨rfl, rfl⟩ := Prod.mk.inj (Except.ok.inj read)
          obtain ⟨c, rest, whole, ends⟩ := exists_of_takeWhile_length stops
          obtain rfl : c = '"' := by simpa using ends
          have noQuote : '"' ∉ cs.takeWhile (· ≠ '"') := fun member => by simpa using of_mem_takeWhile _ member
          exact ⟨q, rest, congrArg (q :: ·) whole, noQuote, rfl⟩

def itemsOf (body : List Char) : List (List Char) := ((splitOn ',' body).map itemOf).filter (!·.isEmpty)

theorem readList_eq (place : Nat) {start body : List Char} (length_start : start.length = 3) (noBracket : ')' ∉ body)
    (nonempty : itemsOf body ≠ []) (rest : List Char) :
    readList place (start ++ (body ++ ')' :: rest)) = .ok (itemsOf body, body.length + 4) := by
  have all : ∀ c ∈ body, decide (c ≠ ')') = true :=
    fun c member => decide_eq_true fun isBracket => noBracket (isBracket ▸ member)
  have inside : (body ++ ')' :: rest).takeWhile (· ≠ ')') = body := by
    rw [takeWhile_append_of_stops body (stops_cons (by decide) rest), takeWhile_eq_self all]
  have someItems : ¬ (itemsOf body).isEmpty = true := by simpa using nonempty
  unfold readList
  dsimp only
  rw [show 3 = start.length from length_start.symm, List.drop_left, inside, if_neg (by simp)]
  exact if_neg someItems

theorem exists_of_readList {items : List (List Char)} (read : readList place cs = .ok (items, n)) :
    ∃ start body rest, cs = start ++ (body ++ ')' :: rest) ∧ start.length = 3 ∧ ')' ∉ body ∧ items = itemsOf body ∧
      items ≠ [] ∧ n = body.length + 4 := by
  unfold readList at read
  dsimp only at read
  split at read
  · contradiction
  · next stops =>
      have shorter := length_takeWhile_lt stops
      rw [List.length_drop] at shorter
      obtain ⟨c, rest, whole, ends⟩ := exists_of_takeWhile_length stops
      obtain rfl : c = ')' := by simpa using ends
      have noBracket : ')' ∉ (cs.drop 3).takeWhile (· ≠ ')') := fun member => by simpa using of_mem_takeWhile _ member
      split at read
      · contradiction
      · next someItems =>
          obtain ⟨rfl, rfl⟩ := Prod.mk.inj (Except.ok.inj read)
          refine ⟨cs.take 3, _, rest, ?_, ?_, noBracket, rfl, ?_, rfl⟩
          · rw [← whole, List.take_append_drop]
          · rw [List.length_take]
            omega
          · intro noItems
            exact someItems (by rw [noItems]; rfl)

end

/-! ## The ways of reading a value -/

def Unpatterned (cs : List Char) : Prop := ∃ body after, cutPattern? false cs = some (body, after) ∧ endsTerm after = false

def quotedValue (phrase : List Char) : Written :=
  if isBetween '/' '/' phrase then ⟨inner phrase, true, true⟩ else ⟨phrase, true, false⟩

inductive ValueAt (cs : List Char) : Written → Nat → Prop
  | quoted {place phrase n} : cs.head? = some '"' → readQuoted place cs = .ok (phrase, n) →
      ValueAt cs (quotedValue phrase) n
  | pattern {rest body after} : cs = '/' :: rest → cutPattern? false rest = some (body, after) → endsTerm after = true →
      ValueAt cs ⟨body, false, true⟩ (body.length + 2)
  | word : endsTerm cs = false → cs.head? ≠ some '"' → cs.head? ≠ some '(' → (∀ rest, cs = '/' :: rest → Unpatterned rest) →
      ValueAt cs ⟨wordOf cs, false, false⟩ (wordOf cs).length

section

variable {place : Nat} {field before cs : List Char} {value : Written} {n : Nat}

theorem valueAt_of_readValue (read : readValue place field before cs = .ok (value, n)) : ValueAt cs value n := by
  by_cases ends : endsTerm cs = true
  · rw [readValue, if_pos ends] at read
    contradiction
  by_cases quote : cs.head? = some '"'
  · rw [readValue_quoted place field before ends quote] at read
    obtain ⟨⟨phrase, m⟩, quoted, read⟩ := Outcome.bind_eq_ok.mp read
    obtain ⟨rfl, rfl⟩ := Prod.mk.inj (Except.ok.inj read)
    exact .quoted quote quoted
  by_cases bracket : cs.head? = some '('
  · rw [readValue_bracket place field before bracket] at read
    contradiction
  rw [readValue_unquoted place field before ends quote bracket] at read
  obtain ⟨literal, found, read⟩ := Outcome.bind_eq_ok.mp read
  have read := Except.ok.inj read
  have word (unpatterned : ∀ rest, cs = '/' :: rest → Unpatterned rest) :
      ValueAt cs ⟨wordOf cs, false, false⟩ (wordOf cs).length :=
    .word (Bool.eq_false_iff.mpr ends) quote bracket unpatterned
  split at found
  · next slash =>
      obtain ⟨rest, rfl⟩ := List.head?_eq_some_iff.mp slash
      obtain ⟨body, after, cut⟩ := exists_cut_of_readPattern found
      rw [readPattern_of_cut place cut] at found
      obtain rfl := Except.ok.inj found
      by_cases endsAfter : endsTerm after = true
      · rw [if_pos endsAfter] at read
        obtain ⟨rfl, rfl⟩ := Prod.mk.inj read
        exact .pattern rfl cut endsAfter
      · rw [if_neg endsAfter] at read
        obtain ⟨rfl, rfl⟩ := Prod.mk.inj read
        refine word fun others same => ?_
        obtain ⟨-, rfl⟩ := List.cons.inj same
        exact ⟨body, after, cut, Bool.eq_false_iff.mpr endsAfter⟩
  · next noSlash =>
      obtain rfl := Except.ok.inj found
      obtain ⟨rfl, rfl⟩ := Prod.mk.inj read
      refine word fun rest same => ?_
      rw [same] at noSlash
      exact absurd rfl noSlash

theorem ValueAt.readValue (read : ValueAt cs value n) : readValue place field before cs = .ok (value, n) := by
  cases read with
  | quoted quote quoted =>
      obtain ⟨rest, rfl⟩ := List.head?_eq_some_iff.mp quote
      have goesOn : ¬ endsTerm ('"' :: rest) = true := by
        simp only [endsTerm]
        decide
      have elsewhere := readQuoted_append place [] quoted
      rw [List.append_nil] at elsewhere
      rw [readValue_quoted place field before goesOn quote, elsewhere]
      rfl
  | @pattern rest body after same cut ends =>
      subst same
      have goesOn : ¬ endsTerm ('/' :: rest) = true := by
        simp only [endsTerm]
        decide
      rw [readValue_unquoted place field before goesOn (by simp) (by simp), if_pos (show ('/' :: rest).head? = some '/' from rfl),
        readPattern_of_cut place cut, if_pos ends]
      rfl
  | word goesOn noQuote noBracket unpatterned =>
      rw [readValue_unquoted place field before (by simp [goesOn]) noQuote noBracket]
      split
      · next slash =>
          obtain ⟨rest, rfl⟩ := List.head?_eq_some_iff.mp slash
          obtain ⟨body, after, cut, goesOn⟩ := unpatterned rest rfl
          rw [readPattern_of_cut place cut, goesOn]
          rfl
      · rfl

end

/-! ## The ways of reading a token -/

def BeginsWord (cs : List Char) : Prop := ∃ c rest, cs = c :: rest ∧ endsWord c = false ∧ c ≠ '"'

def announcesList (cs : List Char) : Bool := (dropCaseless? "in(".toList cs).isSome

inductive TokenAt (cs : List Char) : TokenKind → Nat → Prop
  | opening : cs.head? = some '(' → TokenAt cs .opening 1
  | closing : cs.head? = some ')' → TokenAt cs .closing 1
  | phrase {place phrase n} : cs.head? = some '"' → readQuoted place cs = .ok (phrase, n) →
      TokenAt cs (.term (holding phrase)) n
  | keyword {k} : BeginsWord cs → keyword? cs = some k → TokenAt cs (.keyword k) k.text.length
  | question {c n} : BeginsWord cs → keyword? cs = none → existence? cs = some (c, n) → TokenAt cs (.term c) n
  | list {place field sign rest items n} : cs = field ++ (sign ++ rest) → field ≠ [] → (∀ c ∈ field, isWord c = true) →
      existence? cs = none → sign? (sign ++ rest) = some (none, sign.length) → announcesList rest = true →
      readList place rest = .ok (items, n) → TokenAt cs (.term (listCondition field items)) (field.length + sign.length + n)
  | value {field sign operator rest value n} : cs = field ++ (sign ++ rest) → field ≠ [] → (∀ c ∈ field, isWord c = true) →
      existence? cs = none → sign? (sign ++ rest) = some (operator, sign.length) →
      (operator = none → announcesList rest = false) → ValueAt rest value n →
      TokenAt cs (.term (valueCondition field operator value)) (field.length + sign.length + n)
  | word : BeginsWord cs → keyword? cs = none → existence? cs = none → fieldStart? cs = none →
      TokenAt cs (.term (holding (wordOf cs))) (wordOf cs).length

section

variable {place : Nat} {cs field : List Char} {kind : TokenKind} {n : Nat}

theorem exists_of_fieldStart? {operator : Option Operator} (found : fieldStart? cs = some (field, operator, n)) :
    ∃ sign rest, cs = field ++ (sign ++ rest) ∧ field ≠ [] ∧ (∀ c ∈ field, isWord c = true) ∧
      sign? (sign ++ rest) = some (operator, sign.length) ∧ n = field.length + sign.length := by
  obtain ⟨isField, nonempty, -⟩ := fieldStart?_eq_some found
  rw [fieldStart?_eq, ← isField] at found
  split at found
  · contradiction
  · obtain ⟨⟨operator', m⟩, signed, result⟩ := Option.map_eq_some_iff.mp found
    obtain ⟨-, rfl, rfl⟩ := result
    obtain ⟨sign, rest, isSign, split, rfl⟩ := sign?_eq_some signed
    have whole := takeWhile_append_drop isWord cs
    rw [← isField, split] at whole
    rw [split] at signed
    refine ⟨sign, rest, whole.symm, nonempty, ?_, signed, rfl⟩
    rw [isField]
    exact of_mem_takeWhile

theorem fieldSign_of_sign? {sign rest : List Char} {operator : Option Operator}
    (signed : sign? (sign ++ rest) = some (operator, sign.length)) : FieldSign sign operator := by
  obtain ⟨sign', rest', isSign, split, same⟩ := sign?_eq_some signed
  obtain ⟨rfl, -⟩ := List.append_inj split same
  exact isSign

theorem readField_after (place : Nat) (field sign rest : List Char) (operator : Option Operator) :
    readField place (field ++ (sign ++ rest)) field operator (field.length + sign.length) =
      let start := field.length + sign.length
      if operator.isNone && announcesList rest then
        readList (place + start) rest >>= fun result => .ok (listCondition field result.1, start + result.2)
      else
        readValue (place + start) field ((field ++ (sign ++ rest)).take start) rest >>= fun result =>
          .ok (valueCondition field operator result.1, start + result.2) := by
  rw [readField_eq, drop_length_add]
  rfl

theorem tokenAt_of_readField {sign rest : List Char} {operator : Option Operator} {c : Condition}
    (whole : cs = field ++ (sign ++ rest)) (nonempty : field ≠ []) (word : ∀ c ∈ field, isWord c = true)
    (noQuestion : existence? cs = none) (signed : sign? (sign ++ rest) = some (operator, sign.length))
    (read : readField place cs field operator (field.length + sign.length) = .ok (c, n)) : TokenAt cs (.term c) n := by
  subst whole
  rw [readField_after] at read
  dsimp only at read
  split at read
  · next isList =>
      obtain ⟨noOperator, announced⟩ := Bool.and_eq_true_iff.mp isList
      obtain rfl := Option.isNone_iff_eq_none.mp noOperator
      obtain ⟨⟨items, m⟩, readItems, read⟩ := Outcome.bind_eq_ok.mp read
      obtain ⟨rfl, rfl⟩ := Prod.mk.inj (Except.ok.inj read)
      exact .list rfl nonempty word noQuestion signed announced readItems
  · next noList =>
      obtain ⟨⟨value, m⟩, readOne, read⟩ := Outcome.bind_eq_ok.mp read
      obtain ⟨rfl, rfl⟩ := Prod.mk.inj (Except.ok.inj read)
      refine .value rfl nonempty word noQuestion signed (fun noOperator => ?_) (valueAt_of_readValue readOne)
      subst noOperator
      exact Bool.eq_false_iff.mpr fun announced => noList (Bool.and_eq_true_iff.mpr ⟨rfl, announced⟩)

theorem tokenAt_of_readToken {c : Char} (noBlank : isBlank c = false)
    (read : readToken place (c :: cs) = .ok (kind, n)) : TokenAt (c :: cs) kind n := by
  by_cases isBracket : endsWord c = true
  · have bracket : c = '(' ∨ c = ')' := by simpa [endsWord, noBlank] using isBracket
    rcases bracket with rfl | rfl
    · obtain ⟨rfl, rfl⟩ := Prod.mk.inj (Except.ok.inj read)
      exact .opening rfl
    · obtain ⟨rfl, rfl⟩ := Prod.mk.inj (Except.ok.inj read)
      exact .closing rfl
  by_cases isQuote : c = '"'
  · obtain rfl := isQuote
    obtain ⟨⟨phrase, m⟩, quoted, read⟩ := Outcome.bind_eq_ok.mp read
    obtain ⟨rfl, rfl⟩ := Prod.mk.inj (Except.ok.inj read)
    exact .phrase rfl quoted
  have goesOn := Bool.eq_false_iff.mpr isBracket
  have begins : BeginsWord (c :: cs) := ⟨c, cs, rfl, goesOn, isQuote⟩
  rw [readToken_of_term goesOn isQuote] at read
  cases noKeyword : keyword? (c :: cs) with
  | some k =>
      rw [noKeyword] at read
      obtain ⟨rfl, rfl⟩ := Prod.mk.inj (Except.ok.inj read)
      exact .keyword begins noKeyword
  | none =>
      rw [noKeyword] at read
      obtain ⟨⟨condition, m⟩, term, read⟩ := Outcome.bind_eq_ok.mp read
      obtain ⟨rfl, rfl⟩ := Prod.mk.inj (Except.ok.inj read)
      unfold readTerm at term
      split at term
      · next found =>
          obtain rfl := Except.ok.inj term
          exact .question begins noKeyword found
      · next noQuestion =>
          split at term
          · next field operator start found =>
              obtain ⟨sign, rest, whole, nonempty, word, signed, rfl⟩ := exists_of_fieldStart? found
              exact tokenAt_of_readField whole nonempty word noQuestion signed term
          · next noField =>
              obtain ⟨rfl, rfl⟩ := Prod.mk.inj (Except.ok.inj term)
              exact .word begins noKeyword noQuestion noField

theorem beginsWord_of_field (nonempty : field ≠ []) (word : ∀ c ∈ field, isWord c = true) (rest : List Char) :
    BeginsWord (field ++ rest) := by
  cases field with
  | nil => contradiction
  | cons c field =>
      have isWord := word c List.mem_cons_self
      refine ⟨c, field ++ rest, rfl, endsWord_of_isWord isWord, ?_⟩
      rintro rfl
      exact absurd isWord (by decide)

theorem keyword?_of_sign {sign : List Char} {operator : Option Operator} (word : ∀ c ∈ field, isWord c = true)
    (isSign : FieldSign sign operator) (rest : List Char) : keyword? (field ++ (sign ++ rest)) = none := by
  obtain ⟨s, more, rfl, isStart⟩ := isSign.head
  exact keyword?_of_field word isStart (more ++ rest)

theorem readToken_of_field {sign rest : List Char} {operator : Option Operator} (nonempty : field ≠ [])
    (word : ∀ c ∈ field, isWord c = true) (noQuestion : existence? (field ++ (sign ++ rest)) = none)
    (signed : sign? (sign ++ rest) = some (operator, sign.length)) (place : Nat) :
    readToken place (field ++ (sign ++ rest)) =
      readField place (field ++ (sign ++ rest)) field operator (field.length + sign.length) >>= fun result =>
        .ok (.term result.1, result.2) := by
  have noKeyword := keyword?_of_sign word (fieldSign_of_sign? signed) rest
  have term : readTerm place (field ++ (sign ++ rest)) =
      readField place (field ++ (sign ++ rest)) field operator (field.length + sign.length) := by
    unfold readTerm
    rw [noQuestion, fieldStart?_of_sign? nonempty word signed]
  obtain ⟨f, more, whole, goesOn, noQuote⟩ := beginsWord_of_field nonempty word (sign ++ rest)
  rw [← term, whole, readToken_of_term goesOn noQuote, ← whole, noKeyword]

theorem TokenAt.readToken (token : TokenAt cs kind n) (place : Nat) : readToken place cs = .ok (kind, n) := by
  cases token with
  | opening first =>
      obtain ⟨rest, rfl⟩ := List.head?_eq_some_iff.mp first
      rfl
  | closing first =>
      obtain ⟨rest, rfl⟩ := List.head?_eq_some_iff.mp first
      rfl
  | phrase first quoted =>
      obtain ⟨rest, rfl⟩ := List.head?_eq_some_iff.mp first
      have elsewhere := readQuoted_append place [] quoted
      rw [List.append_nil] at elsewhere
      unfold Query.readToken
      simp only [List.head?_cons]
      rw [elsewhere]
      rfl
  | keyword begins found =>
      obtain ⟨c, rest, rfl, goesOn, noQuote⟩ := begins
      rw [readToken_of_term goesOn noQuote, found]
  | question begins noKeyword found =>
      obtain ⟨c, rest, rfl, goesOn, noQuote⟩ := begins
      rw [readToken_of_term goesOn noQuote, noKeyword]
      unfold readTerm
      rw [found]
      rfl
  | @list _ field sign rest items m whole nonempty word noQuestion signed announced readItems =>
      subst whole
      have elsewhere := readList_append (place + (field.length + sign.length)) [] readItems
      rw [List.append_nil] at elsewhere
      rw [readToken_of_field nonempty word noQuestion signed, readField_after]
      dsimp only
      rw [announced, elsewhere]
      rfl
  | @value field sign operator rest value m whole nonempty word noQuestion signed noList readOne =>
      subst whole
      have isValue : (operator.isNone && announcesList rest) = false := by
        cases operator with
        | none => exact noList rfl
        | some operator => rfl
      rw [readToken_of_field nonempty word noQuestion signed, readField_after]
      dsimp only
      rw [isValue, readOne.readValue]
      rfl
  | word begins noKeyword noQuestion noField =>
      obtain ⟨c, rest, rfl, goesOn, noQuote⟩ := begins
      rw [readToken_of_term goesOn noQuote, noKeyword]
      unfold readTerm
      rw [noQuestion, noField]
      rfl

theorem readToken_eq_ok_iff {c : Char} (noBlank : isBlank c = false) :
    readToken place (c :: cs) = .ok (kind, n) ↔ TokenAt (c :: cs) kind n :=
  ⟨tokenAt_of_readToken noBlank, fun token => token.readToken place⟩

end

end LogAnalysis.Query
