import LogAnalysis.Proofs.Outcome
import LogAnalysis.Query.Token

/-!
# Where the parts of a term end

Every part of a query is read from the start of a text, with its length. Here: the length reaches past the start and not
past the end of the text, and a refusal points into the text (`Covers`, one lemma for each part).
-/

namespace LogAnalysis.Query

open Text

/-! ## Runs of characters -/

def Stops (p : Char → Bool) (cs : List Char) : Prop := ∀ c ∈ cs.head?, p c = false

theorem stops_cons {p : Char → Bool} {c : Char} (other : p c = false) (cs : List Char) : Stops p (c :: cs) := by
  rintro d ⟨⟩
  exact other

theorem takeWhile_append_of_stops {p : Char → Bool} (cs : List Char) {rest : List Char} (stops : Stops p rest) :
    (cs ++ rest).takeWhile p = cs.takeWhile p := by
  induction cs with
  | nil =>
      cases rest with
      | nil => rfl
      | cons c rest => simp [stops c rfl]
  | cons c cs ih =>
      rw [List.cons_append, List.takeWhile_cons, List.takeWhile_cons, ih]

theorem takeWhile_eq_self {p : Char → Bool} {cs : List Char} (all : ∀ c ∈ cs, p c = true) : cs.takeWhile p = cs := by
  induction cs with
  | nil => rfl
  | cons c cs ih =>
      rw [List.takeWhile_cons_of_pos (all c List.mem_cons_self), ih fun d member => all d (List.mem_cons_of_mem c member)]

theorem forall_mem_eq_false {p : Char → Bool} {cs : List Char} (check : cs.all (!p ·) = true) :
    ∀ c ∈ cs, p c = false := by
  simpa using check

theorem of_mem_takeWhile {p : Char → Bool} {cs : List Char} : ∀ c ∈ cs.takeWhile p, p c = true :=
  List.all_eq_true.mp List.all_takeWhile

theorem takeWhile_append_drop (p : Char → Bool) (cs : List Char) :
    cs.takeWhile p ++ cs.drop (cs.takeWhile p).length = cs :=
  List.prefix_iff_eq_append.mp (List.takeWhile_prefix p)

theorem length_takeWhile_le (p : Char → Bool) (cs : List Char) : (cs.takeWhile p).length ≤ cs.length :=
  (List.takeWhile_prefix p).length_le

theorem length_takeWhile_lt {p : Char → Bool} {cs : List Char} (stops : (cs.takeWhile p).length ≠ cs.length) :
    (cs.takeWhile p).length < cs.length :=
  Nat.lt_of_le_of_ne (length_takeWhile_le p cs) stops

theorem exists_of_takeWhile_length {p : Char → Bool} {cs : List Char} (stops : (cs.takeWhile p).length ≠ cs.length) :
    ∃ c rest, cs = cs.takeWhile p ++ c :: rest ∧ p c = false := by
  induction cs with
  | nil => contradiction
  | cons c cs ih =>
      cases holds : p c with
      | false => exact ⟨c, cs, by rw [List.takeWhile_cons_of_neg (by simp [holds])]; rfl, holds⟩
      | true =>
          rw [List.takeWhile_cons_of_pos holds] at stops ⊢
          obtain ⟨d, rest, whole, ends⟩ := ih fun same => stops (congrArg (· + 1) same)
          exact ⟨d, rest, congrArg (c :: ·) whole, ends⟩

theorem drop_length_add (first second rest : List Char) :
    (first ++ (second ++ rest)).drop (first.length + second.length) = rest := by
  rw [← List.drop_drop, List.drop_left, List.drop_left]

/-! ## Lengths and places -/

/-- What is read is the beginning of the text, and a refusal points into the text, which stands at a position. -/
def Covers {α : Type} (position : Nat) (cs : List Char) : Outcome (α × Nat) → Prop
  | .ok (_, n) => 0 < n ∧ n ≤ cs.length
  | .error fault => ∃ f p, fault = .query f ∧ f.position = some p ∧ position ≤ p ∧ p ≤ position + cs.length

theorem covers_refuse {α : Type} (problem : Problem) (fragment : List Char) (position : Nat) (cs : List Char) :
    Covers position cs (refuse problem fragment position : Outcome (α × Nat)) :=
  ⟨_, position, rfl, rfl, Nat.le_refl _, Nat.le_add_right _ _⟩

theorem Covers.map {α β : Type} {position : Nat} {cs : List Char} {o : Outcome (α × Nat)}
    (covers : Covers position cs o) (f : α → β) :
    Covers position cs (o >>= fun result => .ok (f result.1, result.2)) := by
  cases o with
  | error fault => exact covers
  | ok result => exact covers

/-! ## Values -/

theorem readQuoted_covers (position : Nat) (cs : List Char) : Covers position cs (readQuoted position cs) := by
  unfold readQuoted
  dsimp only
  split
  · exact covers_refuse _ _ _ _
  · next stops =>
      have shorter := length_takeWhile_lt stops
      rw [List.length_drop] at shorter
      exact ⟨by omega, by omega⟩

theorem patternLength?_lt {cs : List Char} {n : Nat} (found : patternLength? cs = some n) : n < cs.length := by
  fun_induction patternLength? cs generalizing n with
  | case1 => contradiction
  | case2 rest =>
      obtain rfl := Option.some.inj found
      exact Nat.succ_pos _
  | case3 => contradiction
  | case4 c rest ih =>
      obtain ⟨m, inside, rfl⟩ := Option.map_eq_some_iff.mp found
      have shorter := ih inside
      simp only [List.length_cons]
      omega
  | case5 c rest _ _ ih =>
      obtain ⟨m, inside, rfl⟩ := Option.map_eq_some_iff.mp found
      have shorter := ih inside
      simp only [List.length_cons]
      omega

theorem readPattern_cases (position : Nat) (cs : List Char) :
    (∃ n, patternLength? (cs.drop 1) = some n ∧
      readPattern position cs = .ok (some ((cs.drop 1).take n, n + 2))) ∨
    readPattern position cs = .ok none ∨
    readPattern position cs = refuse .unterminatedPattern cs position := by
  unfold readPattern
  dsimp only
  cases found : patternLength? (cs.drop 1) with
  | none => exact .inr (.inr rfl)
  | some n =>
      dsimp only
      split
      · exact .inl ⟨n, rfl, rfl⟩
      · exact .inr (.inl rfl)

theorem endsTerm_of_endsWord {c : Char} {cs : List Char} (ends : endsWord c = true) (opens : c ≠ '(') :
    endsTerm (c :: cs) = true := by
  simp_all [endsWord, endsTerm]

theorem wordOf_cons {c : Char} {cs : List Char} (goesOn : endsWord c = false) :
    wordOf (c :: cs) = c :: wordOf cs := by
  simp [wordOf, goesOn]

theorem length_wordOf_le (cs : List Char) : (wordOf cs).length ≤ cs.length :=
  length_takeWhile_le _ _

theorem readValue_bracket (position : Nat) (field before : List Char) {cs : List Char}
    (bracket : cs.head? = some '(') : readValue position field before cs = .error .noSuchPart := by
  obtain ⟨rest, rfl⟩ := List.head?_eq_some_iff.mp bracket
  have noWord : wordOf ('(' :: rest) = [] := by simp [wordOf, endsWord]
  have noEnd : endsTerm ('(' :: rest) = false := by
    simp only [endsTerm]
    decide
  simp [readValue, noWord, noEnd]

theorem exists_wordOf {cs : List Char} (goesOn : ¬ endsTerm cs = true) (noBracket : cs.head? ≠ some '(') :
    ∃ c word, wordOf cs = c :: word := by
  cases cs with
  | nil => exact absurd rfl goesOn
  | cons c rest =>
      have opens : c ≠ '(' := fun isOpening => noBracket (congrArg some isOpening)
      have noEnd : endsWord c = false :=
        Bool.eq_false_iff.mpr fun ends => goesOn (endsTerm_of_endsWord ends opens)
      exact ⟨c, wordOf rest, wordOf_cons noEnd⟩

section readValue

variable {cs : List Char} (position : Nat) (field before : List Char)

theorem readValue_quoted (goesOn : ¬ endsTerm cs = true) (quote : cs.head? = some '"') :
    readValue position field before cs = readQuoted position cs >>= fun result =>
      .ok (if isBetween '/' '/' result.1 then ⟨inner result.1, true, true⟩ else ⟨result.1, true, false⟩,
        result.2) := by
  rw [readValue, if_neg goesOn, if_pos quote]
  congr 1
  funext result
  dsimp only
  split <;> rfl

theorem readValue_unquoted (goesOn : ¬ endsTerm cs = true) (noQuote : cs.head? ≠ some '"')
    (noBracket : cs.head? ≠ some '(') :
    readValue position field before cs =
      (if cs.head? = some '/' then readPattern position cs else .ok none) >>= fun literal =>
        .ok ((literal.map fun result => (⟨result.1, false, true⟩, result.2)).getD
          (⟨wordOf cs, false, false⟩, (wordOf cs).length)) := by
  obtain ⟨c, word, word_eq⟩ := exists_wordOf goesOn noBracket
  rw [readValue, if_neg goesOn, if_neg noQuote, word_eq]
  dsimp only
  by_cases slash : cs.head? = some '/'
  · rw [if_pos slash, if_pos slash]
    congr 1
    funext literal
    cases literal <;> rfl
  · rw [if_neg slash, if_neg slash]
    rfl

theorem readValue_covers (noBracket : cs.head? ≠ some '(') :
    Covers position cs (readValue position field before cs) := by
  by_cases goesOn : endsTerm cs = true
  · rw [readValue, if_pos goesOn]
    exact covers_refuse _ _ _ _
  · by_cases quote : cs.head? = some '"'
    · rw [readValue_quoted position field before goesOn quote]
      exact (readQuoted_covers position cs).map fun phrase =>
        if isBetween '/' '/' phrase then Written.mk (inner phrase) true true else Written.mk phrase true false
    · obtain ⟨c, word, word_eq⟩ := exists_wordOf goesOn noBracket
      have bound := length_wordOf_le cs
      have covers : Covers position cs (.ok (Written.mk (wordOf cs) false false, (wordOf cs).length)) :=
        ⟨by simp [word_eq], bound⟩
      rw [readValue_unquoted position field before goesOn quote noBracket]
      split
      · rcases readPattern_cases position cs with ⟨n, found, outcome⟩ | outcome | outcome
        · have shorter := patternLength?_lt found
          rw [List.length_drop] at shorter
          rw [outcome]
          exact ⟨Nat.succ_pos _, by omega⟩
        · rw [outcome]
          exact covers
        · rw [outcome]
          exact covers_refuse _ _ _ _
      · exact covers

end readValue

/-! ## Lists -/

theorem readList_covers (position : Nat) (cs : List Char) : Covers position cs (readList position cs) := by
  unfold readList
  dsimp only
  split
  · exact covers_refuse _ _ _ _
  · next stops =>
      split
      · exact covers_refuse _ _ _ _
      · have shorter := length_takeWhile_lt stops
        rw [List.length_drop] at shorter
        exact ⟨by omega, by omega⟩

/-! ## Fields -/

theorem exists_of_dropCaseless? {start cs rest : List Char} (found : dropCaseless? start cs = some rest) :
    ∃ u, cs = u ++ rest ∧ u.length = start.length := by
  fun_induction dropCaseless? start cs with
  | case1 cs =>
      obtain rfl := Option.some.inj found
      exact ⟨[], rfl, rfl⟩
  | case2 => contradiction
  | case3 a start c cs same ih =>
      obtain ⟨u, rfl, length_u⟩ := ih found
      exact ⟨c :: u, rfl, congrArg (· + 1) length_u⟩
  | case4 => contradiction

theorem dropCaseless?_length {start cs rest : List Char} (found : dropCaseless? start cs = some rest) :
    cs.length = start.length + rest.length := by
  obtain ⟨u, rfl, length_u⟩ := exists_of_dropCaseless? found
  rw [List.length_append, length_u]

def existenceCondition (spelling field : List Char) : Condition :=
  let operator := if lowered (String.ofList spelling) = "has" then Operator.notEmpty else .empty
  ⟨.text (String.ofList field), .text operator.name, .null⟩

def existenceAfter? (cs : List Char) (word : String) : Option (Condition × Nat) :=
  (dropCaseless? word.toList cs).bind fun rest =>
    let field := rest.takeWhile isWord
    if field.isEmpty || !endsTerm (rest.drop field.length) then none
    else some (existenceCondition (cs.take (word.length - 1)) field, word.length + field.length)

theorem existence?_eq (cs : List Char) : existence? cs = ["has:", "missing:"].findSome? (existenceAfter? cs) := rfl

theorem existence?_eq_some {cs : List Char} {c : Condition} {n : Nat} (found : existence? cs = some (c, n)) :
    ∃ word ∈ ["has:", "missing:"], ∃ rest, dropCaseless? word.toList cs = some rest ∧
      rest.takeWhile isWord ≠ [] ∧ n = word.length + (rest.takeWhile isWord).length ∧
      endsTerm (rest.drop (rest.takeWhile isWord).length) = true ∧
      c = existenceCondition (cs.take (word.length - 1)) (rest.takeWhile isWord) := by
  rw [existence?_eq] at found
  obtain ⟨word, member, found⟩ := List.exists_of_findSome?_eq_some found
  obtain ⟨rest, dropped, found⟩ := Option.bind_eq_some_iff.mp found
  refine ⟨word, member, rest, dropped, ?_⟩
  dsimp only at found
  split at found
  · contradiction
  · next names =>
      obtain ⟨rfl, rfl⟩ := Prod.mk.inj (Option.some.inj found)
      simp only [Bool.or_eq_true, not_or, Bool.not_eq_true', Bool.not_eq_false] at names
      exact ⟨fun noName => names.1 (by rw [noName]; rfl), rfl, names.2, rfl⟩

theorem existence?_bounds {cs : List Char} {c : Condition} {n : Nat} (found : existence? cs = some (c, n)) :
    0 < n ∧ n ≤ cs.length := by
  obtain ⟨word, -, rest, dropped, names, rfl, -⟩ := existence?_eq_some found
  have total := dropCaseless?_length dropped
  have bound := length_takeWhile_le isWord rest
  have some_name := List.length_pos_iff.mpr names
  rw [String.length_toList] at total
  omega

theorem Covers.further {α β : Type} {position start : Nat} {cs : List Char} (bound : start ≤ cs.length)
    {o : Outcome (α × Nat)} (covers : Covers (position + start) (cs.drop start) o) (f : α × Nat → β) :
    Covers position cs (o >>= fun result => .ok (f result, start + result.2)) := by
  cases o with
  | error fault =>
      obtain ⟨f, p, rfl, place, after, before⟩ := covers
      rw [List.length_drop] at before
      exact ⟨f, p, rfl, place, by omega, by omega⟩
  | ok result =>
      obtain ⟨some_length, before⟩ := covers
      rw [List.length_drop] at before
      exact ⟨by omega, by omega⟩

def valueCondition (field : List Char) (operator : Option Operator) (value : Written) : Condition :=
  match operator with
  | some operator => compare field operator value.text
  | none => shapeCondition field value

def listCondition (field : List Char) (items : List (List Char)) : Condition :=
  ⟨.text (String.ofList field), .text Operator.oneOf.name,
    .list (items.map fun item => Value.text (String.ofList item))⟩

theorem readField_eq (position : Nat) (cs field : List Char) (operator : Option Operator) (start : Nat) :
    readField position cs field operator start =
      if operator.isNone && (dropCaseless? "in(".toList (cs.drop start)).isSome then
        readList (position + start) (cs.drop start) >>= fun result =>
          .ok (listCondition field result.1, start + result.2)
      else
        readValue (position + start) field (cs.take start) (cs.drop start) >>= fun result =>
          .ok (valueCondition field operator result.1, start + result.2) := by
  unfold readField
  dsimp only
  cases operator with
  | some operator => rfl
  | none => cases dropCaseless? "in(".toList (cs.drop start) <;> rfl

theorem readField_covers (position : Nat) {cs : List Char} (field : List Char) (operator : Option Operator)
    {start : Nat} (bound : start ≤ cs.length) (noBracket : (cs.drop start).head? ≠ some '(') :
    Covers position cs (readField position cs field operator start) := by
  rw [readField_eq]
  split
  · exact (readList_covers _ _).further bound _
  · exact (readValue_covers _ _ _ noBracket).further bound _

/-! ## Starts of fields -/

/-- The sign between a field and a value: a colon, a comparison, or a colon and a comparison with white space around
it. -/
inductive FieldSign : List Char → Option Operator → Prop
  | colon : FieldSign [':'] none
  | comparison {sign operator} : (sign, operator) ∈ comparisons → FieldSign sign (some operator)
  | colonComparison {blanks sign more operator} : (sign, operator) ∈ comparisons →
      (∀ c ∈ blanks, isBlank c = true) → (∀ c ∈ more, isBlank c = true) →
      FieldSign (':' :: (blanks ++ (sign ++ more))) (some operator)

theorem comparison?_eq_some {cs : List Char} {operator : Operator} {n : Nat}
    (found : comparison? cs = some (operator, n)) :
    ∃ sign rest, (sign, operator) ∈ comparisons ∧ cs = sign ++ rest ∧ n = sign.length := by
  obtain ⟨⟨sign, operator⟩, first, pair⟩ := Option.map_eq_some_iff.mp found
  obtain ⟨rfl, rfl⟩ := Prod.mk.inj pair
  have starts := List.find?_some first
  obtain ⟨rest, rfl⟩ := List.isPrefixOf_iff_prefix.mp starts
  exact ⟨sign, rest, List.mem_of_find?_eq_some first, rfl, rfl⟩

def sign? : List Char → Option (Option Operator × Nat)
  | ':' :: rest =>
    let blanks := rest.takeWhile isBlank
    match comparison? (rest.drop blanks.length) with
    | some (operator, n) =>
      let more := (rest.drop (blanks.length + n)).takeWhile isBlank
      some (some operator, 1 + blanks.length + n + more.length)
    | none => some (none, 1)
  | cs => (comparison? cs).map fun found => (some found.1, found.2)

theorem sign?_colon (rest : List Char) :
    sign? (':' :: rest) =
      let blanks := rest.takeWhile isBlank
      match comparison? (rest.drop blanks.length) with
      | some (operator, n) =>
        let more := (rest.drop (blanks.length + n)).takeWhile isBlank
        some (some operator, 1 + blanks.length + n + more.length)
      | none => some (none, 1) := rfl

theorem sign?_of_comparison {cs : List Char} (noColon : cs.head? ≠ some ':') :
    sign? cs = (comparison? cs).map fun found => (some found.1, found.2) := by
  unfold sign?
  split
  · contradiction
  · rfl

theorem sign?_eq_some {cs : List Char} {operator : Option Operator} {n : Nat}
    (found : sign? cs = some (operator, n)) :
    ∃ sign rest, FieldSign sign operator ∧ cs = sign ++ rest ∧ n = sign.length := by
  unfold sign? at found
  split at found
  · next rest =>
      have wholeRest := takeWhile_append_drop isBlank rest
      dsimp only at found
      split at found
      · next operator m compared =>
          obtain ⟨rfl, rfl⟩ := found
          obtain ⟨sign, left, member, split, rfl⟩ := comparison?_eq_some compared
          have left_eq : rest.drop ((rest.takeWhile isBlank).length + sign.length) = left := by
            rw [← List.drop_drop, split, List.drop_left]
          have wholeLeft := takeWhile_append_drop isBlank left
          refine ⟨':' :: (rest.takeWhile isBlank ++ (sign ++ left.takeWhile isBlank)),
            left.drop (left.takeWhile isBlank).length,
            .colonComparison member of_mem_takeWhile of_mem_takeWhile, ?_, ?_⟩
          · rw [List.cons_append, List.append_assoc, List.append_assoc, wholeLeft, ← split, wholeRest]
          · rw [left_eq, List.length_cons, List.length_append, List.length_append]
            omega
      · obtain ⟨rfl, rfl⟩ := found
        exact ⟨[':'], rest, .colon, rfl, rfl⟩
  · obtain ⟨⟨operator, m⟩, compared, result⟩ := Option.map_eq_some_iff.mp found
    obtain ⟨rfl, rfl⟩ := result
    obtain ⟨sign, rest, member, rfl, rfl⟩ := comparison?_eq_some compared
    exact ⟨sign, rest, .comparison member, rfl, rfl⟩

theorem fieldStart?_eq (cs : List Char) :
    fieldStart? cs = if (cs.takeWhile isWord).isEmpty then none else
      (sign? (cs.drop (cs.takeWhile isWord).length)).map fun found =>
        (cs.takeWhile isWord, found.1, (cs.takeWhile isWord).length + found.2) := by
  unfold fieldStart?
  dsimp only
  split
  · rfl
  · split
    · next rest after =>
        rw [after, sign?_colon]
        dsimp only
        cases comparison? (rest.drop (rest.takeWhile isBlank).length) with
        | none => rfl
        | some found => simp only [Option.map_some, Nat.add_assoc]
    · next noColon =>
        rw [sign?_of_comparison]
        · cases comparison? (cs.drop (cs.takeWhile isWord).length) <;> rfl
        · intro colon
          obtain ⟨rest, after⟩ := List.head?_eq_some_iff.mp colon
          exact noColon rest after

theorem fieldStart?_eq_some {cs field : List Char} {operator : Option Operator} {n : Nat}
    (found : fieldStart? cs = some (field, operator, n)) :
    field = cs.takeWhile isWord ∧ field ≠ [] ∧ ∃ sign rest, FieldSign sign operator ∧
      cs = field ++ (sign ++ rest) ∧ n = field.length + sign.length := by
  rw [fieldStart?_eq] at found
  split at found
  · contradiction
  · next some_name =>
      obtain ⟨⟨operator', m⟩, signed, result⟩ := Option.map_eq_some_iff.mp found
      obtain ⟨rfl, rfl, rfl⟩ := result
      obtain ⟨sign, rest, isSign, split, rfl⟩ := sign?_eq_some signed
      have whole := takeWhile_append_drop isWord cs
      rw [split] at whole
      exact ⟨rfl, fun noName => some_name (by simp [noName]), sign, rest, isSign, whole.symm, rfl⟩

end LogAnalysis.Query
