import LogAnalysis.Proofs.Query.Tokens
import Mathlib.Data.List.Find

/-!
# What a closing bracket leaves unread

A part of a query that can be read is read the same way, wherever it stands, when its text goes on with a closing bracket
(`readToken_append`): nothing that looks ahead (for a quotation mark, for a slash, for the end of a list or of a word) finds
more or less than it did before.
-/

namespace LogAnalysis.Query

open Text

def Closes (cs : List Char) : Prop := ∀ c ∈ cs.head?, c = ')'

theorem closes_nil : Closes [] := by
  rintro c ⟨⟩

theorem closes_bracket (rest : List Char) : Closes (')' :: rest) := by
  rintro c ⟨⟩
  rfl

theorem closes_cases {tail : List Char} (closes : Closes tail) : tail = [] ∨ ∃ rest, tail = ')' :: rest := by
  cases tail with
  | nil => exact .inl rfl
  | cons c rest => exact .inr ⟨rest, by rw [closes c rfl]⟩

theorem Closes.stops {tail : List Char} (closes : Closes tail) {p : Char → Bool} (bracket : p ')' = false) :
    Stops p tail := by
  intro c first
  rw [closes c first]
  exact bracket

section

variable {tail : List Char} (closes : Closes tail)

/-! ## Words -/

theorem endsTerm_congr {first second : List Char} (same : endsTerm first = endsTerm second) (cs : List Char) :
    endsTerm (cs ++ first) = endsTerm (cs ++ second) := by
  cases cs with
  | nil => exact same
  | cons c cs => rfl

include closes in
theorem endsTerm_append (cs : List Char) : endsTerm (cs ++ tail) = endsTerm cs := by
  have ends : endsTerm tail = endsTerm [] := by
    rcases closes_cases closes with rfl | ⟨rest, rfl⟩
    · rfl
    · simp [endsTerm]
  have same := endsTerm_congr ends cs
  rwa [List.append_nil] at same

include closes in
theorem wordOf_append (cs : List Char) : wordOf (cs ++ tail) = wordOf cs :=
  takeWhile_append_of_stops cs (closes.stops (by decide))

theorem head?_append {cs : List Char} (nonempty : cs ≠ []) (tail : List Char) :
    (cs ++ tail).head? = cs.head? := by
  cases cs with
  | nil => contradiction
  | cons c cs => rfl

theorem dropCaseless?_append_of_stops {start : List Char} (others : ∀ a ∈ start, Stops (sameCaseless a) tail)
    (cs : List Char) : dropCaseless? start (cs ++ tail) = (dropCaseless? start cs).map (· ++ tail) := by
  induction start generalizing cs with
  | nil => rfl
  | cons a start ih =>
      cases cs with
      | nil =>
          cases tail with
          | nil => rfl
          | cons c rest => simp [dropCaseless?, others a List.mem_cons_self c rfl]
      | cons c cs =>
          have step := ih (fun b member => others b (List.mem_cons_of_mem a member)) cs
          simp only [List.cons_append, dropCaseless?, step]
          split <;> rfl

include closes in
theorem dropCaseless?_append {start : List Char} (others : ∀ a ∈ start, sameCaseless a ')' = false)
    (cs : List Char) : dropCaseless? start (cs ++ tail) = (dropCaseless? start cs).map (· ++ tail) :=
  dropCaseless?_append_of_stops (fun a member => closes.stops (others a member)) cs

def EndsWord (cs : List Char) : Prop := ∀ c ∈ cs.head?, endsWord c = true

def spelling : List Char := "ANDORThasming:".toList

theorem sameCaseless_of_endsWord {a c : Char} (letter : a ∈ spelling) (ends : endsWord c = true) :
    sameCaseless a c = false := by
  have visible : spelling.all (fun a => !isBlank (caseKey a)) = true := by decide
  simp only [endsWord, Bool.or_eq_true, decide_eq_true_eq] at ends
  rcases ends with (blank | rfl) | rfl
  · exact sameCaseless_of_isBlank (forall_mem_eq_false visible a letter) blank
  · exact forall_mem_eq_false (show spelling.all (!sameCaseless · '(') = true by decide) a letter
  · exact forall_mem_eq_false (show spelling.all (!sameCaseless · ')') = true by decide) a letter

theorem EndsWord.stops {cs : List Char} (ends : EndsWord cs) {a : Char} (letter : a ∈ spelling) : Stops (sameCaseless a) cs :=
  fun c first => sameCaseless_of_endsWord letter (ends c first)

theorem keyword?_congr {first second : List Char} (one : EndsWord first) (other : EndsWord second) (cs : List Char) :
    keyword? (cs ++ first) = keyword? (cs ++ second) := by
  unfold keyword?
  congr 1
  funext k
  have letters : k.text.toList ⊆ spelling := by cases k <;> decide
  rw [dropCaseless?_append_of_stops fun a member => one.stops (letters member),
    dropCaseless?_append_of_stops fun a member => other.stops (letters member)]
  cases dropCaseless? k.text.toList cs with
  | none => rfl
  | some rest =>
      cases rest with
      | nil =>
          cases first with
          | nil =>
              cases second with
              | nil => rfl
              | cons d ds => exact (other d rfl).symm
          | cons c cs =>
              cases second with
              | nil => exact one c rfl
              | cons d ds => exact (one c rfl).trans (other d rfl).symm
      | cons c rest => rfl

include closes in
theorem Closes.endsWord : EndsWord tail := by
  intro c first
  rw [closes c first]
  rfl

include closes in
theorem keyword?_append (cs : List Char) : keyword? (cs ++ tail) = keyword? cs := by
  have same := keyword?_congr closes.endsWord closes_nil.endsWord cs
  rwa [List.append_nil] at same

/-! ## Values -/

section

variable {position : Nat} {cs : List Char} (place : Nat) (tail : List Char)

theorem readQuoted_append {result : List Char × Nat} (read : readQuoted position cs = .ok result) :
    readQuoted place (cs ++ tail) = .ok result := by
  cases cs with
  | nil => contradiction
  | cons c rest =>
      unfold readQuoted at read ⊢
      simp only [List.cons_append, List.drop_succ_cons, List.drop_zero] at read ⊢
      split at read
      · contradiction
      · next stops =>
          have shorter := length_takeWhile_lt stops
          rw [List.takeWhile_append, if_neg stops, if_neg (by rw [List.length_append]; omega)]
          exact read

theorem patternLength?_append {n : Nat} (found : patternLength? cs = some n) :
    patternLength? (cs ++ tail) = some n := by
  fun_induction patternLength? cs generalizing n with
  | case1 => contradiction
  | case2 rest => exact found
  | case3 => contradiction
  | case4 c rest ih =>
      obtain ⟨m, inside, rfl⟩ := Option.map_eq_some_iff.mp found
      simp [patternLength?, ih inside]
  | case5 c rest noSlash noBackslash ih =>
      obtain ⟨m, inside, rfl⟩ := Option.map_eq_some_iff.mp found
      rw [List.cons_append, patternLength?, ih inside]
      · rfl
      · exact noSlash
      · exact noBackslash

theorem readPattern_append {result : Option (List Char × Nat)} (closes : Closes tail)
    (read : readPattern position cs = .ok result) : readPattern place (cs ++ tail) = .ok result := by
  cases cs with
  | nil => contradiction
  | cons c rest =>
      unfold readPattern at read ⊢
      simp only [List.cons_append, List.drop_succ_cons, List.drop_zero] at read ⊢
      cases found : patternLength? rest with
      | none =>
          rw [found] at read
          contradiction
      | some n =>
          have shorter := patternLength?_lt found
          rw [found] at read
          rw [patternLength?_append tail found]
          dsimp only at read ⊢
          rw [List.drop_append_of_le_length shorter, endsTerm_append closes,
            List.take_append_of_le_length (Nat.le_of_lt shorter)]
          exact read

theorem readValue_append {field before later : List Char} {result : Written × Nat} (closes : Closes tail)
    (read : readValue position field before cs = .ok result) :
    readValue place field later (cs ++ tail) = .ok result := by
  by_cases ends : endsTerm cs = true
  · rw [readValue, if_pos ends] at read
    contradiction
  · have nonempty : cs ≠ [] := by
      rintro rfl
      exact ends rfl
    have noBracket : cs.head? ≠ some '(' := by
      intro bracket
      rw [readValue_bracket position field before bracket] at read
      contradiction
    have goesOn : ¬ endsTerm (cs ++ tail) = true := by rwa [endsTerm_append closes]
    have first := head?_append nonempty tail
    by_cases quote : cs.head? = some '"'
    · rw [readValue_quoted position field before ends quote] at read
      obtain ⟨phrase, quoted, read⟩ := Outcome.bind_eq_ok.mp read
      rw [readValue_quoted place field later goesOn (first.trans quote), readQuoted_append place tail quoted]
      exact read
    · rw [readValue_unquoted position field before ends quote noBracket] at read
      obtain ⟨literal, found, read⟩ := Outcome.bind_eq_ok.mp read
      rw [readValue_unquoted place field later goesOn (by rwa [first]) (by rwa [first]), first, wordOf_append closes]
      split at found
      · next slash => rw [if_pos slash, readPattern_append place tail closes found]; exact read
      · next noSlash => rw [if_neg noSlash, found]; exact read

theorem readList_append {result : List (List Char) × Nat} (read : readList position cs = .ok result) :
    readList place (cs ++ tail) = .ok result := by
  unfold readList at read ⊢
  dsimp only at read ⊢
  split at read
  · contradiction
  · next stops =>
      have shorter := length_takeWhile_lt stops
      rw [List.length_drop] at shorter
      rw [List.drop_append_of_le_length (by omega), List.takeWhile_append, if_neg stops, if_neg (by
        rw [List.length_append, List.length_drop]
        omega)]
      split at read
      · contradiction
      · next items => rw [if_neg items]; exact read

end

/-! ## Fields -/

theorem existenceAfter?_append {word : String} (others : ∀ a ∈ word.toList, Stops (sameCaseless a) tail)
    (noWord : Stops isWord tail) (cs : List Char) :
    existenceAfter? (cs ++ tail) word = (dropCaseless? word.toList cs).bind fun rest =>
      let field := rest.takeWhile isWord
      if field.isEmpty || !endsTerm (rest.drop field.length ++ tail) then none
      else some (existenceCondition (cs.take (word.length - 1)) field, word.length + field.length) := by
  unfold existenceAfter?
  rw [dropCaseless?_append_of_stops others]
  cases dropped : dropCaseless? word.toList cs with
  | none => simp only [Option.map_none, Option.bind_none]
  | some rest =>
      have whole := dropCaseless?_length dropped
      have inside : word.length - 1 ≤ cs.length := by
        rw [String.length_toList] at whole
        omega
      simp only [Option.map_some, Option.bind_some]
      rw [takeWhile_append_of_stops rest noWord, List.drop_append_of_le_length (length_takeWhile_le isWord rest),
        List.take_append_of_le_length inside]

structure Unannounced (cs : List Char) : Prop where
  noLetter : ∀ a ∈ spelling, Stops (sameCaseless a) cs
  noWord : Stops isWord cs

theorem EndsWord.unannounced {cs : List Char} (ends : EndsWord cs) : Unannounced cs where
  noLetter _ letter := ends.stops letter
  noWord c first := by
    have isEnd := ends c first
    cases word : isWord c with
    | false => rfl
    | true => simp [endsWord_of_isWord word] at isEnd

theorem existence?_congr {first second : List Char} (one : Unannounced first) (other : Unannounced second)
    (same : endsTerm first = endsTerm second) (cs : List Char) : existence? (cs ++ first) = existence? (cs ++ second) := by
  have after {word : String} (letters : word.toList ⊆ spelling) :
      existenceAfter? (cs ++ first) word = existenceAfter? (cs ++ second) word := by
    rw [existenceAfter?_append (fun a member => one.noLetter a (letters member)) one.noWord,
      existenceAfter?_append (fun a member => other.noLetter a (letters member)) other.noWord]
    simp only [endsTerm_congr same]
  simp only [existence?_eq, List.findSome?_cons, List.findSome?_nil]
  rw [after (by decide), after (by decide)]

include closes in
theorem existence?_append (cs : List Char) : existence? (cs ++ tail) = existence? cs := by
  have same := existence?_congr closes.endsWord.unannounced closes_nil.endsWord.unannounced (endsTerm_append closes []) cs
  rwa [List.append_nil] at same

theorem isPrefixOf_append {sign : List Char} (others : ∀ a ∈ sign, (a == ')') = false) (closes : Closes tail)
    (cs : List Char) : sign.isPrefixOf (cs ++ tail) = sign.isPrefixOf cs := by
  induction sign generalizing cs with
  | nil => simp
  | cons a sign ih =>
      cases cs with
      | nil =>
          rcases closes_cases closes with rfl | ⟨rest, rfl⟩
          · rfl
          · have other := others a List.mem_cons_self
            simp [List.isPrefixOf, other]
      | cons c cs =>
          have step := ih (fun b member => others b (List.mem_cons_of_mem a member)) cs
          simp only [List.cons_append, List.isPrefixOf, step]

include closes in
theorem comparison?_append (cs : List Char) : comparison? (cs ++ tail) = comparison? cs := by
  have others : ∀ c ∈ comparisons, c.1.all (!· == ')') = true := by decide
  unfold comparison?
  congr 1
  exact List.find?_congr fun c member => isPrefixOf_append (forall_mem_eq_false (others c member)) closes cs

include closes in
theorem sign?_append (cs : List Char) : sign? (cs ++ tail) = sign? cs := by
  by_cases colon : cs.head? = some ':'
  · obtain ⟨rest, rfl⟩ := List.head?_eq_some_iff.mp colon
    have noBlank : Stops isBlank tail := closes.stops (by decide)
    have bound := length_takeWhile_le isBlank rest
    rw [List.cons_append, sign?_colon, sign?_colon, takeWhile_append_of_stops rest noBlank]
    dsimp only
    rw [List.drop_append_of_le_length bound, comparison?_append closes]
    cases compared : comparison? (rest.drop (rest.takeWhile isBlank).length) with
    | none => rfl
    | some found =>
        obtain ⟨operator, n⟩ := found
        obtain ⟨sign, left, -, split, rfl⟩ := comparison?_eq_some compared
        have inside := congrArg List.length split
        rw [List.length_drop, List.length_append] at inside
        dsimp only
        rw [List.drop_append_of_le_length (by omega), takeWhile_append_of_stops _ noBlank]
  · have noColon : (cs ++ tail).head? ≠ some ':' := by
      cases cs with
      | nil => rcases closes_cases closes with rfl | ⟨rest, rfl⟩ <;> simp
      | cons c cs => exact colon
    rw [sign?_of_comparison noColon, sign?_of_comparison colon, comparison?_append closes]

include closes in
theorem fieldStart?_append (cs : List Char) : fieldStart? (cs ++ tail) = fieldStart? cs := by
  have name : (cs ++ tail).takeWhile isWord = cs.takeWhile isWord :=
    takeWhile_append_of_stops cs (closes.stops (by decide))
  rw [fieldStart?_eq, fieldStart?_eq, name, List.drop_append_of_le_length (length_takeWhile_le isWord cs),
    sign?_append closes]

/-! ## Terms and tokens -/

variable {position : Nat} {cs : List Char} (place : Nat)

include closes

theorem readField_append {field : List Char} {operator : Option Operator} {start : Nat} {result : Condition × Nat}
    (bound : start ≤ cs.length) (read : readField position cs field operator start = .ok result) :
    readField place (cs ++ tail) field operator start = .ok result := by
  rw [readField_eq] at read ⊢
  rw [List.drop_append_of_le_length bound, dropCaseless?_append closes (forall_mem_eq_false (by decide)), Option.isSome_map]
  split at read
  · next isList =>
      obtain ⟨items, readItems, read⟩ := Outcome.bind_eq_ok.mp read
      rw [if_pos isList, readList_append _ tail readItems]
      exact read
  · next noList =>
      obtain ⟨value, readOne, read⟩ := Outcome.bind_eq_ok.mp read
      rw [if_neg noList, readValue_append _ tail closes readOne]
      exact read

theorem readTerm_append {result : Condition × Nat} (read : readTerm position cs = .ok result) :
    readTerm place (cs ++ tail) = .ok result := by
  unfold readTerm at read ⊢
  rw [existence?_append closes, fieldStart?_append closes, wordOf_append closes]
  split at read
  · exact read
  · split at read
    · next field operator start found =>
        obtain ⟨-, -, sign, rest, -, whole, rfl⟩ := fieldStart?_eq_some found
        have bound := congrArg List.length whole
        rw [List.length_append, List.length_append] at bound
        exact readField_append closes place (by omega) read
    · exact read

theorem readToken_append {result : TokenKind × Nat} (nonempty : cs ≠ [])
    (read : readToken position cs = .ok result) : readToken place (cs ++ tail) = .ok result := by
  unfold readToken at read ⊢
  rw [head?_append nonempty tail, keyword?_append closes]
  split at read
  · exact read
  · exact read
  · obtain ⟨phrase, quoted, read⟩ := Outcome.bind_eq_ok.mp read
    dsimp only
    rw [readQuoted_append place tail quoted]
    exact read
  · split at read
    · exact read
    · obtain ⟨found, readOne, read⟩ := Outcome.bind_eq_ok.mp read
      rw [readTerm_append closes place readOne]
      exact read

end

end LogAnalysis.Query
