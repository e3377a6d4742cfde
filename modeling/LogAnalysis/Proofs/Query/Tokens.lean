import LogAnalysis.Proofs.Query.Terms
import LogAnalysis.Proofs.Text.Characters

/-!
# Where tokens end

Of a token that can be read the length is known to lie in the text, and a refusal points into it (`readToken_covers`).
One shape of text is neither read nor refused as a query: a value that begins with an opening bracket
(`readToken_of_bracketValue`).
-/

namespace LogAnalysis.Query

open Text

def BracketValue (cs : List Char) : Prop :=
  ∃ field sign operator rest, field ≠ [] ∧ (∀ c ∈ field, isWord c = true) ∧ FieldSign sign operator ∧
    cs = field ++ (sign ++ '(' :: rest)

/-! ## Signs before a bracket -/

def comparisonStarts : List Char := ['>', '<', '!', '=']

theorem comparison_starts {sign : List Char} {operator : Operator} (member : (sign, operator) ∈ comparisons) :
    ∃ c rest, sign = c :: rest ∧ c ∈ comparisonStarts := by
  simp only [comparisons, List.mem_cons, List.not_mem_nil, or_false, Prod.mk.injEq] at member
  rcases member with ⟨rfl, -⟩ | ⟨rfl, -⟩ | ⟨rfl, -⟩ | ⟨rfl, -⟩ | ⟨rfl, -⟩ | ⟨rfl, -⟩
  all_goals exact ⟨_, _, rfl, by decide⟩

theorem stops_comparison {p : Char → Bool} (check : comparisonStarts.all (!p ·) = true) {sign : List Char}
    {operator : Operator} (member : (sign, operator) ∈ comparisons) (rest : List Char) : Stops p (sign ++ rest) := by
  obtain ⟨c, others, rfl, first⟩ := comparison_starts member
  exact stops_cons (forall_mem_eq_false check c first) _

theorem stops_blanks {p : Char → Bool} (noBlank : ∀ c, isBlank c = true → p c = false) {blanks rest : List Char}
    (allBlank : ∀ c ∈ blanks, isBlank c = true) (stops : Stops p rest) : Stops p (blanks ++ rest) := by
  cases blanks with
  | nil => exact stops
  | cons b blanks => exact stops_cons (noBlank b (allBlank b List.mem_cons_self)) _

theorem beq_equals_of_isBlank (c : Char) (blank : isBlank c = true) : (c == '=') = false := by
  cases isEqual : c == '=' with
  | false => rfl
  | true =>
      obtain rfl := eq_of_beq isEqual
      exact absurd blank (by decide)

theorem comparison?_of_member {sign rest : List Char} {operator : Operator}
    (member : (sign, operator) ∈ comparisons) (stops : Stops (· == '=') rest) :
    comparison? (sign ++ rest) = some (operator, sign.length) := by
  simp only [comparisons, List.mem_cons, List.not_mem_nil, or_false, Prod.mk.injEq] at member
  cases rest with
  | nil => rcases member with ⟨rfl, rfl⟩ | ⟨rfl, rfl⟩ | ⟨rfl, rfl⟩ | ⟨rfl, rfl⟩ | ⟨rfl, rfl⟩ | ⟨rfl, rfl⟩ <;> rfl
  | cons c rest =>
      have other : c ≠ '=' := by simpa using stops c rfl
      rcases member with ⟨rfl, rfl⟩ | ⟨rfl, rfl⟩ | ⟨rfl, rfl⟩ | ⟨rfl, rfl⟩ | ⟨rfl, rfl⟩ | ⟨rfl, rfl⟩
      all_goals simp [comparison?, comparisons, List.isPrefixOf, Ne.symm other]

theorem sign?_of_fieldSign {sign : List Char} {operator : Option Operator} (isSign : FieldSign sign operator)
    (rest : List Char) : sign? (sign ++ '(' :: rest) = some (operator, sign.length) := by
  cases isSign with
  | colon => rfl
  | comparison member =>
      have found := comparison?_of_member member (stops_cons (c := '(') (by decide) rest)
      obtain ⟨c, more, rfl, first⟩ := comparison_starts member
      have noColon : c ≠ ':' := by
        rintro rfl
        exact absurd first (by decide)
      rw [sign?_of_comparison (by simpa using noColon), found]
      rfl
  | @colonComparison blanks sign more operator member allBlank moreBlank =>
      have stopsSign : Stops isBlank (sign ++ (more ++ '(' :: rest)) := stops_comparison (by decide) member _
      have stopsMore : Stops (· == '=') (more ++ '(' :: rest) :=
        stops_blanks beq_equals_of_isBlank moreBlank (stops_cons (by decide) rest)
      have ends : Stops isBlank ('(' :: rest) := stops_cons (by decide) rest
      rw [List.cons_append, List.append_assoc, List.append_assoc, sign?_colon,
        takeWhile_append_of_stops _ stopsSign, takeWhile_eq_self allBlank]
      dsimp only
      rw [List.drop_left, comparison?_of_member member stopsMore]
      dsimp only
      rw [drop_length_add, takeWhile_append_of_stops _ ends, takeWhile_eq_self moreBlank]
      simp only [List.length_cons, List.length_append]
      congr 2
      omega

def signStarts : List Char := ':' :: comparisonStarts

theorem FieldSign.head {sign : List Char} {operator : Option Operator} (isSign : FieldSign sign operator) :
    ∃ s more, sign = s :: more ∧ s ∈ signStarts := by
  cases isSign with
  | colon => exact ⟨':', [], rfl, List.mem_cons_self⟩
  | comparison member =>
      obtain ⟨c, others, rfl, first⟩ := comparison_starts member
      exact ⟨c, others, rfl, List.mem_cons_of_mem _ first⟩
  | colonComparison => exact ⟨':', _, rfl, List.mem_cons_self⟩

theorem FieldSign.starts {sign : List Char} {operator : Option Operator} (isSign : FieldSign sign operator)
    {rest : List Char} (noWord : Stops isWord rest) :
    ∃ c more, sign ++ rest = c :: more ∧ c ∈ signStarts ∧ (c = ':' → more.takeWhile isWord = []) := by
  cases isSign with
  | colon => exact ⟨':', rest, rfl, by decide, fun _ => takeWhile_append_of_stops [] noWord⟩
  | comparison member =>
      obtain ⟨c, others, rfl, first⟩ := comparison_starts member
      refine ⟨c, others ++ rest, rfl, List.mem_cons_of_mem _ first, ?_⟩
      rintro rfl
      exact absurd first (by decide)
  | @colonComparison blanks sign more operator member allBlank moreBlank =>
      have stops : Stops isWord (blanks ++ (sign ++ (more ++ rest))) :=
        stops_blanks (fun _ => isWord_of_isBlank) allBlank (stops_comparison (by decide) member _)
      refine ⟨':', blanks ++ (sign ++ (more ++ rest)), ?_, by decide, fun _ => takeWhile_append_of_stops [] stops⟩
      rw [List.cons_append, List.append_assoc, List.append_assoc]

/-! ## Fields before a sign -/

theorem sameCaseless_signStart {s : Char} (isStart : s ∈ signStarts) {letters : List Char}
    (check : letters.all (fun a => signStarts.all (!sameCaseless a ·)) = true) :
    ∀ a ∈ letters, sameCaseless a s = false :=
  fun a member => forall_mem_eq_false (List.all_eq_true.mp check a member) s isStart

theorem endsWord_eq_false {c : Char} : endsWord c = false ↔ isBlank c = false ∧ c ≠ '(' ∧ c ≠ ')' := by
  simp [endsWord, and_assoc]

theorem endsWord_of_isWord {c : Char} (word : isWord c = true) : endsWord c = false := by
  refine endsWord_eq_false.mpr ⟨isBlank_of_isWord word, ?_, ?_⟩
  · rintro rfl
    exact absurd word (by decide)
  · rintro rfl
    exact absurd word (by decide)

theorem dropCaseless?_of_field {start left : List Char} {s : Char} (others : ∀ a ∈ start, sameCaseless a s = false)
    {field rest : List Char} (found : dropCaseless? start (field ++ s :: rest) = some left) :
    ∃ more, more <:+ field ∧ left = more ++ s :: rest := by
  induction start generalizing field with
  | nil =>
      obtain rfl := Option.some.inj found
      exact ⟨field, List.suffix_refl field, rfl⟩
  | cons a start ih =>
      cases field with
      | nil =>
          have other := others a List.mem_cons_self
          simp [dropCaseless?, other] at found
      | cons c field =>
          simp only [List.cons_append, dropCaseless?] at found
          split at found
          · obtain ⟨more, suffix, left_eq⟩ := ih (fun b member => others b (List.mem_cons_of_mem a member)) found
            exact ⟨more, suffix.trans (List.suffix_cons c field), left_eq⟩
          · contradiction

section

variable {field : List Char} (word : ∀ c ∈ field, isWord c = true) {s : Char} (isStart : s ∈ signStarts)
  (rest : List Char)

include word isStart in
theorem keyword?_of_field : keyword? (field ++ s :: rest) = none := by
  have others : ∀ k : Keyword, ∀ a ∈ k.text.toList, sameCaseless a s = false := by
    intro k
    cases k <;> exact sameCaseless_signStart isStart (by decide)
  have noEnd : ∀ s ∈ signStarts, endsWord s = false := forall_mem_eq_false (by decide)
  refine List.find?_eq_none.mpr fun k _ => ?_
  cases found : dropCaseless? k.text.toList (field ++ s :: rest) with
  | none => simp
  | some left =>
      obtain ⟨more, suffix, rfl⟩ := dropCaseless?_of_field (others k) found
      cases more with
      | nil => simp [noEnd s isStart]
      | cons c more =>
          simp [endsWord_of_isWord (word c (suffix.subset List.mem_cons_self))]

theorem dropCaseless?_two (first second cs : List Char) :
    dropCaseless? (first ++ second) cs = (dropCaseless? first cs).bind (dropCaseless? second) := by
  induction first generalizing cs with
  | nil => rfl
  | cons a first ih =>
      cases cs with
      | nil => rfl
      | cons c cs =>
          simp only [List.cons_append, dropCaseless?, ih]
          split <;> rfl

theorem dropCaseless?_colon {c : Char} {cs left : List Char} (found : dropCaseless? [':'] (c :: cs) = some left) :
    c = ':' ∧ left = cs := by
  simp only [dropCaseless?] at found
  split at found
  · next same => exact ⟨sameCaseless_colon.mp same, (Option.some.inj found).symm⟩
  · contradiction

include word isStart in
theorem existence?_of_field (noName : s = ':' → rest.takeWhile isWord = [] ∨
    endsTerm (rest.drop (rest.takeWhile isWord).length) = false) : existence? (field ++ s :: rest) = none := by
  have spelled : ∀ name ∈ ["has:", "missing:"], ∃ letters, name.toList = letters ++ [':'] ∧
      ∀ a ∈ letters, sameCaseless a s = false := by
    intro name member
    simp only [List.mem_cons, List.not_mem_nil, or_false] at member
    rcases member with rfl | rfl
    · exact ⟨"has".toList, rfl, sameCaseless_signStart isStart (by decide)⟩
    · exact ⟨"missing".toList, rfl, sameCaseless_signStart isStart (by decide)⟩
  cases found : existence? (field ++ s :: rest) with
  | none => rfl
  | some result =>
      obtain ⟨name, member, left, dropped, named, -, ends, -⟩ := existence?_eq_some found
      obtain ⟨letters, name_eq, others⟩ := spelled name member
      rw [name_eq, dropCaseless?_two] at dropped
      obtain ⟨middle, letters_dropped, dropped⟩ := Option.bind_eq_some_iff.mp dropped
      obtain ⟨more, suffix, rfl⟩ := dropCaseless?_of_field others letters_dropped
      cases more with
      | nil =>
          obtain ⟨isColon, rfl⟩ := dropCaseless?_colon dropped
          rcases noName isColon with unnamed | goesOn
          · exact absurd unnamed named
          · exact absurd ends (Bool.eq_false_iff.mp goesOn)
      | cons c more =>
          obtain ⟨rfl, -⟩ := dropCaseless?_colon dropped
          exact absurd (word ':' (suffix.subset List.mem_cons_self)) (by decide)

end

theorem fieldStart?_of_sign? {field sign rest : List Char} {operator : Option Operator} (nonempty : field ≠ [])
    (word : ∀ c ∈ field, isWord c = true) (signed : sign? (sign ++ rest) = some (operator, sign.length)) :
    fieldStart? (field ++ (sign ++ rest)) = some (field, operator, field.length + sign.length) := by
  have stops : Stops isWord (sign ++ rest) := by
    have noWord : ∀ s ∈ signStarts, isWord s = false := forall_mem_eq_false (by decide)
    obtain ⟨sign', rest', isSign, split, -⟩ := sign?_eq_some signed
    obtain ⟨s, more, rfl, isStart⟩ := isSign.head
    rw [split]
    exact stops_cons (noWord s isStart) _
  have someName : ¬ field.isEmpty = true := by simpa using nonempty
  rw [fieldStart?_eq, takeWhile_append_of_stops _ stops, takeWhile_eq_self word, if_neg someName, List.drop_left, signed]
  rfl

/-! ## Tokens -/

theorem readToken_of_term {position : Nat} {c : Char} {cs : List Char} (noBracket : endsWord c = false)
    (noQuote : c ≠ '"') :
    readToken position (c :: cs) = match keyword? (c :: cs) with
      | some k => .ok (.keyword k, k.text.length)
      | none => readTerm position (c :: cs) >>= fun result => .ok (.term result.1, result.2) := by
  obtain ⟨-, noOpening, noClosing⟩ := endsWord_eq_false.mp noBracket
  unfold readToken
  simp only [List.head?_cons]
  split
  · next isOpening => exact absurd (Option.some.inj isOpening) noOpening
  · next isClosing => exact absurd (Option.some.inj isClosing) noClosing
  · next isQuote => exact absurd (Option.some.inj isQuote) noQuote
  · rfl

theorem readToken_of_bracketValue {cs : List Char} (bracket : BracketValue cs) (position : Nat) :
    readToken position cs = .error .noSuchPart := by
  obtain ⟨field, sign, operator, rest, nonempty, word, isSign, rfl⟩ := bracket
  have start := fieldStart?_of_sign? nonempty word (sign?_of_fieldSign isSign rest)
  obtain ⟨s, more, after, isStart, noWord⟩ := isSign.starts (stops_cons (c := '(') (by decide) rest)
  have noKeyword := keyword?_of_field word isStart more
  have noQuestion := existence?_of_field word isStart more fun isColon => .inl (noWord isColon)
  rw [← after] at noKeyword noQuestion
  have noList : dropCaseless? "in(".toList ('(' :: rest) = none := rfl
  have term : readTerm position (field ++ (sign ++ '(' :: rest)) = .error .noSuchPart := by
    unfold readTerm
    rw [noQuestion, start]
    dsimp only
    rw [readField_eq, drop_length_add, noList, readValue_bracket _ _ _ rfl]
    simp
  cases field with
  | nil => contradiction
  | cons c field =>
      have isWord := word c List.mem_cons_self
      have noQuote : c ≠ '"' := by
        rintro rfl
        exact absurd isWord (by decide)
      rw [List.cons_append] at noKeyword term ⊢
      rw [readToken_of_term (endsWord_of_isWord isWord) noQuote, noKeyword, term]
      rfl

theorem readTerm_covers {c : Char} {cs : List Char} (noBracket : ¬ BracketValue (c :: cs))
    (goesOn : endsWord c = false) (position : Nat) : Covers position (c :: cs) (readTerm position (c :: cs)) := by
  unfold readTerm
  split
  · next found found_eq => exact existence?_bounds found_eq
  · split
    · next field operator start found =>
        obtain ⟨isField, nonempty, sign, rest, isSign, whole, rfl⟩ := fieldStart?_eq_some found
        have bound := congrArg List.length whole
        rw [List.length_append, List.length_append] at bound
        refine readField_covers position field operator (by omega) ?_
        intro bracket
        rw [whole, drop_length_add] at bracket
        obtain ⟨more, rfl⟩ := List.head?_eq_some_iff.mp bracket
        refine noBracket ⟨field, sign, operator, more, nonempty, ?_, isSign, whole⟩
        rw [isField]
        exact of_mem_takeWhile
    · rw [wordOf_cons goesOn]
      have bound := length_wordOf_le cs
      exact ⟨Nat.succ_pos _, Nat.succ_le_succ bound⟩

theorem keyword?_bounds {cs : List Char} {k : Keyword} (found : keyword? cs = some k) :
    0 < k.text.length ∧ k.text.length ≤ cs.length := by
  have spelled : 0 < k.text.length := by cases k <;> decide
  have isKeyword := List.find?_some found
  cases dropped : dropCaseless? k.text.toList cs with
  | none => simp [dropped] at isKeyword
  | some rest =>
      have whole := dropCaseless?_length dropped
      rw [String.length_toList] at whole
      omega

theorem readToken_covers {c : Char} {cs : List Char} (noBracket : ¬ BracketValue (c :: cs))
    (noBlank : isBlank c = false) (position : Nat) : Covers position (c :: cs) (readToken position (c :: cs)) := by
  by_cases isBracket : endsWord c = true
  · have bracket : c = '(' ∨ c = ')' := by simpa [endsWord, noBlank] using isBracket
    have single : Covers position (c :: cs) (.ok (TokenKind.opening, 1)) := ⟨Nat.one_pos, Nat.succ_pos _⟩
    rcases bracket with rfl | rfl
    · exact single
    · exact single
  · by_cases isQuote : c = '"'
    · obtain rfl := isQuote
      exact (readQuoted_covers position _).map fun phrase => TokenKind.term (holding phrase)
    · have goesOn := Bool.eq_false_iff.mpr isBracket
      rw [readToken_of_term goesOn isQuote]
      cases found : keyword? (c :: cs) with
      | some k => exact keyword?_bounds found
      | none => exact (readTerm_covers noBracket goesOn position).map TokenKind.term

/-! ## Sequences of tokens -/

theorem tokensFrom_blank {c : Char} (blank : isBlank c = true) (position : Nat) (cs : List Char) :
    tokensFrom position (c :: cs) = tokensFrom (position + 1) cs := by
  rw [tokensFrom, if_pos blank]

theorem tokensFrom_eq {c : Char} (noBlank : isBlank c = false) (position : Nat) (cs : List Char) :
    tokensFrom position (c :: cs) = readToken position (c :: cs) >>= fun result =>
      tokensFrom (position + (result.2 - 1) + 1) (cs.drop (result.2 - 1)) >>= fun more =>
        .ok (⟨result.1, String.ofList ((c :: cs).take result.2), position⟩ :: more) := by
  rw [tokensFrom, if_neg (by simp [noBlank])]
  rfl

theorem readToken_bounds {c : Char} {cs : List Char} (noBlank : isBlank c = false) {position : Nat}
    {kind : TokenKind} {n : Nat} (read : readToken position (c :: cs) = .ok (kind, n)) :
    0 < n ∧ n ≤ cs.length + 1 := by
  have noBracket : ¬ BracketValue (c :: cs) := by
    intro bracket
    rw [readToken_of_bracketValue bracket] at read
    contradiction
  have covers := readToken_covers noBracket noBlank position
  rwa [read] at covers

end LogAnalysis.Query
