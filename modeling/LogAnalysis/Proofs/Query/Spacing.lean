import LogAnalysis.Proofs.Query.Composition
import LogAnalysis.Proofs.Query.Covering
import LogAnalysis.Proofs.Query.Following
import LogAnalysis.Proofs.Text.Search

/-!
# Queries with their tokens spread out

A query is written anew, its tokens with a single blank between each two. It keeps its tree unless one of its tokens clings to
an opening bracket (`parse_spaced_iff`): the token is read otherwise when a blank stands before the bracket.
-/

namespace LogAnalysis.Query

open Text

def spread (ts : List Token) : List Char := ts.flatMap fun t => ' ' :: t.text.toList

def blankAfter (n : Nat) (cs : List Char) : List Char := cs.take n ++ ' ' :: cs.drop n

def Clings (query : List Char) (s later : Token) : Prop :=
  readToken s.position (blankAfter (later.position - s.position) (query.drop s.position)) ≠ .ok (s.kind, s.text.length)

def Glued (query : List Char) (ts : List Token) : Prop :=
  ∃ s bracket, [s, bracket].Sublist ts ∧ bracket.kind = .opening ∧ Clings query s bracket

/-! ## Patterns in spread tokens -/

section

variable {position : Nat} {cs r body after : List Char} {ts : List Token} {e : Bool}

theorem spread_cons (t : Token) (ts : List Token) : spread (t :: ts) = ' ' :: (t.text.toList ++ spread ts) := rfl

theorem endsTerm_spread (ts : List Token) : endsTerm (spread ts) = true := by
  cases ts with
  | nil => rfl
  | cons t ts =>
      rw [spread_cons]
      exact endsTerm_of_endsWord (by decide) (by decide)

theorem cutPattern?_blank {c : Char} (blank : isBlank c = true) (cs : List Char) :
    cutPattern? e (c :: cs) = (cutPattern? false cs).map fun parts => (c :: parts.1, parts.2) := by
  have plain : c ≠ '/' ∧ c ≠ '\\' := of_isBlank (p := fun c => c ≠ '/' ∧ c ≠ '\\') (by decide) blank
  rw [cutPattern?_escaped (by rintro d ⟨⟩; exact plain), cutPattern?_cons plain.1 plain.2]

theorem plain_of_endsWord {c : Char} (ends : endsWord c = true) : c ≠ '/' ∧ c ≠ '\\' := by
  constructor
  · rintro rfl
    exact absurd ends (by decide)
  · rintro rfl
    exact absurd ends (by decide)

theorem cutPattern?_spread (ts : List Token) : cutPattern? e (spread ts) = cutPattern? false (spread ts) := by
  cases ts with
  | nil => rfl
  | cons t ts => rw [spread_cons, cutPattern?_blank (by decide), cutPattern?_blank (by decide)]

def OpensAt (ts : List Token) (place : Nat) : Prop := ∃ o ∈ ts, o.kind = .opening ∧ o.position = place

theorem opensAt_cons {t : Token} {place : Nat} (before : t.position < place) : OpensAt (t :: ts) place ↔ OpensAt ts place := by
  constructor
  · rintro ⟨o, member, opens, here⟩
    rcases List.mem_cons.mp member with rfl | member
    · omega
    · exact ⟨o, member, opens, here⟩
  · rintro ⟨o, member, here⟩
    exact ⟨o, List.mem_cons_of_mem t member, here⟩

theorem Cut.opensAt (cut : Cut position cs ts) (first : cs.head? = some '(') : OpensAt ts position := by
  cases cut with
  | nil => contradiction
  | blank blank _ =>
      obtain rfl := Option.some.inj first
      exact absurd blank (by decide)
  | @token _ kind text rest ts starts read _ =>
      obtain ⟨c, more, rfl, noBlank⟩ := starts
      obtain rfl := Option.some.inj first
      obtain ⟨rfl, -⟩ := Prod.mk.inj (Except.ok.inj (read 0))
      exact ⟨_, List.mem_cons_self, rfl, rfl⟩

theorem TokenAt.endsWord_of_escaped {text : List Char} {kind : TokenKind} (token : TokenAt (text ++ r) kind text.length)
    (isEscaped : escapedAfter false text = true) : EndsWord r := by
  rcases List.eq_nil_or_concat text with rfl | ⟨u, d, rfl⟩
  · contradiction
  · rw [List.concat_eq_append, escapedAfter_concat] at isEscaped
    obtain rfl := eq_of_beq (Bool.and_eq_true_iff.mp isEscaped).2
    exact token.endsWord (d := '\\') (by simp) (by decide)

/-- What becomes of a pattern when the tokens in which it ends are spread: it ends at the same slash, where a term ends if an
opening bracket comes next. -/
def PatternKept (position : Nat) (ts : List Token) (body : List Char) (spreadOut : Option (List Char × List Char)) : Prop :=
  ∃ body' after', spreadOut = some (body', after') ∧ (endsTerm after' = true ↔ OpensAt ts (position + body.length + 1))

theorem patternKept_append {w : List Char} (cut : Cut position r ts) (slash : w.getLast? = some '/' → EndsWord r)
    (found : cutPattern? false (w ++ r) = some (body, after)) (goesOn : endsTerm after = false)
    (later : ∀ b, cutPattern? (escapedAfter false w) r = some (b, after) → PatternKept position ts b (cutPattern? false (spread ts))) :
    ∃ body' after', cutPattern? false (w ++ spread ts) = some (body', after') ∧
      (endsTerm after' = true ↔ ∃ k, w.length + k = body.length + 1 ∧ OpensAt ts (position + k)) := by
  cases inside : cutPattern? false w with
  | some parts =>
      obtain ⟨b, x⟩ := parts
      rw [cutPattern?_append_of_some inside] at found
      obtain ⟨rfl, rfl⟩ := Prod.mk.inj (Option.some.inj found)
      refine ⟨_, _, cutPattern?_append_of_some inside _, ?_⟩
      obtain ⟨rfl, -⟩ := cutPattern?_eq_some inside
      cases x with
      | nil =>
          have bracket := cut.opensAt (head?_eq_of_endsWord (slash (by simp)) goesOn)
          exact iff_of_true (endsTerm_spread ts) ⟨0, by simp, bracket⟩
      | cons d x =>
          refine iff_of_false (Bool.eq_false_iff.mp goesOn) ?_
          rintro ⟨k, length, -⟩
          rw [List.length_append, List.length_cons, List.length_cons] at length
          omega
  | none =>
      rw [cutPattern?_append inside] at found
      obtain ⟨⟨b, a⟩, beyond, parts⟩ := Option.map_eq_some_iff.mp found
      obtain ⟨rfl, rfl⟩ := Prod.mk.inj parts
      obtain ⟨body', after', spreadFound, iff⟩ := later b beyond
      refine ⟨_, _, by rw [cutPattern?_append inside, cutPattern?_spread, spreadFound, Option.map_some], iff.trans ?_⟩
      rw [List.length_append, Nat.add_assoc w.length, Nat.add_assoc position]
      constructor
      · exact fun opens => ⟨b.length + 1, rfl, opens⟩
      · rintro ⟨k, length, opens⟩
        rwa [← Nat.add_left_cancel length]

theorem Cut.patternKept (cut : Cut position cs ts) (found : cutPattern? e cs = some (body, after))
    (goesOn : endsTerm after = false) (plain : e = true → EndsWord cs) :
    PatternKept position ts body (cutPattern? false (spread ts)) := by
  -- Where the first character is escaped it ends words (`plain`): it is no slash, and the blank before it changes nothing.
  induction cut generalizing e body after with
  | nil => contradiction
  | @blank position c cs ts blank _ ih =>
      rw [cutPattern?_blank blank] at found
      obtain ⟨⟨b, a⟩, inside, parts⟩ := Option.map_eq_some_iff.mp found
      obtain ⟨rfl, rfl⟩ := Prod.mk.inj parts
      have kept := ih inside goesOn (fun isEscaped => absurd isEscaped Bool.false_ne_true)
      rwa [PatternKept, show position + 1 + b.length + 1 = position + (c :: b).length + 1 by rw [List.length_cons]; omega] at kept
  | @token position kind text rest ts starts read cut ih =>
      have token : TokenAt (text ++ rest) kind text.length := by
        obtain ⟨c, more, rfl, noBlank⟩ := starts
        exact tokenAt_of_readToken noBlank (read 0)
      have unescaped : cutPattern? e (text ++ rest) = cutPattern? false (text ++ rest) := by
        cases e with
        | false => rfl
        | true => exact cutPattern?_escaped fun c first => plain_of_endsWord (plain rfl c first)
      rw [unescaped] at found
      obtain ⟨body', after', spreadFound, iff⟩ := patternKept_append cut (fun last => token.endsWord last (by decide)) found goesOn
        fun b beyond => ih beyond goesOn token.endsWord_of_escaped
      refine ⟨' ' :: body', after', ?_, iff.trans ?_⟩
      · rw [spread_cons, String.toList_ofList, cutPattern?_blank (by decide), spreadFound]
        rfl
      · rw [opensAt_cons (by dsimp only; omega)]
        constructor
        · rintro ⟨k, length, opens⟩
          rwa [Nat.add_assoc, ← length, ← Nat.add_assoc]
        · rintro ⟨o, member, opens, place⟩
          have further := cut.le_position o member
          exact ⟨body.length + 1 - text.length, by omega, o, member, opens, by omega⟩

/-- A blank before a bracket leaves the slash where it was, and a term ends after it if the bracket comes next. -/
theorem cutPattern?_before {mid post : List Char} (found : cutPattern? e (mid ++ '(' :: post) = some (body, after))
    (goesOn : endsTerm after = false) :
    ∃ body' after', cutPattern? e (mid ++ ' ' :: '(' :: post) = some (body', after') ∧
      (endsTerm after' = true ↔ mid.length = body.length + 1) := by
  cases inside : cutPattern? e mid with
  | some parts =>
      obtain ⟨b, x⟩ := parts
      rw [cutPattern?_append_of_some inside] at found
      obtain ⟨rfl, rfl⟩ := Prod.mk.inj (Option.some.inj found)
      refine ⟨_, _, cutPattern?_append_of_some inside _, ?_⟩
      obtain ⟨rfl, -⟩ := cutPattern?_eq_some inside
      cases x with
      | nil => exact iff_of_true (by simp only [endsTerm, List.nil_append]; decide) (by simp)
      | cons d x => exact iff_of_false (Bool.eq_false_iff.mp goesOn) (by simp)
  | none =>
      have bracket (e : Bool) : cutPattern? e ('(' :: post) = (cutPattern? false post).map fun parts => ('(' :: parts.1, parts.2) := by
        rw [cutPattern?_escaped (by rintro c ⟨⟩; decide), cutPattern?_cons (by decide) (by decide)]
      rw [cutPattern?_append inside, bracket] at found
      rw [cutPattern?_append inside, cutPattern?_blank (by decide), bracket]
      obtain ⟨⟨b, a⟩, beyond, parts⟩ := Option.map_eq_some_iff.mp found
      obtain ⟨⟨b', a'⟩, beyond', parts'⟩ := Option.map_eq_some_iff.mp beyond
      obtain ⟨rfl, rfl⟩ := Prod.mk.inj parts'
      obtain ⟨rfl, rfl⟩ := Prod.mk.inj parts
      rw [beyond']
      exact ⟨_, _, rfl, iff_of_false (Bool.eq_false_iff.mp goesOn) (by simp; omega)⟩

end

/-! ## Words that become patterns -/

theorem compare_inj {field : List Char} {operator operator' : Operator} {v v' : List Char}
    (same : compare field operator v = compare field operator' v') : operator.name = operator'.name ∧ v = v' :=
  ⟨Value.text.inj (congrArg Condition.operator same),
    String.ofList_injective (Value.text.inj (congrArg Condition.value same))⟩

theorem exists_wildcardPattern_slash (w : List Char) : ∃ rest, wildcardPattern ('/' :: w) = '^' :: '/' :: rest := by
  have escapedSlash (cs : List Char) : escaped ('/' :: cs) = '/' :: escaped cs := rfl
  unfold wildcardPattern
  rw [splitOn, if_neg (by decide)]
  split
  · exact ⟨_, rfl⟩
  · next piece pieces _ =>
      rw [List.map_cons, escapedSlash]
      cases pieces <;> exact ⟨_, rfl⟩

theorem shapeCondition_between (field u : List Char) :
    shapeCondition field ⟨'/' :: (u ++ ['/']), false, false⟩ = compare field .matchesPattern u := by
  have slashes : isBetween '/' '/' ('/' :: (u ++ ['/'])) = true := by simp [isBetween, List.getLast?_cons]
  simp only [shapeCondition, Bool.false_eq_true, if_false]
  rw [if_pos slashes]
  simp [inner]

/-- What a word asks that begins with a slash: for the pattern between its slashes, for the pattern of its stars, or for no
pattern at all. -/
theorem shapeCondition_slash (field w : List Char) :
    (∃ u, w = u ++ ['/'] ∧ shapeCondition field ⟨'/' :: w, false, false⟩ = compare field .matchesPattern u) ∨
    (∃ u, shapeCondition field ⟨'/' :: w, false, false⟩ = compare field .matchesPattern ('^' :: '/' :: u)) ∨
    ∃ operator u, operator.name ≠ Operator.matchesPattern.name ∧
      shapeCondition field ⟨'/' :: w, false, false⟩ = compare field operator u := by
  by_cases slashes : isBetween '/' '/' ('/' :: w) = true
  · simp only [isBetween, Bool.and_eq_true, decide_eq_true_eq, List.length_cons] at slashes
    obtain ⟨⟨long, -⟩, last⟩ := slashes
    rcases List.eq_nil_or_concat w with rfl | ⟨u, d, rfl⟩
    · simp at long
    · obtain rfl : d = '/' := by simpa [List.getLast?_cons] using last
      rw [List.concat_eq_append]
      exact .inl ⟨u, rfl, shapeCondition_between field u⟩
  simp only [shapeCondition, Bool.false_eq_true, if_false]
  rw [if_neg slashes]
  split
  · next carets => simp [isBetween] at carets
  split
  · next caret => simp at caret
  split
  · exact .inr (.inr ⟨_, _, by decide, rfl⟩)
  split
  · obtain ⟨rest, pattern⟩ := exists_wildcardPattern_slash w
    exact .inr (.inl ⟨rest, by rw [pattern]⟩)
  · exact .inr (.inr ⟨_, _, by decide, rfl⟩)

section

variable {w tail body after : List Char} (found : cutPattern? false (w ++ tail) = some (body, after))

include found

theorem body_ne_of_cut {start u v cs : List Char} (inside : cutPattern? false start = some (u, v)) : body ≠ start ++ cs := by
  rintro rfl
  have whole := (cutPattern?_eq_some found).2 []
  rw [List.append_assoc, cutPattern?_append_of_some inside] at whole
  simp at whole

/-- The condition of a word that begins with a slash is not that of a pattern that begins there, unless the word is the same
pattern with its slashes and nothing is compared. -/
theorem valueCondition_ne (field : List Char) {operator : Option Operator} (other : ¬ (operator = none ∧ w = body ++ ['/'])) :
    valueCondition field operator ⟨'/' :: w, false, false⟩ ≠ valueCondition field operator ⟨body, false, true⟩ := by
  intro same
  cases operator with
  | some operator => exact body_ne_of_cut found (show cutPattern? false ['/'] = some ([], []) from rfl) (compare_inj same).2.symm
  | none =>
      rw [show valueCondition field none ⟨body, false, true⟩ = compare field .matchesPattern body from rfl, valueCondition] at same
      rcases shapeCondition_slash field w with ⟨u, rfl, asks⟩ | ⟨u, asks⟩ | ⟨operator, u, noPattern, asks⟩
      · rw [asks] at same
        exact other ⟨rfl, by rw [(compare_inj same).2]⟩
      · rw [asks] at same
        exact body_ne_of_cut found (show cutPattern? false ['^', '/'] = some (['^'], []) from rfl) (compare_inj same).2.symm
      · rw [asks] at same
        exact noPattern (compare_inj same).1

end

/-! ## A token before spread tokens -/

section

variable {position : Nat} {text r : List Char} {ts : List Token} {kind : TokenKind}

theorem TokenAt.unique {cs : List Char} {kind' : TokenKind} {m n : Nat} (one : TokenAt cs kind m) (other : TokenAt cs kind' n) :
    kind = kind' ∧ m = n := by
  have same := (one.readToken 0).symm.trans (other.readToken 0)
  exact Prod.mk.inj (Except.ok.inj same)

theorem Cut.exists_of_opening {cs : List Char} (cut : Cut position cs ts) {o : Token} (member : o ∈ ts)
    (opens : o.kind = .opening) : ∃ mid post, cs = mid ++ '(' :: post ∧ o.position = position + mid.length := by
  obtain ⟨before, after, rfl⟩ := List.append_of_mem member
  obtain ⟨mid, rest, rfl, place, ⟨c, more, text_eq, noBlank⟩, read, -⟩ := cut.split
  rw [text_eq] at read ⊢
  have token := tokenAt_of_readToken noBlank (read 0)
  rw [opens] at token
  generalize o.text.length = n at token
  cases token with
  | opening first =>
      obtain rfl := Option.some.inj first
      exact ⟨mid, more ++ rest, rfl, place⟩

theorem blankAfter_length (mid post : List Char) : blankAfter mid.length (mid ++ post) = mid ++ ' ' :: post := by
  rw [blankAfter, List.take_left, List.drop_left]

theorem endsTerm_blankAfter_zero (r : List Char) : endsTerm (blankAfter 0 r) = true := by
  rw [blankAfter, List.take_zero, List.nil_append]
  exact endsTerm_of_endsWord (by decide) (by decide)

theorem mayReplace_blankAfter (n : Nat) (r : List Char) : MayReplace r (blankAfter n r) := by
  cases n with
  | zero => exact .inr (endsTerm_blankAfter_zero r)
  | succ n =>
      cases r with
      | nil => exact .inr (endsTerm_blankAfter_zero [])
      | cons c r => exact .inl rfl

/-- A token is read as before when the tokens after it are spread, and then it clings to none of their brackets. -/
def Settled (position : Nat) (text r : List Char) (ts : List Token) (kind : TokenKind) : Prop :=
  TokenAt (text ++ spread ts) kind text.length ∧
    ∀ o ∈ ts, o.kind = .opening → TokenAt (text ++ blankAfter (o.position - position) r) kind text.length

/-- A term asks something else when the tokens after it are spread, and then it clings to one of their brackets. -/
def Upset (position : Nat) (text r : List Char) (ts : List Token) (kind : TokenKind) : Prop :=
  (∃ c d n, kind = .term c ∧ c ≠ d ∧ TokenAt (text ++ spread ts) (.term d) n) ∧
    ∃ o ∈ ts, o.kind = .opening ∧ ¬ TokenAt (text ++ blankAfter (o.position - position) r) kind text.length

section

variable {start w field other body after : List Char} {operator : Option Operator}

def IsPattern (operator : Option Operator) (w : List Char) : Prop := operator = none ∧ ∃ u, cutPattern? false w = some (u, [])

theorem isPattern_iff (cut : cutPattern? false (w ++ other) = some (body, after)) :
    IsPattern operator w ↔ operator = none ∧ w = body ++ ['/'] := by
  refine and_congr_right fun _ => ⟨?_, ?_⟩
  · rintro ⟨u, inside⟩
    rw [cutPattern?_append_of_some inside] at cut
    obtain ⟨rfl, -⟩ := Prod.mk.inj (Option.some.inj cut)
    exact (cutPattern?_eq_some inside).1
  · rintro rfl
    exact ⟨body, (cutPattern?_eq_some cut).2 []⟩

variable (slash : SlashWord text r start w field operator) (ends : EndsWord other)
  (cut : cutPattern? false (w ++ other) = some (body, after))

include slash ends cut

theorem SlashWord.stays (stays : endsTerm after = true → IsPattern operator w) :
    TokenAt (text ++ other) (.term (valueCondition field operator ⟨'/' :: w, false, false⟩)) text.length := by
  by_cases endsAfter : endsTerm after = true
  · have pattern := slash.pattern other body after ends cut endsAfter
    obtain ⟨rfl, rfl⟩ := (isPattern_iff cut).mp (stays endsAfter)
    rw [slash.text_eq] at pattern ⊢
    rw [show valueCondition field none ⟨'/' :: (body ++ ['/']), false, false⟩ =
      valueCondition field none ⟨body, false, true⟩ from shapeCondition_between field body]
    simpa using pattern
  · exact slash.word other ends ⟨body, after, cut, Bool.eq_false_iff.mpr endsAfter⟩

theorem SlashWord.turns (endsAfter : endsTerm after = true) (noPattern : ¬ IsPattern operator w) :
    ∃ d n, valueCondition field operator ⟨'/' :: w, false, false⟩ ≠ d ∧ TokenAt (text ++ other) (.term d) n :=
  ⟨_, _, valueCondition_ne cut field fun between => noPattern ((isPattern_iff cut).mpr between),
    slash.pattern other body after ends cut endsAfter⟩

end

theorem SlashWord.settled_or_upset {start w field : List Char} {operator : Option Operator}
    (slash : SlashWord text r start w field operator) (cut : Cut position r ts) :
    Settled position text r ts (.term (valueCondition field operator ⟨'/' :: w, false, false⟩)) ∨
    Upset position text r ts (.term (valueCondition field operator ⟨'/' :: w, false, false⟩)) := by
  -- The pattern would end at the same slash, be the tokens spread or one blank put in; a term ends after it just if a bracket
  -- comes next.
  obtain ⟨body, after, found, goesOn⟩ := slash.unpatterned
  have endsSpread := endsWord_of_endsTerm (endsTerm_spread ts)
  obtain ⟨body', after', spreadFound, endsIff⟩ := patternKept_append cut (fun _ => slash.ends) found goesOn
    fun b beyond => cut.patternKept beyond goesOn fun _ => slash.ends
  have before {o : Token} (member : o ∈ ts) (opens : o.kind = .opening) : ∃ body' after',
      cutPattern? false (w ++ blankAfter (o.position - position) r) = some (body', after') ∧
        (endsTerm after' = true ↔ w.length + (o.position - position) = body.length + 1) := by
    obtain ⟨mid, post, rfl, place⟩ := cut.exists_of_opening member opens
    rw [place, Nat.add_sub_cancel_left, blankAfter_length, ← List.append_assoc, ← List.length_append]
    rw [← List.append_assoc] at found
    exact cutPattern?_before found goesOn
  have endsBlank (n : Nat) : EndsWord (blankAfter n r) := (mayReplace_blankAfter n r).endsWord slash.ends
  by_cases opensNext : (∃ k, w.length + k = body.length + 1 ∧ OpensAt ts (position + k)) ∧ ¬ IsPattern operator w
  · obtain ⟨⟨k, length, o, member, opens, place⟩, noPattern⟩ := opensNext
    obtain ⟨d, n, differs, asks⟩ := slash.turns endsSpread spreadFound (endsIff.mpr ⟨k, length, o, member, opens, place⟩) noPattern
    refine .inr ⟨⟨_, d, n, rfl, differs, asks⟩, o, member, opens, fun same => ?_⟩
    obtain ⟨body'', after'', blankFound, blankIff⟩ := before member opens
    obtain ⟨d', n', differs', asks'⟩ := slash.turns (endsBlank _) blankFound (blankIff.mpr (by omega)) noPattern
    exact differs' (TokenKind.term.inj (same.unique asks').1)
  · refine .inl ⟨slash.stays endsSpread spreadFound fun endsAfter => ?_, fun o member opens => ?_⟩
    · by_contra noPattern
      exact opensNext ⟨endsIff.mp endsAfter, noPattern⟩
    · obtain ⟨body'', after'', blankFound, blankIff⟩ := before member opens
      refine slash.stays (endsBlank _) blankFound fun endsAfter => ?_
      by_contra noPattern
      refine opensNext ⟨⟨_, blankIff.mp endsAfter, o, member, opens, ?_⟩, noPattern⟩
      have further := cut.le_position o member
      omega

theorem settled_or_upset (cut : Cut position r ts) (nonempty : text ≠ []) (token : TokenAt (text ++ r) kind text.length) :
    Settled position text r ts kind ∨ Upset position text r ts kind := by
  have ends := endsTerm_spread ts
  rcases token.follow nonempty with settled | unsettled
  · exact .inl ⟨settled _ (.inr ends), fun o _ _ => settled _ (mayReplace_blankAfter _ r)⟩
  cases unsettled with
  | @question c d n bracket differs asks keeps =>
      obtain ⟨o, member, opens, place⟩ := cut.opensAt bracket
      refine .inr ⟨⟨c, d, n, rfl, differs, asks _ ends⟩, o, member, opens, fun same => ?_⟩
      have blank : endsTerm (blankAfter (o.position - position) r) = true := by
        rw [place, Nat.sub_self]
        exact endsTerm_blankAfter_zero r
      obtain ⟨kinds, -⟩ := same.unique (asks _ blank)
      exact differs (TokenKind.term.inj kinds)
  | slash slash => exact slash.settled_or_upset cut

end

/-! ## Trees of spread tokens -/

def Tree.conditions : Tree → List Condition
  | .rule c => [c]
  | .logic _ left right => left.conditions ++ right.conditions
  | .not operand => operand.conditions

def asked : List TokenKind → List Condition
  | [] => []
  | .term c :: ks => c :: asked ks
  | _ :: ks => asked ks

theorem asked_append (ks ls : List TokenKind) : asked (ks ++ ls) = asked ks ++ asked ls := by
  induction ks with
  | nil => rfl
  | cons k ks ih => cases k <;> simp [asked, ih]

theorem Derives.conditions_eq {p : Phrase} {ks : List TokenKind} {t : Tree} (phrase : Derives p ks t) :
    t.conditions = asked ks := by
  induction phrase with
  | conjunction _ ih | operand _ ih | primary _ ih => exact ih
  | or _ _ left right | and _ _ left right => simp [Tree.either, Tree.both, Tree.conditions, asked_append, asked, left, right]
  | adjacent _ _ left right => simp [Tree.both, Tree.conditions, asked_append, left, right]
  | not _ ih => exact ih
  | brackets _ ih => simp [asked_append, asked, ih]
  | term c => rfl

theorem spread_eq (t : Token) (ts : List Token) :
    spread (t :: ts) = ' ' :: (joined " " ((t :: ts).map Token.text)).toList := by
  rw [toList_joined]
  induction ts generalizing t with
  | nil => simp [spread, joinWith]
  | cons s ts ih => rw [spread_cons, ih]; simp [joinWith]

theorem Scans.of_blank {c : Char} (blank : isBlank c = true) {cs : List Char} {ks : List TokenKind} (scans : Scans (c :: cs) ks) :
    Scans cs ks := by
  obtain ⟨ts, read, rfl⟩ := scans 0
  rw [tokensFrom_blank blank] at read
  exact .of_tokensFrom read

section

variable {text tail : List Char} {kind : TokenKind} {ks : List TokenKind} (starts : BeginsToken text)

include starts

theorem Scans.of_token {n : Nat} (token : TokenAt (text ++ tail) kind n) (scans : Scans (text ++ tail) ks) :
    ∃ rest, ks = kind :: rest ∧ (n = text.length → Scans tail rest) := by
  obtain ⟨c, more, rfl, noBlank⟩ := starts
  obtain ⟨ts, read, rfl⟩ := scans 0
  rw [List.cons_append, tokensFrom_eq noBlank, ← List.cons_append, token.readToken 0, Outcome.ok_bind] at read
  obtain ⟨later, readLater, read⟩ := Outcome.bind_eq_ok.mp read
  obtain rfl := Except.ok.inj read
  refine ⟨later.map Token.kind, rfl, ?_⟩
  rintro rfl
  dsimp only at readLater
  rw [List.length_cons, Nat.add_sub_cancel, List.drop_left] at readLater
  exact .of_tokensFrom readLater

theorem Scans.append_token (token : TokenAt (text ++ tail) kind text.length) (rest : Scans tail ks) :
    Scans (text ++ tail) (kind :: ks) := by
  obtain ⟨c, more, rfl, noBlank⟩ := starts
  have after : (more ++ tail).drop ((c :: more).length - 1) = tail := by
    rw [List.length_cons, Nat.add_sub_cancel, List.drop_left]
  rw [← after] at rest
  exact Scans.token noBlank token.readToken rest

end

theorem asked_ne {ks ls : List TokenKind} (differ : asked ks ≠ asked ls) (kind : TokenKind) :
    asked (kind :: ks) ≠ asked (kind :: ls) := by
  cases kind <;> simpa [asked] using differ

section

variable {query : List Char} {ts : List Token}

theorem glued_cons {t : Token} :
    Glued query (t :: ts) ↔ (∃ o ∈ ts, o.kind = .opening ∧ Clings query t o) ∨ Glued query ts := by
  constructor
  · rintro ⟨s, o, two, opens, clings⟩
    rcases List.sublist_cons_iff.mp two with later | ⟨rest, whole, later⟩
    · exact .inr ⟨s, o, later, opens, clings⟩
    · obtain ⟨rfl, rfl⟩ := List.cons.inj whole
      exact .inl ⟨o, List.singleton_sublist.mp later, opens, clings⟩
  · rintro (⟨o, member, opens, clings⟩ | ⟨s, o, two, opens, clings⟩)
    · exact ⟨t, o, (List.singleton_sublist.mpr member).cons_cons t, opens, clings⟩
    · exact ⟨s, o, two.cons t, opens, clings⟩

theorem clings_iff {position : Nat} {kind : TokenKind} {text r : List Char} {o : Token} (starts : BeginsToken text)
    (rest : query.drop position = text ++ r) (later : position + text.length ≤ o.position) :
    Clings query ⟨kind, String.ofList text, position⟩ o ↔
      ¬ TokenAt (text ++ blankAfter (o.position - (position + text.length)) r) kind text.length := by
  obtain ⟨n, place⟩ := Nat.exists_eq_add_of_le later
  have blank : blankAfter (o.position - position) (text ++ r) = text ++ blankAfter n r := by
    rw [place, Nat.add_assoc, Nat.add_sub_cancel_left, blankAfter, List.take_length_add_append, List.drop_length_add_append,
      List.append_assoc]
    rfl
  obtain ⟨c, more, rfl, noBlank⟩ := starts
  rw [Clings, rest, blank, place, Nat.add_sub_cancel_left, String.length_ofList]
  exact not_congr (readToken_eq_ok_iff noBlank)

/-- Spread tokens are the same as before, or they ask something else at the first term that clings to a bracket. -/
theorem Cut.scans_spread {position : Nat} {cs : List Char} (cut : Cut position cs ts) (rest : query.drop position = cs) :
    (¬ Glued query ts ∧ Scans (spread ts) (ts.map Token.kind)) ∨
    (Glued query ts ∧ ∀ ks, Scans (spread ts) ks → asked ks ≠ asked (ts.map Token.kind)) := by
  -- Up to the first term that clings to a bracket the tokens are the same, and what this term asks is not.
  induction cut with
  | nil => exact .inl ⟨by rintro ⟨s, o, two, -⟩; simp at two, .nil⟩
  | @blank position c cs ts _ _ ih =>
      exact ih (by rw [← List.drop_drop, rest]; rfl)
  | @token position kind text r ts starts read cut ih =>
      have token : TokenAt (text ++ r) kind text.length := by
        obtain ⟨c, more, rfl, noBlank⟩ := starts
        exact tokenAt_of_readToken noBlank (read 0)
      have nonempty : text ≠ [] := by
        obtain ⟨c, more, rfl, -⟩ := starts
        exact List.cons_ne_nil c more
      have clings {o : Token} (member : o ∈ ts) : Clings query ⟨kind, String.ofList text, position⟩ o ↔
          ¬ TokenAt (text ++ blankAfter (o.position - (position + text.length)) r) kind text.length :=
        clings_iff starts rest (cut.le_position o member)
      have later := ih (by rw [← List.drop_drop, rest, List.drop_left])
      rw [glued_cons, spread_cons, String.toList_ofList, List.map_cons]
      rcases settled_or_upset cut nonempty token with ⟨here, free⟩ | ⟨⟨c, d, n, rfl, differs, asks⟩, o, member, opens, apart⟩
      · have noneHere : ¬ ∃ o ∈ ts, o.kind = .opening ∧ Clings query ⟨kind, String.ofList text, position⟩ o := by
          rintro ⟨o, member, opens, isClinging⟩
          exact (clings member).mp isClinging (free o member opens)
        rcases later with ⟨noneLater, scans⟩ | ⟨glued, differ⟩
        · refine .inl ⟨fun glued => glued.elim noneHere noneLater, ?_⟩
          exact (scans.append_token starts here).blank (by decide)
        · refine .inr ⟨.inr glued, fun ks scans => ?_⟩
          obtain ⟨ks, rfl, after⟩ := (scans.of_blank (by decide)).of_token starts here
          exact asked_ne (differ ks (after rfl)) kind
      · refine .inr ⟨.inl ⟨o, member, opens, (clings member).mpr apart⟩, fun ks scans => ?_⟩
        obtain ⟨ks, rfl, -⟩ := (scans.of_blank (by decide)).of_token starts asks
        intro same
        exact differs (List.cons.inj same).1.symm

end

/-- A query keeps its tree when its tokens are spread, with one blank between each two of them, unless one of them clings to an
opening bracket. -/
theorem parse_spaced_iff {q : String} {ts : List Token} {t : Tree} (read : tokens q = .ok ts) (accepted : parse q = .ok (some t)) :
    parse (joined " " (ts.map Token.text)) = .ok (some t) ↔ ¬ Glued q.toList ts := by
  have phrase := (parse_of_scans (.of_tokens read)).mp accepted
  obtain ⟨s, rest, rfl⟩ : ∃ s rest, ts = s :: rest := by
    obtain ⟨k, ks, kinds, -⟩ := phrase.starts
    obtain ⟨s, rest, rfl, -⟩ := List.map_eq_cons_iff.mp kinds
    exact ⟨s, rest, rfl⟩
  have whole : q.toList.drop 0 = q.toList := rfl
  rcases (cut_of_tokens read).scans_spread whole with ⟨free, scans⟩ | ⟨glued, differ⟩
  · rw [spread_eq] at scans
    exact iff_of_true ((parse_of_scans (scans.of_blank (by decide))).mpr phrase) free
  · refine iff_of_false (fun kept => ?_) (not_not_intro glued)
    obtain ⟨ks, scans, phrase'⟩ := exists_scans kept
    refine differ ks ?_ (phrase'.conditions_eq.symm.trans phrase.conditions_eq)
    rw [spread_eq]
    exact scans.blank (by decide)

theorem parse_spaced_iff_words :
    let ts : List Token := [⟨.term (holding "f".toList), "f", 0⟩, ⟨.opening, "(", 1⟩, ⟨.term (holding "x".toList), "x", 2⟩,
      ⟨.closing, ")", 3⟩]
    let t : Tree := .both (.rule (holding "f".toList)) (.rule (holding "x".toList))
    tokens "f(x)" = .ok ts ∧ parse "f(x)" = .ok (some t) ∧
      (parse (joined " " (ts.map Token.text)) = .ok (some t) ↔ ¬ Glued "f(x)".toList ts) := by
  have read : tokens "f(x)" = .ok [⟨.term (holding "f".toList), "f", 0⟩, ⟨.opening, "(", 1⟩,
      ⟨.term (holding "x".toList), "x", 2⟩, ⟨.closing, ")", 3⟩] := by with_unfolding_all rfl
  have word := Derives.operand (.primary (.term (holding "f".toList)))
  have inside := Derives.conjunction (.operand (.primary (.term (holding "x".toList))))
  have accepted := (parse_of_scans (.of_tokens read)).mpr (.conjunction (.adjacent word (.primary (.brackets inside))))
  exact ⟨read, accepted, parse_spaced_iff read accepted⟩

/-- Before the bracket a field called `has` is asked for a text, before the blank it is asked whether a field is there. -/
theorem not_parse_spaced_question : ∃ ts t, tokens "has:user(b)" = .ok ts ∧ parse "has:user(b)" = .ok (some t) ∧
    parse (joined " " (ts.map Token.text)) ≠ .ok (some t) := by
  have glued : tokens "has:user(b)" = .ok [⟨.term (compare "has".toList .contains "user".toList), "has:user", 0⟩,
      ⟨.opening, "(", 8⟩, ⟨.term (holding "b".toList), "b", 9⟩, ⟨.closing, ")", 10⟩] := by with_unfolding_all rfl
  have spaced : tokens "has:user ( b )" = .ok [⟨.term (existenceCondition "has".toList "user".toList), "has:user", 0⟩,
      ⟨.opening, "(", 9⟩, ⟨.term (holding "b".toList), "b", 11⟩, ⟨.closing, ")", 13⟩] := by with_unfolding_all rfl
  have first (c : Condition) := Derives.operand (.primary (.term c))
  have second := Derives.conjunction (.operand (.primary (.term (holding "b".toList))))
  have accepted := (parse_of_scans (.of_tokens glued)).mpr (.conjunction (.adjacent (first _) (.primary (.brackets second))))
  have otherwise := (parse_of_scans (.of_tokens spaced)).mpr (.conjunction (.adjacent (first _) (.primary (.brackets second))))
  refine ⟨_, _, glued, accepted, fun kept => ?_⟩
  have same := otherwise.symm.trans kept
  simp [Tree.both, existenceCondition, compare] at same

end LogAnalysis.Query
