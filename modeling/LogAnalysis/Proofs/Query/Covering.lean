import LogAnalysis.Proofs.Query.Refusals

/-!
# What tokens cover

`Cut` says how a text is cut into tokens: one after the other, each where it was read, with nothing but white space between
them. Reading a query cuts it in this way (`cut_of_tokensFrom`), so the tokens of a query cover all of it that is not white
space, and each character at most once (`tokens_cover`).
-/

namespace LogAnalysis.Query

open Text

def BeginsToken (cs : List Char) : Prop := ∃ c rest, cs = c :: rest ∧ isBlank c = false

inductive Cut : Nat → List Char → List Token → Prop
  | nil {position} : Cut position [] []
  | blank {position c cs ts} : isBlank c = true → Cut (position + 1) cs ts → Cut position (c :: cs) ts
  | token {position kind text rest ts} : BeginsToken text →
      (∀ place, readToken place (text ++ rest) = .ok (kind, text.length)) → Cut (position + text.length) rest ts →
      Cut position (text ++ rest) (⟨kind, String.ofList text, position⟩ :: ts)

theorem cut_of_tokensFrom {position : Nat} {cs : List Char} {ts : List Token} (read : tokensFrom position cs = .ok ts) :
    Cut position cs ts := by
  fun_induction tokensFrom position cs generalizing ts with
  | case1 position =>
      obtain rfl := Except.ok.inj read
      exact .nil
  | case2 position c cs isBlank ih => exact .blank isBlank (ih read)
  | case3 position c cs notBlank ih =>
      have noBlank := Bool.eq_false_iff.mpr notBlank
      obtain ⟨⟨kind, n⟩, readOne, read⟩ := Outcome.bind_eq_ok.mp read
      obtain ⟨more, readMore, read⟩ := Outcome.bind_eq_ok.mp read
      obtain rfl := Except.ok.inj read
      obtain ⟨positive, bound⟩ := readToken_bounds noBlank readOne
      have length_text : ((c :: cs).take n).length = n := by
        rw [List.length_take, List.length_cons]
        omega
      have rest_eq : cs.drop (n - 1) = (c :: cs).drop n := by
        obtain ⟨m, rfl⟩ := Nat.exists_eq_succ_of_ne_zero (Nat.ne_of_gt positive)
        rfl
      have starts : BeginsToken ((c :: cs).take n) := by
        obtain ⟨m, rfl⟩ := Nat.exists_eq_succ_of_ne_zero (Nat.ne_of_gt positive)
        exact ⟨c, cs.take m, rfl, noBlank⟩
      have read : ∀ place, readToken place ((c :: cs).take n ++ (c :: cs).drop n) = .ok (kind, ((c :: cs).take n).length) := by
        rw [List.take_append_drop, length_text]
        exact readToken_elsewhere readOne
      have later : Cut (position + ((c :: cs).take n).length) ((c :: cs).drop n) more := by
        have later := ih n readMore
        rw [length_text]
        rwa [rest_eq, Nat.add_assoc, Nat.sub_add_cancel positive] at later
      have token := Cut.token starts read later
      rwa [List.take_append_drop] at token

theorem cut_of_tokens {q : String} {ts : List Token} (read : tokens q = .ok ts) : Cut 0 q.toList ts :=
  cut_of_tokensFrom read

/-! ## Places of tokens -/

section

variable {position : Nat} {cs : List Char} {ts : List Token}

theorem Cut.split {before after : List Token} {t : Token} (cut : Cut position cs (before ++ t :: after)) :
    ∃ earlier rest, cs = earlier ++ (t.text.toList ++ rest) ∧ t.position = position + earlier.length ∧
      BeginsToken t.text.toList ∧ (∀ place, readToken place (t.text.toList ++ rest) = .ok (t.kind, t.text.length)) ∧
      Cut (t.position + t.text.length) rest after := by
  generalize whole : before ++ t :: after = ts at cut
  induction cut generalizing before with
  | nil => simp at whole
  | @blank _ c _ _ _ _ ih =>
      obtain ⟨earlier, rest, rfl, place, token⟩ := ih whole
      exact ⟨c :: earlier, rest, rfl, by rw [place, List.length_cons]; omega, token⟩
  | @token position kind text rest ts starts read cut ih =>
      cases before with
      | nil =>
          obtain ⟨rfl, rfl⟩ := List.cons.inj whole
          have length_text : (String.ofList text).length = text.length := String.length_ofList
          refine ⟨[], rest, ?_, rfl, ?_⟩
          · rw [List.nil_append, String.toList_ofList]
          · rw [String.toList_ofList, length_text]
            exact ⟨starts, read, cut⟩
      | cons s before =>
          obtain ⟨rfl, rfl⟩ := List.cons.inj whole
          obtain ⟨earlier, later, rfl, place, token⟩ := ih rfl
          exact ⟨text ++ earlier, later, (List.append_assoc ..).symm, by rw [place, List.length_append]; omega, token⟩

theorem Cut.le_position (cut : Cut position cs ts) : ∀ t ∈ ts, position ≤ t.position := by
  intro t member
  obtain ⟨before, after, rfl⟩ := List.append_of_mem member
  obtain ⟨earlier, rest, -, place, -⟩ := cut.split
  omega

theorem Cut.pairwise (cut : Cut position cs ts) :
    ts.Pairwise fun s t => s.position + s.text.length ≤ t.position := by
  induction cut with
  | nil => exact .nil
  | blank _ _ ih => exact ih
  | token _ _ cut ih =>
      refine .cons (fun t member => ?_) ih
      rw [String.length_ofList]
      exact cut.le_position t member

def Token.Holds (t : Token) (place : Nat) : Prop := t.position ≤ place ∧ place < t.position + t.text.length

theorem Cut.isBlank_of_not_holds (cut : Cut position cs ts) {i : Nat} {c : Char} (char : cs[i]? = some c)
    (free : ∀ t ∈ ts, ¬ t.Holds (position + i)) : isBlank c = true := by
  induction cut generalizing i with
  | nil => simp at char
  | blank blank _ ih =>
      cases i with
      | zero =>
          obtain rfl := Option.some.inj char
          exact blank
      | succ i =>
          refine ih (i := i) char fun t member holds => free t member ?_
          rwa [Nat.add_assoc, Nat.add_comm 1] at holds
  | @token position kind text rest ts _ _ _ ih =>
      obtain ⟨here, later⟩ := List.forall_mem_cons.mp free
      have beyond : text.length ≤ i := by
        rw [Token.Holds, String.length_ofList] at here
        dsimp only at here
        omega
      rw [List.getElem?_append_right beyond] at char
      refine ih char fun t member holds => later t member ?_
      rwa [show position + text.length + (i - text.length) = position + i by omega] at holds

end

theorem tokens_eq_single_iff {q : String} {kind : TokenKind} (starts : BeginsToken q.toList) :
    tokens q = .ok [⟨kind, q, 0⟩] ↔ readToken 0 q.toList = .ok (kind, q.length) := by
  constructor
  · intro read
    have cut : Cut 0 q.toList ([] ++ ⟨kind, q, 0⟩ :: []) := cut_of_tokens read
    obtain ⟨earlier, rest, whole, -, -, readOne, -⟩ := cut.split
    dsimp only at whole readOne
    have lengths := congrArg List.length whole
    rw [List.length_append, List.length_append] at lengths
    obtain rfl : rest = [] := List.eq_nil_of_length_eq_zero (by omega)
    simpa using readOne 0
  · intro read
    obtain ⟨c, more, whole, noBlank⟩ := starts
    have length_q : q.length = more.length + 1 := by rw [← String.length_toList, whole, List.length_cons]
    have text : String.ofList (c :: more) = q := by rw [← whole, String.ofList_toList]
    rw [whole] at read
    rw [tokens, whole, tokensFrom_eq noBlank, read, Outcome.ok_bind]
    dsimp only
    rw [length_q, Nat.add_sub_cancel, List.drop_length, tokensFrom, Outcome.ok_bind, ← List.length_cons, List.take_length, text]

/-! ## The loop that reads a query -/

/-- One turn of the loop: at a place of the query it passes one character of white space, or reads the token there; then
it goes on at another place. -/
inductive Turn (query : List Char) : Nat → List Token → Nat → Prop
  | blank {place c rest} : query.drop place = c :: rest → isBlank c = true → Turn query place [] (place + 1)
  | token {place c rest kind n} : query.drop place = c :: rest → isBlank c = false →
      readToken place (c :: rest) = .ok (kind, n) →
      Turn query place [⟨kind, String.ofList ((c :: rest).take n), place⟩] (place + n)

section

variable {query : List Char} {place next : Nat} {found : List Token}

theorem Turn.advances (turn : Turn query place found next) : place < next ∧ next ≤ query.length := by
  cases turn with
  | @blank c rest at_place _ =>
      have inside := congrArg List.length at_place
      rw [List.length_drop, List.length_cons] at inside
      omega
  | @token c rest kind n at_place noBlank read =>
      have inside := congrArg List.length at_place
      rw [List.length_drop, List.length_cons] at inside
      have bounds := readToken_bounds noBlank read
      omega

theorem Turn.tokensFrom (turn : Turn query place found next) :
    tokensFrom place (query.drop place) = (found ++ ·) <$> tokensFrom next (query.drop next) := by
  cases turn with
  | @blank c rest at_place blank =>
      have rest_eq : query.drop (place + 1) = rest := by
        rw [← List.drop_drop, at_place]
        rfl
      rw [at_place, rest_eq, tokensFrom_blank blank]
      cases Query.tokensFrom (place + 1) rest <;> rfl
  | @token c rest kind n at_place noBlank read =>
      obtain ⟨positive, -⟩ := readToken_bounds noBlank read
      obtain ⟨m, rfl⟩ := Nat.exists_eq_succ_of_ne_zero (Nat.ne_of_gt positive)
      have rest_eq : query.drop (place + (m + 1)) = rest.drop m := by
        rw [← List.drop_drop, at_place]
        rfl
      rw [at_place, rest_eq, tokensFrom_eq noBlank, read, Outcome.ok_bind]
      dsimp only
      rw [Nat.succ_sub_one, Nat.add_assoc]
      cases Query.tokensFrom (place + (m + 1)) (rest.drop m) <;> rfl

end

/-- The tokens of a query stand in order, none of them empty and each as it is written in the query; no two share a place, what
is at no place of a token is white space, and every turn of the loop goes further in the query and not past its end. -/
theorem tokens_cover {q : String} {ts : List Token} (read : tokens q = .ok ts) :
    ts.Pairwise (fun s t => s.position < t.position ∧ ∀ place, ¬ (s.Holds place ∧ t.Holds place)) ∧
    (∀ t ∈ ts, t.text ≠ "" ∧ t.text.toList = (q.toList.drop t.position).take t.text.length) ∧
    (∀ place c, q.toList[place]? = some c → (∀ t ∈ ts, ¬ t.Holds place) → isBlank c = true) ∧
    (∀ place found next, Turn q.toList place found next → place < next ∧ next ≤ q.length ∧
      tokensFrom place (q.toList.drop place) = (found ++ ·) <$> tokensFrom next (q.toList.drop next)) := by
  have cut := cut_of_tokens read
  have written : ∀ t ∈ ts, t.text ≠ "" ∧ t.text.toList = (q.toList.drop t.position).take t.text.length := by
    intro t member
    obtain ⟨before, after, rfl⟩ := List.append_of_mem member
    obtain ⟨earlier, rest, whole, place, ⟨c, more, starts, -⟩, -⟩ := cut.split
    constructor
    · intro empty
      rw [empty] at starts
      contradiction
    · rw [whole, place, Nat.zero_add, List.drop_left, ← String.length_toList, List.take_left]
  refine ⟨?_, written, ?_, ?_⟩
  · refine cut.pairwise.imp_of_mem fun {s t} first _ apart => ?_
    have nonempty : 0 < s.text.length := Nat.pos_of_ne_zero fun zero => (written s first).1 (String.length_eq_zero_iff.mp zero)
    refine ⟨by omega, fun place both => ?_⟩
    have inFirst := both.1.2
    have inSecond := both.2.1
    omega
  · intro place c char free
    refine cut.isBlank_of_not_holds char fun t member => ?_
    rw [Nat.zero_add]
    exact free t member
  · intro place found next turn
    obtain ⟨further, bound⟩ := turn.advances
    exact ⟨further, by rwa [← String.length_toList], turn.tokensFrom⟩

/-- A question, a comparison with its blanks, and a phrase that is followed at once. -/
theorem tokens_cover_phrase :
    let ts : List Token := [⟨.term (compare "a".toList .greaterThan "1".toList), "a: > 1", 1⟩, ⟨.closing, ")", 7⟩,
      ⟨.term (holding "b (".toList), "\"b (\"", 10⟩, ⟨.term (holding "c".toList), "c", 15⟩]
    tokens " a: > 1)  \"b (\"c" = .ok ts ∧
    ts.Pairwise (fun s t => s.position < t.position ∧ ∀ place, ¬ (s.Holds place ∧ t.Holds place)) := by
  have read : tokens " a: > 1)  \"b (\"c" = .ok [⟨.term (compare "a".toList .greaterThan "1".toList), "a: > 1", 1⟩,
      ⟨.closing, ")", 7⟩, ⟨.term (holding "b (".toList), "\"b (\"", 10⟩, ⟨.term (holding "c".toList), "c", 15⟩] := by
    with_unfolding_all rfl
  exact ⟨read, (tokens_cover read).1⟩

end LogAnalysis.Query
