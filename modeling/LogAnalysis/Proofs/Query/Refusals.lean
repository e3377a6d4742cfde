import LogAnalysis.Proofs.Query.Closing
import LogAnalysis.Proofs.Query.Parsing
import LogAnalysis.Proofs.Query.Tokens

/-!
# How queries are refused

A query that is not read is refused as a query, at a place in its text, with one exception: reading stops for want of a
word when it comes to an opening bracket in the place of a value (`parse_outcomes`).
-/

namespace LogAnalysis.Query

open Text

/-- Reading from left to right comes to a bracket in the place of a value, and can read all tokens before it. -/
inductive MeetsBracket : List Char → Prop
  | value {cs} : BracketValue cs → MeetsBracket cs
  | blank {c cs} : isBlank c = true → MeetsBracket cs → MeetsBracket (c :: cs)
  | token {c cs position kind n} : isBlank c = false → readToken position (c :: cs) = .ok (kind, n) →
      MeetsBracket (cs.drop (n - 1)) → MeetsBracket (c :: cs)

theorem readToken_elsewhere {c : Char} {cs : List Char} {position : Nat} {result : TokenKind × Nat}
    (read : readToken position (c :: cs) = .ok result) (place : Nat) : readToken place (c :: cs) = .ok result := by
  have same := readToken_append closes_nil place (List.cons_ne_nil c cs) read
  rwa [List.append_nil] at same

theorem BracketValue.starts {cs : List Char} (bracket : BracketValue cs) :
    ∃ c rest, cs = c :: rest ∧ isBlank c = false := by
  obtain ⟨field, sign, operator, rest, nonempty, word, -, rfl⟩ := bracket
  cases field with
  | nil => contradiction
  | cons c field => exact ⟨c, _, rfl, isBlank_of_isWord (word c List.mem_cons_self)⟩

theorem MeetsBracket.tokensFrom {cs : List Char} (meets : MeetsBracket cs) (position : Nat) :
    tokensFrom position cs = .error .noSuchPart := by
  induction meets generalizing position with
  | value bracket =>
      obtain ⟨c, rest, rfl, noBlank⟩ := bracket.starts
      rw [tokensFrom_eq noBlank, readToken_of_bracketValue bracket]
      rfl
  | blank isBlank _ ih =>
      rw [tokensFrom_blank isBlank]
      exact ih (position + 1)
  | @token c cs place kind n noBlank read _ ih =>
      rw [tokensFrom_eq noBlank, readToken_elsewhere read position, Outcome.ok_bind]
      dsimp only
      rw [ih]
      rfl

def Within (limit : Nat) : Outcome (List Token) → Prop
  | .ok ts => ∀ t ∈ ts, t.position ≤ limit
  | .error fault => ∃ f p, fault = .query f ∧ f.position = some p ∧ p ≤ limit

theorem Within.cons {limit : Nat} {o : Outcome (List Token)} (within : Within limit o) {t : Token}
    (bound : t.position ≤ limit) : Within limit (o >>= fun more => .ok (t :: more)) := by
  cases o with
  | error fault => exact within
  | ok ts =>
      intro u member
      rcases List.mem_cons.mp member with rfl | member
      · exact bound
      · exact within u member

theorem tokensFrom_within {limit position : Nat} {cs : List Char} (meetsNone : ¬ MeetsBracket cs)
    (bound : position + cs.length ≤ limit) : Within limit (tokensFrom position cs) := by
  fun_induction tokensFrom position cs with
  | case1 position =>
      intro t member
      contradiction
  | case2 position c cs isBlank ih =>
      rw [List.length_cons] at bound
      exact ih (fun meets => meetsNone (.blank isBlank meets)) (by omega)
  | case3 position c cs notBlank ih =>
      have noBlank := Bool.eq_false_iff.mpr notBlank
      have covers := readToken_covers (fun bracket => meetsNone (.value bracket)) noBlank position
      rw [List.length_cons] at bound
      cases read : readToken position (c :: cs) with
      | error fault =>
          rw [read] at covers
          obtain ⟨f, p, rfl, place, -, before⟩ := covers
          rw [List.length_cons] at before
          exact ⟨f, p, rfl, place, by omega⟩
      | ok result =>
          obtain ⟨kind, n⟩ := result
          have bounds := readToken_bounds noBlank read
          have rest := ih n (fun meets => meetsNone (.token noBlank read meets)) (by
            rw [List.length_drop]
            omega)
          exact rest.cons (by
            show position ≤ limit
            omega)

theorem parse_of_meetsBracket {q : String} (meets : MeetsBracket q.toList) : parse q = .error .noSuchPart := by
  rw [parse, tokens, meets.tokensFrom 0]
  rfl

theorem parse_of_meetsNone {q : String} (meetsNone : ¬ MeetsBracket q.toList) :
    (∃ result, parse q = .ok result) ∨
      ∃ f p, parse q = .error (.query f) ∧ f.position = some p ∧ p ≤ q.length := by
  have within : Within q.length (tokens q) := tokensFrom_within meetsNone (by rw [Nat.zero_add, String.length_toList])
  cases read : tokens q with
  | error fault =>
      rw [read] at within
      obtain ⟨f, p, rfl, place, bound⟩ := within
      exact .inr ⟨f, p, by rw [parse, read]; rfl, place, bound⟩
  | ok ts =>
      rw [read] at within
      cases ts with
      | nil => exact .inl ⟨none, by rw [parse, read]; rfl⟩
      | cons t ts =>
          rw [parse_eq_of_tokens read (List.cons_ne_nil t ts)]
          rcases reads_readTree q.toList (t :: ts) with ⟨tree, outcome, -⟩ | ⟨fault, outcome, f, rfl, place⟩
          · exact .inl ⟨some tree, by rw [outcome]; rfl⟩
          · refine .inr ?_
            rcases place with atEnd | ⟨token, member, atToken⟩
            · exact ⟨f, _, by rw [outcome]; rfl, atEnd, by rw [String.length_toList]⟩
            · exact ⟨f, _, by rw [outcome]; rfl, atToken, within token member⟩

/-- A query is read, or refused as a query at a place in its text, unless reading comes to a bracket in the place of a
value: then it stops, as no word begins with a bracket, and the query is not refused as one. -/
theorem parse_outcomes (q : String) :
    (parse q = .error .noSuchPart ↔ MeetsBracket q.toList) ∧
    (parse q = .error .noSuchPart ∨ (∃ result, parse q = .ok result) ∨
      ∃ f p, parse q = .error (.query f) ∧ f.position = some p ∧ p ≤ q.length) := by
  by_cases meets : MeetsBracket q.toList
  · have stopped := parse_of_meetsBracket meets
    exact ⟨⟨fun _ => meets, fun _ => stopped⟩, .inl stopped⟩
  · have outcomes := parse_of_meetsNone meets
    refine ⟨⟨fun stopped => ?_, fun meets' => absurd meets' meets⟩, .inr outcomes⟩
    rw [stopped] at outcomes
    rcases outcomes with ⟨result, accepted⟩ | ⟨f, p, refused, -⟩
    · contradiction
    · simp at refused

theorem parse_level_bracket :
    ¬ ((∃ result, parse "level:(error)" = .ok result) ∨
      ∃ f p, parse "level:(error)" = .error (.query f) ∧ f.position = some p ∧ p ≤ "level:(error)".length) := by
  have bracket : BracketValue "level:(error)".toList :=
    ⟨"level".toList, [':'], none, "error)".toList, by simp, List.all_eq_true.mp (by decide), .colon, rfl⟩
  rw [parse_of_meetsBracket (.value bracket)]
  rintro (⟨result, accepted⟩ | ⟨f, p, refused, -⟩)
  · contradiction
  · simp at refused

end LogAnalysis.Query
