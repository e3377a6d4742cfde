import LogAnalysis.Query.Token
import LogAnalysis.Query.Tree

/-!
# The grammar of queries

The phrases of a query and their trees, stated without regard to how a query is read:

    alternatives ::= conjunction ("OR" conjunction)*
    conjunction  ::= operand (["AND"] operand)*
    operand      ::= "NOT" operand | primary
    primary      ::= "(" alternatives ")" | term

A chain is derived by growing it at its right end, so that its tree is grouped to the left. What can be derived depends
on the types of the tokens alone (`derivable_iff`).
-/

namespace LogAnalysis.Query

inductive Phrase
  | alternatives
  | conjunction
  | operand
  | primary

/-- A sequence of tokens is a phrase, and a tree is the tree of its derivation. -/
inductive Derives : Phrase → List TokenKind → Tree → Prop
  | conjunction {ks t} : Derives .conjunction ks t → Derives .alternatives ks t
  | or {ks ls left right} : Derives .alternatives ks left → Derives .conjunction ls right →
      Derives .alternatives (ks ++ .keyword .or :: ls) (.either left right)
  | operand {ks t} : Derives .operand ks t → Derives .conjunction ks t
  | and {ks ls left right} : Derives .conjunction ks left → Derives .operand ls right →
      Derives .conjunction (ks ++ .keyword .and :: ls) (.both left right)
  | adjacent {ks ls left right} : Derives .conjunction ks left → Derives .operand ls right →
      Derives .conjunction (ks ++ ls) (.both left right)
  | not {ks t} : Derives .operand ks t → Derives .operand (.keyword .not :: ks) (.not t)
  | primary {ks t} : Derives .primary ks t → Derives .operand ks t
  | brackets {ks t} : Derives .alternatives ks t → Derives .primary (.opening :: (ks ++ [.closing])) t
  | term (c : Condition) : Derives .primary [.term c] (.rule c)

/-! ## First tokens -/

def TokenKind.startsOperand : TokenKind → Bool
  | .opening | .term _ | .keyword .not => true
  | .closing | .keyword .and | .keyword .or => false

theorem Derives.starts {p : Phrase} {ks : List TokenKind} {t : Tree} (phrase : Derives p ks t) :
    ∃ k rest, ks = k :: rest ∧ k.startsOperand = true := by
  induction phrase with
  | conjunction _ ih | operand _ ih | primary _ ih => exact ih
  | or _ _ ih _ | and _ _ ih _ | adjacent _ _ ih _ =>
      obtain ⟨k, rest, rfl, starts⟩ := ih
      exact ⟨k, _, rfl, starts⟩
  | not _ _ => exact ⟨_, _, rfl, rfl⟩
  | brackets _ _ => exact ⟨_, _, rfl, rfl⟩
  | term c => exact ⟨_, _, rfl, rfl⟩

/-! ## Types of tokens -/

/-- A sequence of types of tokens can be derived as a phrase: some tokens of these types form one. -/
def Derivable (p : Phrase) (types : List String) : Prop :=
  ∃ ks t, ks.map TokenKind.name = types ∧ Derives p ks t

theorem TokenKind.eq_of_name {k l : TokenKind} (same : k.name = l.name) :
    k = l ∨ ∃ c d, k = .term c ∧ l = .term d := by
  cases k with
  | opening | closing =>
      cases l with
      | keyword w => cases w <;> simp [name, Keyword.text] at same
      | _ => simp_all [name]
  | term c =>
      cases l with
      | keyword w => cases w <;> simp [name, Keyword.text] at same
      | _ => simp_all [name]
  | keyword v =>
      cases l with
      | keyword w => cases v <;> cases w <;> simp_all [name, Keyword.text]
      | _ => cases v <;> simp [name, Keyword.text] at same

theorem TokenKind.eq_of_name_eq {k l : TokenKind} (same : k.name = l.name) (noTerm : ∀ c, l ≠ .term c) : k = l := by
  rcases eq_of_name same with equal | ⟨c, d, -, isTerm⟩
  · exact equal
  · exact absurd isTerm (noTerm d)

theorem names_eq_joined {ks ls xs : List TokenKind} {w : Keyword}
    (same : xs.map TokenKind.name = (ks ++ .keyword w :: ls).map TokenKind.name) :
    ∃ first second, xs = first ++ .keyword w :: second ∧
      first.map TokenKind.name = ks.map TokenKind.name ∧ second.map TokenKind.name = ls.map TokenKind.name := by
  rw [List.map_append, List.map_cons] at same
  obtain ⟨first, rest, rfl, sameFirst, sameRest⟩ := List.map_eq_append_iff.mp same
  obtain ⟨k, second, rfl, sameKey, sameSecond⟩ := List.map_eq_cons_iff.mp sameRest
  rw [TokenKind.eq_of_name_eq sameKey (by simp)]
  exact ⟨first, second, rfl, sameFirst, sameSecond⟩

theorem Derives.of_names {p : Phrase} {ks ls : List TokenKind} {t : Tree} (phrase : Derives p ks t)
    (same : ls.map TokenKind.name = ks.map TokenKind.name) : ∃ t', Derives p ls t' := by
  induction phrase generalizing ls with
  | conjunction _ ih => exact (ih same).imp fun _ => .conjunction
  | operand _ ih => exact (ih same).imp fun _ => .operand
  | primary _ ih => exact (ih same).imp fun _ => .primary
  | or _ _ ihLeft ihRight =>
      obtain ⟨first, second, rfl, sameFirst, sameSecond⟩ := names_eq_joined same
      obtain ⟨left, phraseLeft⟩ := ihLeft sameFirst
      obtain ⟨right, phraseRight⟩ := ihRight sameSecond
      exact ⟨_, .or phraseLeft phraseRight⟩
  | and _ _ ihLeft ihRight =>
      obtain ⟨first, second, rfl, sameFirst, sameSecond⟩ := names_eq_joined same
      obtain ⟨left, phraseLeft⟩ := ihLeft sameFirst
      obtain ⟨right, phraseRight⟩ := ihRight sameSecond
      exact ⟨_, .and phraseLeft phraseRight⟩
  | adjacent _ _ ihLeft ihRight =>
      rw [List.map_append] at same
      obtain ⟨first, second, rfl, sameFirst, sameSecond⟩ := List.map_eq_append_iff.mp same
      obtain ⟨left, phraseLeft⟩ := ihLeft sameFirst
      obtain ⟨right, phraseRight⟩ := ihRight sameSecond
      exact ⟨_, .adjacent phraseLeft phraseRight⟩
  | not _ ih =>
      rw [List.map_cons] at same
      obtain ⟨k, rest, rfl, sameKey, sameRest⟩ := List.map_eq_cons_iff.mp same
      obtain ⟨t', phrase⟩ := ih sameRest
      rw [TokenKind.eq_of_name_eq sameKey (by simp)]
      exact ⟨_, .not phrase⟩
  | brackets _ ih =>
      rw [List.map_cons, List.map_append, List.map_singleton] at same
      obtain ⟨k, rest, rfl, sameKey, sameRest⟩ := List.map_eq_cons_iff.mp same
      obtain ⟨inside, last, rfl, sameInside, sameLast⟩ := List.map_eq_append_iff.mp sameRest
      obtain ⟨l, rfl, sameClosing⟩ := List.map_eq_singleton_iff.mp sameLast
      obtain ⟨t', phrase⟩ := ih sameInside
      rw [TokenKind.eq_of_name_eq sameKey (by simp), TokenKind.eq_of_name_eq sameClosing (by simp)]
      exact ⟨_, .brackets phrase⟩
  | term c =>
      rw [List.map_singleton] at same
      obtain ⟨k, rfl, sameTerm⟩ := List.map_eq_singleton_iff.mp same
      rcases TokenKind.eq_of_name sameTerm with rfl | ⟨d, _, rfl, -⟩
      · exact ⟨_, .term c⟩
      · exact ⟨_, .term d⟩

theorem derivable_iff {p : Phrase} {ks : List TokenKind} :
    Derivable p (ks.map TokenKind.name) ↔ ∃ t, Derives p ks t := by
  constructor
  · rintro ⟨ls, t, same, phrase⟩
    exact phrase.of_names same.symm
  · rintro ⟨t, phrase⟩
    exact ⟨ks, t, rfl, phrase⟩

end LogAnalysis.Query
