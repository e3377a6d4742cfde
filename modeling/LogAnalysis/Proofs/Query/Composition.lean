import LogAnalysis.Proofs.Query.Closing
import LogAnalysis.Proofs.Query.Parsing
import LogAnalysis.Proofs.Query.Tokens

/-!
# Queries in brackets

Queries that are accepted can be put into brackets, negated and joined as texts, and their trees are negated and joined
in the same way (`parse_joined`). The tokens of a text do not change when a closing bracket follows it (`Scans.append`), and
between brackets they form one operand.
-/

namespace LogAnalysis.Query

open Text

def Scans (cs : List Char) (ks : List TokenKind) : Prop :=
  ∀ position, ∃ ts, tokensFrom position cs = .ok ts ∧ ts.map Token.kind = ks

theorem Scans.nil : Scans [] [] := fun _ => ⟨[], by rw [tokensFrom], rfl⟩

theorem Scans.blank {c : Char} (blank : isBlank c = true) {cs : List Char} {ks : List TokenKind} (rest : Scans cs ks) :
    Scans (c :: cs) ks := by
  intro position
  rw [tokensFrom_blank blank]
  exact rest (position + 1)

theorem Scans.token {c : Char} (noBlank : isBlank c = false) {cs : List Char} {kind : TokenKind} {n : Nat}
    {ks : List TokenKind} (read : ∀ position, readToken position (c :: cs) = .ok (kind, n))
    (rest : Scans (cs.drop (n - 1)) ks) : Scans (c :: cs) (kind :: ks) := by
  intro position
  obtain ⟨more, readMore, kinds⟩ := rest (position + (n - 1) + 1)
  rw [tokensFrom_eq noBlank, read, Outcome.ok_bind]
  dsimp only
  rw [readMore]
  exact ⟨_, rfl, by rw [List.map_cons, kinds]⟩

theorem Scans.opening {cs : List Char} {ks : List TokenKind} (rest : Scans cs ks) :
    Scans ('(' :: cs) (.opening :: ks) :=
  Scans.token (by decide) (fun _ => rfl) rest

theorem Scans.closing {cs : List Char} {ks : List TokenKind} (rest : Scans cs ks) :
    Scans (')' :: cs) (.closing :: ks) :=
  Scans.token (by decide) (fun _ => rfl) rest

theorem Scans.append {position : Nat} {cs tail : List Char} {ts : List Token} {ks : List TokenKind}
    (closes : Closes tail) (read : tokensFrom position cs = .ok ts) (rest : Scans tail ks) :
    Scans (cs ++ tail) (ts.map Token.kind ++ ks) := by
  fun_induction tokensFrom position cs generalizing ts with
  | case1 position =>
      obtain rfl := Except.ok.inj read
      exact rest
  | case2 position c cs isBlank ih => exact (ih read).blank isBlank
  | case3 position c cs notBlank ih =>
      have noBlank := Bool.eq_false_iff.mpr notBlank
      obtain ⟨⟨kind, n⟩, readOne, read⟩ := Outcome.bind_eq_ok.mp read
      obtain ⟨more, readMore, read⟩ := Outcome.bind_eq_ok.mp read
      obtain rfl := Except.ok.inj read
      have bounds := readToken_bounds noBlank readOne
      have one := fun place => readToken_append closes place (List.cons_ne_nil c cs) readOne
      have after := ih n readMore
      rw [← List.drop_append_of_le_length (by omega)] at after
      exact Scans.token noBlank one after

theorem Scans.of_tokensFrom {position : Nat} {cs : List Char} {ts : List Token} (read : tokensFrom position cs = .ok ts) :
    Scans cs (ts.map Token.kind) := by
  have whole := Scans.append closes_nil read Scans.nil
  rwa [List.append_nil, List.append_nil] at whole

theorem Scans.of_tokens {q : String} {ts : List Token} (read : tokens q = .ok ts) : Scans q.toList (ts.map Token.kind) :=
  Scans.of_tokensFrom read

theorem Scans.brackets {cs rest : List Char} {ks ls : List TokenKind} (inside : Scans cs ks) (after : Scans rest ls) :
    Scans ('(' :: (cs ++ ')' :: rest)) (.opening :: (ks ++ .closing :: ls)) := by
  obtain ⟨ts, read, rfl⟩ := inside 0
  exact (Scans.append (closes_bracket rest) read after.closing).opening

theorem Scans.keyword (k : Keyword) {cs : List Char} {ks : List TokenKind} (rest : Scans cs ks) :
    Scans (k.text.toList ++ ' ' :: cs) (.keyword k :: ks) := by
  have after := rest.blank (c := ' ') (by decide)
  cases k with
  | and => exact Scans.token (by decide) (fun _ => rfl) after
  | or => exact Scans.token (by decide) (fun _ => rfl) after
  | not => exact Scans.token (by decide) (fun _ => rfl) after

theorem parse_of_scans {q : String} {ks : List TokenKind} {t : Tree} (scans : Scans q.toList ks) :
    parse q = .ok (some t) ↔ Derives .alternatives ks t := by
  obtain ⟨ts, read, rfl⟩ := scans 0
  cases ts with
  | nil =>
      have nothing : parse q = .ok none := by
        rw [parse, tokens, read]
        rfl
      constructor
      · intro result
        rw [nothing] at result
        simp at result
      · intro phrase
        obtain ⟨k, rest, noTokens, -⟩ := phrase.starts
        contradiction
  | cons token ts => exact parse_eq_some_iff read (List.cons_ne_nil token ts)

theorem exists_scans {q : String} {t : Tree} (accepted : parse q = .ok (some t)) :
    ∃ ks, Scans q.toList ks ∧ Derives .alternatives ks t := by
  obtain ⟨ts, read, -⟩ := Outcome.bind_eq_ok.mp accepted
  have scans := Scans.of_tokens read
  exact ⟨_, scans, (parse_of_scans scans).mp accepted⟩

def bracketed (ks : List TokenKind) : List TokenKind := .opening :: (ks ++ [.closing])

section

variable {q₁ q₂ : String} {ks ls : List TokenKind} (first : Scans q₁.toList ks) (second : Scans q₂.toList ls)

include first

theorem scans_bracketed : Scans ("(" ++ q₁ ++ ")").toList (bracketed ks) := by
  simpa [bracketed] using first.brackets Scans.nil

theorem scans_negated : Scans ("NOT (" ++ q₁ ++ ")").toList (.keyword .not :: bracketed ks) := by
  simpa [bracketed, Keyword.text] using Scans.keyword .not (first.brackets Scans.nil)

include second

theorem scans_adjacent : Scans ("(" ++ q₁ ++ ") (" ++ q₂ ++ ")").toList (bracketed ks ++ bracketed ls) := by
  have after := (second.brackets Scans.nil).blank (c := ' ') (by decide)
  simpa [bracketed] using first.brackets after

theorem scans_joined (k : Keyword) {between : String}
    (spelling : between.toList = ')' :: ' ' :: (k.text.toList ++ [' ', '('])) :
    Scans ("(" ++ q₁ ++ between ++ q₂ ++ ")").toList (bracketed ks ++ .keyword k :: bracketed ls) := by
  have after := (Scans.keyword k (second.brackets Scans.nil)).blank (c := ' ') (by decide)
  simpa [bracketed, spelling] using first.brackets after

end

/-- Brackets around accepted queries make operands of them, which can stand alone, be negated, and be joined with a
keyword or without one. -/
theorem parse_joined {q₁ q₂ : String} {t₁ t₂ : Tree} (first : parse q₁ = .ok (some t₁))
    (second : parse q₂ = .ok (some t₂)) :
    parse ("(" ++ q₁ ++ ")") = .ok (some t₁) ∧
    parse ("NOT (" ++ q₁ ++ ")") = .ok (some (.not t₁)) ∧
    parse ("(" ++ q₁ ++ ") AND (" ++ q₂ ++ ")") = .ok (some (.both t₁ t₂)) ∧
    parse ("(" ++ q₁ ++ ") (" ++ q₂ ++ ")") = .ok (some (.both t₁ t₂)) ∧
    parse ("(" ++ q₁ ++ ") OR (" ++ q₂ ++ ")") = .ok (some (.either t₁ t₂)) := by
  obtain ⟨ks, scans₁, phrase₁⟩ := exists_scans first
  obtain ⟨ls, scans₂, phrase₂⟩ := exists_scans second
  have left : Derives .operand (bracketed ks) t₁ := .primary (.brackets phrase₁)
  have right : Derives .operand (bracketed ls) t₂ := .primary (.brackets phrase₂)
  refine ⟨?_, ?_, ?_, ?_, ?_⟩
  · exact (parse_of_scans (scans_bracketed scans₁)).mpr (.conjunction (.operand left))
  · exact (parse_of_scans (scans_negated scans₁)).mpr (.conjunction (.operand (.not left)))
  · rw [parse_of_scans (scans_joined scans₁ scans₂ .and rfl)]
    exact .conjunction (.and (.operand left) right)
  · exact (parse_of_scans (scans_adjacent scans₁ scans₂)).mpr (.conjunction (.adjacent (.operand left) right))
  · rw [parse_of_scans (scans_joined scans₁ scans₂ .or rfl)]
    exact .or (.conjunction (.operand left)) (.operand right)

def eitherTree : Tree := .either (.rule (compare "a".toList .equals "1".toList)) (.rule (holding "b".toList))

theorem parse_joined_either :
    parse "a=1 OR b" = .ok (some eitherTree) ∧ parse "\"c )\"" = .ok (some (.rule (holding "c )".toList))) ∧
    parse "(a=1 OR b) (\"c )\")" = .ok (some (.both eitherTree (.rule (holding "c )".toList)))) := by
  have leftTokens : tokens "a=1 OR b" = .ok [⟨.term (compare "a".toList .equals "1".toList), "a=1", 0⟩,
      ⟨.keyword .or, "OR", 4⟩, ⟨.term (holding "b".toList), "b", 7⟩] := by with_unfolding_all rfl
  have rightTokens : tokens "\"c )\"" = .ok [⟨.term (holding "c )".toList), "\"c )\"", 0⟩] := by with_unfolding_all rfl
  have leftTerm := Derives.operand (.primary (.term (compare "a".toList .equals "1".toList)))
  have middleTerm := Derives.operand (.primary (.term (holding "b".toList)))
  have rightTerm := Derives.operand (.primary (.term (holding "c )".toList)))
  have first : parse "a=1 OR b" = .ok (some eitherTree) :=
    (parse_of_scans (.of_tokens leftTokens)).mpr (.or (.conjunction leftTerm) middleTerm)
  have second : parse "\"c )\"" = .ok (some (.rule (holding "c )".toList))) :=
    (parse_of_scans (.of_tokens rightTokens)).mpr (.conjunction rightTerm)
  exact ⟨first, second, (parse_joined first second).2.2.2.1⟩

end LogAnalysis.Query
