import LogAnalysis.Proofs.Query.Parsing
import LogAnalysis.Proofs.Query.Terms
import LogAnalysis.Query.Flat

/-!
# Conditions of queries

What conditions come of a text: fields and operators are texts, and a word that is searched for is one too (`IsTerm`).
So a query, unlike a tree from data, can be asked about every entry (`IsQuery`, `parse_isQuery`).
-/

namespace LogAnalysis.Query

/-- The condition of a term: a comparison with a text, a question whether a field is there, or a list of texts. -/
inductive IsTerm : Condition → Prop
  | compare (field : List Char) (operator : Operator) (value : List Char) : IsTerm (compare field operator value)
  | existence (spelling field : List Char) : IsTerm (existenceCondition spelling field)
  | list (field : List Char) (items : List (List Char)) : IsTerm (listCondition field items)

inductive IsQuery : Tree → Prop
  | rule {c} : IsTerm c → IsQuery (.rule c)
  | not {t} : IsQuery t → IsQuery (.not t)
  | both {left right} : IsQuery left → IsQuery right → IsQuery (.both left right)
  | either {left right} : IsQuery left → IsQuery right → IsQuery (.either left right)

/-! ## Terms -/

theorem IsTerm.names {c : Condition} (term : IsTerm c) :
    ∃ name operator, c.field = .text name ∧ c.operator = .text operator := by
  cases term with
  | compare | existence | list => exact ⟨_, _, rfl, rfl⟩

theorem IsTerm.wordSearch {c : Condition} (term : IsTerm c) (search : isWordSearch c = true) :
    ∃ word, c = ⟨.text "raw", .text "contains", .text word⟩ := by
  have raw : c.field = .text "raw" := by
    obtain ⟨name, operator, field, -⟩ := term.names
    simp only [isWordSearch, field, isText, Bool.and_eq_true, decide_eq_true_eq] at search
    rw [field, search.1]
  have contains : c.operator = .text "contains" := by
    obtain ⟨name, operator, -, named⟩ := term.names
    simp only [isWordSearch, named, isText, Bool.and_eq_true, decide_eq_true_eq] at search
    rw [named, search.2]
  cases term with
  | compare field operator value => exact ⟨String.ofList value, by rw [← raw, ← contains]; rfl⟩
  | existence spelling field =>
      simp only [existenceCondition] at contains
      split at contains <;> simp [Operator.name] at contains
  | list field items => simp [listCondition, Operator.name] at contains

theorem isTerm_shapeCondition (field : List Char) (value : Written) : IsTerm (shapeCondition field value) := by
  unfold shapeCondition
  dsimp only
  repeat' split
  all_goals exact .compare _ _ _

theorem isTerm_valueCondition (field : List Char) (operator : Option Operator) (value : Written) :
    IsTerm (valueCondition field operator value) := by
  cases operator with
  | some operator => exact .compare _ _ _
  | none => exact isTerm_shapeCondition field value

theorem existence?_isTerm {cs : List Char} {c : Condition} {n : Nat} (found : existence? cs = some (c, n)) :
    IsTerm c := by
  rw [existence?_eq] at found
  obtain ⟨word, -, found⟩ := List.exists_of_findSome?_eq_some found
  obtain ⟨rest, -, found⟩ := Option.bind_eq_some_iff.mp found
  dsimp only at found
  split at found
  · contradiction
  · obtain ⟨rfl, -⟩ := Prod.mk.inj (Option.some.inj found)
    exact .existence _ _

theorem readTerm_isTerm {position : Nat} {cs : List Char} {c : Condition} {n : Nat}
    (read : readTerm position cs = .ok (c, n)) : IsTerm c := by
  unfold readTerm at read
  split at read
  · next found found_eq =>
      obtain rfl := Except.ok.inj read
      exact existence?_isTerm found_eq
  · split at read
    · rw [readField_eq] at read
      split at read
      · obtain ⟨result, -, pair⟩ := Outcome.bind_eq_ok.mp read
        obtain ⟨rfl, -⟩ := Prod.mk.inj (Except.ok.inj pair)
        exact .list _ _
      · obtain ⟨result, -, pair⟩ := Outcome.bind_eq_ok.mp read
        obtain ⟨rfl, -⟩ := Prod.mk.inj (Except.ok.inj pair)
        exact isTerm_valueCondition _ _ _
    · obtain ⟨rfl, -⟩ := Prod.mk.inj (Except.ok.inj read)
      exact .compare _ _ _

/-! ## Tokens -/

theorem readToken_isTerm {position : Nat} {cs : List Char} {c : Condition} {n : Nat}
    (read : readToken position cs = .ok (.term c, n)) : IsTerm c := by
  unfold readToken at read
  split at read
  · simp at read
  · simp at read
  · obtain ⟨⟨phrase, m⟩, -, pair⟩ := Outcome.bind_eq_ok.mp read
    obtain ⟨kind, -⟩ := Prod.mk.inj (Except.ok.inj pair)
    obtain rfl := TokenKind.term.inj kind
    exact .compare _ _ _
  · split at read
    · simp at read
    · obtain ⟨⟨condition, m⟩, term, pair⟩ := Outcome.bind_eq_ok.mp read
      obtain ⟨kind, -⟩ := Prod.mk.inj (Except.ok.inj pair)
      obtain rfl := TokenKind.term.inj kind
      exact readTerm_isTerm term

theorem tokensFrom_isTerm {position : Nat} {cs : List Char} {ts : List Token}
    (read : tokensFrom position cs = .ok ts) {t : Token} (member : t ∈ ts) {c : Condition} (isTerm : t.kind = .term c) :
    IsTerm c := by
  fun_induction tokensFrom position cs generalizing ts with
  | case1 position =>
      obtain rfl := Except.ok.inj read
      contradiction
  | case2 position c cs isBlank ih => exact ih read member
  | case3 position c cs notBlank ih =>
      obtain ⟨⟨kind, n⟩, readOne, read⟩ := Outcome.bind_eq_ok.mp read
      obtain ⟨more, readMore, read⟩ := Outcome.bind_eq_ok.mp read
      obtain rfl := Except.ok.inj read
      rcases List.mem_cons.mp member with rfl | member
      · obtain rfl := isTerm
        exact readToken_isTerm readOne
      · exact ih n readMore member

/-! ## Trees -/

theorem Derives.isQuery {p : Phrase} {ks : List TokenKind} {t : Tree} (phrase : Derives p ks t)
    (terms : ∀ c, .term c ∈ ks → IsTerm c) : IsQuery t := by
  induction phrase with
  | conjunction _ ih | operand _ ih | primary _ ih => exact ih terms
  | or _ _ ihLeft ihRight =>
      have left := ihLeft fun c member => terms c (by simp [member])
      exact .either left (ihRight fun c member => terms c (by simp [member]))
  | and _ _ ihLeft ihRight | adjacent _ _ ihLeft ihRight =>
      have left := ihLeft fun c member => terms c (by simp [member])
      exact .both left (ihRight fun c member => terms c (by simp [member]))
  | not _ ih => exact .not (ih fun c member => terms c (by simp [member]))
  | brackets _ ih => exact ih fun c member => terms c (by simp [member])
  | term c => exact .rule (terms c (by simp))

theorem parse_isQuery {q : String} {t : Tree} (accepted : parse q = .ok (some t)) : IsQuery t := by
  obtain ⟨ts, read, result⟩ := Outcome.bind_eq_ok.mp accepted
  have nonempty : ts ≠ [] := by
    rintro rfl
    simp at result
  have phrase := (parse_eq_some_iff read nonempty).mp accepted
  refine Derives.isQuery phrase fun c member => ?_
  obtain ⟨token, inTokens, kind⟩ := List.mem_map.mp member
  exact tokensFrom_isTerm read inTokens kind

end LogAnalysis.Query
