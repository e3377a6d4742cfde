import LogAnalysis.Proofs.Filter.Acceptance
import LogAnalysis.Proofs.Filter.Conditions
import LogAnalysis.Proofs.Query.Conditions
import LogAnalysis.Search

/-!
# What a search accepts

The meaning of a search for one entry by itself. A tree means what its conditions mean, joined and negated without
regard to which of them are asked (`Query.Tree.accepts`); a search that has a result keeps the rows of the accepted
entries, in their order (`Search.keep_eq_ok`).
-/

namespace LogAnalysis

open Condition (passes)

variable (clock : Calendar.Clock) (registry : Option Registry)

/-! ## Trees -/

namespace Query

def Tree.accepts (e : Entry) : Tree → Bool
  | rule c => passes (c.holds clock registry e)
  | not operand => !operand.accepts e
  | logic word left right =>
    if word = "OR" then left.accepts e || right.accepts e else left.accepts e && right.accepts e

variable {clock registry} {e : Entry}

theorem Tree.holds_eq_ok {t : Tree} {b : Bool} (result : t.holds clock registry e = .ok b) :
    t.accepts clock registry e = b := by
  induction t generalizing b with
  | rule c =>
      simp only [holds] at result
      simp only [accepts, result, passes]
  | not operand ih =>
      obtain ⟨inner, answer, negated⟩ := Outcome.bind_eq_ok.mp result
      obtain rfl := Except.ok.inj negated
      rw [accepts, ih answer]
  | logic word left right ihLeft ihRight =>
      obtain ⟨first, answer, result⟩ := Outcome.bind_eq_ok.mp result
      rw [accepts, ihLeft answer]
      by_cases isOr : word = "OR"
      · cases first with
        | true => simp_all
        | false =>
            simp only [isOr, decide_true, Bool.false_eq_true, if_false] at result
            rw [if_pos isOr, Bool.false_or, ihRight result]
      · cases first with
        | true =>
            simp only [isOr, decide_false, Bool.true_eq_false, if_false] at result
            rw [if_neg isOr, Bool.true_and, ihRight result]
        | false => simp_all

theorem IsTerm.holds {c : Condition} (term : IsTerm c) :
    c.holds clock registry e = .ok (passes (c.holds clock registry e)) := by
  obtain ⟨name, operator, field, -⟩ := term.names
  exact Condition.holds_of_text field e

theorem Tree.holds_logic {word : String} {left right : Tree} {a b : Bool}
    (first : left.holds clock registry e = .ok a) (second : right.holds clock registry e = .ok b) :
    ∃ c, (logic word left right).holds clock registry e = .ok c := by
  rw [holds, first, Outcome.ok_bind, second]
  split
  · exact ⟨a, rfl⟩
  · exact ⟨b, rfl⟩

theorem IsQuery.exists_holds {t : Tree} (query : IsQuery t) : ∃ b, t.holds clock registry e = .ok b := by
  induction query with
  | rule term => exact ⟨_, term.holds⟩
  | not _ ih =>
      obtain ⟨b, answer⟩ := ih
      exact ⟨!b, by rw [Tree.holds, answer]; rfl⟩
  | both _ _ ihLeft ihRight | either _ _ ihLeft ihRight =>
      obtain ⟨a, first⟩ := ihLeft
      obtain ⟨b, second⟩ := ihRight
      exact Tree.holds_logic first second

theorem IsQuery.holds {t : Tree} (query : IsQuery t) :
    t.holds clock registry e = .ok (t.accepts clock registry e) := by
  obtain ⟨b, answer⟩ : ∃ b, t.holds clock registry e = .ok b := query.exists_holds
  rw [Tree.holds_eq_ok answer, answer]

end Query

/-! ## Searches -/

namespace Search

/-- The search accepts an entry. A value that is no search accepts none. -/
def accepts (e : Entry) : Search → Bool
  | query tree => tree.accepts clock registry e
  | filter f => f.accepts clock registry e
  | unknown _ => false

variable {clock registry} {α : Type} {entryOf : α → Entry} {rows result : List α}

theorem select_eq_ok {test : α → Outcome Bool} {truthOf : α → Bool} (told : ∀ x b, test x = .ok b → truthOf x = b)
    (done : select test rows = .ok result) : result = rows.filter truthOf := by
  obtain ⟨choice, chosen, rfl⟩ := Outcome.map_eq_ok.mp done
  rw [Filter.choose_eq_ok told chosen, Filter.chosen_map]

theorem yields_keep_query (tree : Query.Tree) : (keep clock registry entryOf rows (.query tree)).Yields
    (select (fun x => tree.holds clock registry (entryOf x)) rows) := .after_report (Run.yields_lift _) _ _

theorem yields_keep_unknown (v : Value) : (keep clock registry entryOf rows (.unknown v)).Yields
    (select (fun _ => .error .noSuchPart) rows) := .after_report (Run.yields_lift _) _ _

theorem yields_keep (search : Search) : (search.keep clock registry entryOf rows).Yields
    (search.keep clock registry entryOf rows).outcome := by
  cases search with
  | query tree => exact (yields_keep_query tree).outcome
  | filter f => exact (Filter.yields_keep clock registry entryOf f rows).outcome
  | unknown v => exact (yields_keep_unknown v).outcome

theorem keep_eq_ok {search : Search} (done : (search.keep clock registry entryOf rows).outcome = .ok result) :
    result = rows.filter fun x => search.accepts clock registry (entryOf x) := by
  cases search with
  | filter f => exact Filter.keep_eq_ok done
  | query tree =>
      rw [(yields_keep_query tree).outcome_eq] at done
      exact select_eq_ok (fun x b => Query.Tree.holds_eq_ok) done
  | unknown v =>
      rw [(yields_keep_unknown v).outcome_eq] at done
      exact select_eq_ok (fun x b answer => by contradiction) done

/-- What it comes to that a search lets a row through: the query holds for its entry, or the filter keeps the row, if
it is asked about no other one. -/
def Admits (clock : Calendar.Clock) (registry : Option Registry) (entryOf : α → Entry) (x : α) : Search → Prop
  | query tree => tree.holds clock registry (entryOf x) = .ok true
  | filter f => (f.keep clock registry entryOf [x]).outcome = .ok [x]
  | unknown _ => False

theorem filter_single_eq_self {p : α → Bool} {x : α} : [x].filter p = [x] ↔ p x = true := by
  simp [List.filter_eq_self]

theorem accepts_iff_admits {search : Search} (done : (search.keep clock registry entryOf rows).outcome = .ok result)
    {x : α} (member : x ∈ rows) :
    search.accepts clock registry (entryOf x) = true ↔ search.Admits clock registry entryOf x := by
  cases search with
  | filter f =>
      rw [Admits, Filter.keep_single done member, Except.ok.injEq, filter_single_eq_self]
      rfl
  | query tree =>
      rw [(yields_keep_query tree).outcome_eq] at done
      obtain ⟨choice, chosen, -⟩ := Outcome.map_eq_ok.mp done
      obtain ⟨row, -, told⟩ := Outcome.exists_of_mapM chosen member
      obtain ⟨b, (answer : tree.holds clock registry (entryOf x) = .ok b), -⟩ := Outcome.bind_eq_ok.mp told
      rw [accepts, Admits, answer, Query.Tree.holds_eq_ok answer, Except.ok.injEq]
  | unknown v => simp [accepts, Admits]

end Search

end LogAnalysis
