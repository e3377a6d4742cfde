import LogAnalysis.Filter.Evaluation
import LogAnalysis.Proofs.Run
import LogAnalysis.Proofs.Text.Search

/-!
# What a filter accepts

The meaning of a filter for one entry by itself: `Filter.accepts` joins all rules from left to right and passes none
over, and knows neither candidates nor reports.

* `Rule.joined_eq_ok` and `Rule.joined_of_ok`: joining rules that are told in turn, of which some are passed over,
  comes to joining all of them.
* `Filter.keep_eq_ok`: a filter that has a result keeps the rows of the accepted entries, in their order.
* `Filter.accepts_of_isEmpty`: a filter that asks for nothing accepts every entry.
-/

namespace LogAnalysis

open Condition (passes)

/-! ## Lists of rules -/

namespace Rule

def truthFrom (test : Rule → Bool) (result alternative : Bool) : List Rule → Bool
  | [] => result
  | r :: rest =>
    truthFrom test (if alternative then result || test r else result && test r) r.isAlternative rest

def truth (test : Rule → Bool) : List Rule → Bool
  | [] => true
  | r :: rest => truthFrom test (test r) r.isAlternative rest

theorem truthFrom_false (test : Rule → Bool) {rules : List Rule} (noAlternative : rules.any isAlternative = false) :
    truthFrom test false false rules = false := by
  induction rules with
  | nil => rfl
  | cons r rest ih =>
      simp only [List.any_cons, Bool.or_eq_false_iff] at noAlternative
      simp only [truthFrom, noAlternative.1, Bool.false_and, Bool.false_eq_true, if_false]
      exact ih noAlternative.2

theorem joinFrom_eq_ok {test : Rule → Outcome Bool} {result alternative b : Bool} {rules : List Rule}
    (joined : joinFrom test result alternative rules = .ok b) :
    truthFrom (fun r => passes (test r)) result alternative rules = b := by
  induction rules generalizing result alternative with
  | nil => exact Except.ok.inj joined
  | cons r rest ih =>
      obtain ⟨outcome, told, joined⟩ := Outcome.bind_eq_ok.mp joined
      simp only [truthFrom, told, passes]
      cases alternative with
      | true => exact ih joined
      | false =>
          simp only [Bool.false_eq_true, if_false] at joined ⊢
          split at joined
          · next settled =>
              obtain rfl := Except.ok.inj joined
              simp only [List.any_cons, Bool.and_eq_true, Bool.not_eq_true', Bool.or_eq_false_iff] at settled
              rw [settled.1, settled.2.1]
              exact truthFrom_false _ settled.2.2
          · exact ih joined

theorem joinFrom_of_ok {test : Rule → Outcome Bool} {truthOf : Rule → Bool} {result alternative : Bool}
    {rules : List Rule} (told : ∀ r ∈ rules, test r = .ok (truthOf r)) :
    joinFrom test result alternative rules = .ok (truthFrom truthOf result alternative rules) := by
  induction rules generalizing result alternative with
  | nil => rfl
  | cons r rest ih =>
      have rest_told := fun r' member => told r' (List.mem_cons_of_mem r member)
      simp only [joinFrom, truthFrom, told r List.mem_cons_self, Outcome.ok_bind]
      cases alternative with
      | true => exact ih rest_told
      | false =>
          simp only [Bool.false_eq_true, if_false]
          split
          · next settled =>
              simp only [List.any_cons, Bool.and_eq_true, Bool.not_eq_true', Bool.or_eq_false_iff] at settled
              rw [settled.1, settled.2.1, truthFrom_false _ settled.2.2]
              rfl
          · exact ih rest_told

theorem joined_eq_ok {test : Rule → Outcome Bool} {b : Bool} {rules : List Rule} (result : joined test rules = .ok b) :
    truth (fun r => passes (test r)) rules = b := by
  cases rules with
  | nil => exact Except.ok.inj result
  | cons r rest =>
      obtain ⟨first, told, result⟩ := Outcome.bind_eq_ok.mp result
      simp only [truth, told, passes]
      exact joinFrom_eq_ok result

theorem joined_of_ok {test : Rule → Outcome Bool} {truthOf : Rule → Bool} {rules : List Rule}
    (told : ∀ r ∈ rules, test r = .ok (truthOf r)) : joined test rules = .ok (truth truthOf rules) := by
  cases rules with
  | nil => rfl
  | cons r rest =>
      simp only [joined, truth, told r List.mem_cons_self, Outcome.ok_bind]
      exact joinFrom_of_ok fun r' member => told r' (List.mem_cons_of_mem r member)

end Rule

/-! ## Filters -/

namespace Filter

variable (clock : Calendar.Clock) (registry : Option Registry) {α : Type}

def finds (f : Filter) (e : Entry) : Bool :=
  match f.quickSearch with
  | .text search => e.holdsTerms (searchTerms search)
  | _ => false

def accepted (e : Entry) (rules : List Rule) : Bool := Rule.truth (fun r => passes (r.admits clock registry e)) rules

def groupAccepts (e : Entry) (chosen : Bool) (group : RuleGroup) : Bool :=
  if group.logic = "OR" then accepted clock registry e group.rules || chosen
  else chosen && accepted clock registry e group.rules

/-- The filter accepts an entry: it holds the words of the quick search, and the rules and the groups in turn
choose it. -/
def accepts (f : Filter) (e : Entry) : Bool :=
  f.finds e && f.groups.foldl (groupAccepts clock registry e) (accepted clock registry e f.rules)

/-! ## Stages -/

/-- The rows that a filter keeps, without the reports on the way and without leaving out the stages that change
nothing. -/
def kept (entryOf : α → Entry) (f : Filter) (rows : List α) : Outcome (List α) := do
  let test := fun rules x => Rule.allow clock registry rules (entryOf x)
  let search ← f.searchText
  let choice ← choose (test f.rules) (rows.filter fun x => (entryOf x).holdsTerms (searchTerms search))
  return (← f.groups.foldlM (chooseGroup test) choice).chosen

theorem choose_of_ok {test : α → Outcome Bool} {truthOf : α → Bool} {candidates : List α}
    (told : ∀ x ∈ candidates, test x = .ok (truthOf x)) :
    choose test candidates = .ok (candidates.map fun x => (x, truthOf x)) :=
  Outcome.mapM_of_ok fun x member => by rw [told x member, Outcome.ok_bind, Outcome.pure_eq]

theorem yields_choice {test : List Rule → α → Outcome Bool} (all : ∀ x, test [] x = .ok true) (f : Filter)
    (candidates : List α) :
    Run.Yields (do
      let mut choice : Choice α := candidates.map (·, true)
      if !f.rules.isEmpty then
        Run.report 30 "Applying filter rules..."
        choice ← choose (test f.rules) candidates
      if !f.groups.isEmpty then
        Run.report 50 "Applying filter groups..."
        choice ← (f.groups.foldlM (chooseGroup test) choice : Outcome (Choice α))
      return choice.chosen)
    (choose (test f.rules) candidates >>= fun choice =>
      f.groups.foldlM (chooseGroup test) choice >>= fun choice => .ok choice.chosen) := by
  have groups : ∀ choice : Choice α, Run.Yields (do
      if !f.groups.isEmpty then
        Run.report 50 "Applying filter groups..."
        let choice ← (f.groups.foldlM (chooseGroup test) choice : Outcome (Choice α))
        return choice.chosen
      else return choice.chosen)
      (f.groups.foldlM (chooseGroup test) choice >>= fun choice => .ok choice.chosen) := by
    intro choice
    refine .ite (fun _ => ?_) fun noGroups => ?_
    · exact .after_report ((Run.yields_lift _).bind fun choice => Run.yields_pure _) _ _
    · obtain none : f.groups = [] := by simpa using noGroups
      rw [none]
      exact Run.yields_pure _
  refine .ite (fun _ => ?_) fun noRules => ?_
  · exact .after_report ((Run.yields_lift _).bind groups) _ _
  · obtain none : f.rules = [] := by simpa using noRules
    rw [none, choose_of_ok fun x _ => all x]
    exact groups _

theorem searchTerms_blank {search : String} (blank : Text.isBlankString search = true) : searchTerms search = [] := by
  rw [searchTerms, Text.toList_lowered, Text.lower, Text.lowerAfter_blank blank, Text.words_blank blank]

theorem yields_keep (entryOf : α → Entry) (f : Filter) (rows : List α) :
    (f.keep clock registry entryOf rows).Yields (kept clock registry entryOf f rows) := by
  refine (Run.yields_lift _).bind fun search => .ite (fun _ => ?_) fun blank => ?_
  · exact .after_report (yields_choice (fun _ => rfl) f _) _ _
  · have noTerms : searchTerms search = [] := searchTerms_blank (by simpa using blank)
    have whole : (rows.filter fun x => (entryOf x).holdsTerms []) = rows := List.filter_eq_self.mpr fun _ _ => rfl
    rw [noTerms, whole]
    exact yields_choice (fun _ => rfl) f rows

/-! ## Rows -/

theorem choose_eq_ok {test : α → Outcome Bool} {truthOf : α → Bool} (told : ∀ x b, test x = .ok b → truthOf x = b)
    {candidates : List α} {choice : Choice α} (chosen : choose test candidates = .ok choice) :
    choice = candidates.map fun x => (x, truthOf x) := by
  refine Outcome.eq_map_of_mapM chosen fun x row result => ?_
  obtain ⟨b, result, pair⟩ := Outcome.bind_eq_ok.mp result
  rw [told x b result]
  exact (Except.ok.inj pair).symm

theorem chosen_map (candidates : List α) (chosen : α → Bool) :
    Choice.chosen (candidates.map fun x => (x, chosen x)) = candidates.filter chosen := by
  rw [Choice.chosen, List.filter_map, List.map_map]
  exact List.map_id _

variable {clock registry}

theorem accepted_of_allow {rules : List Rule} {e : Entry} {b : Bool}
    (result : Rule.allow clock registry rules e = .ok b) : accepted clock registry e rules = b :=
  Rule.joined_eq_ok result

variable {entryOf : α → Entry} {candidates : List α}

theorem chooseGroup_eq_ok {chosen : α → Bool} {group : RuleGroup} {choice : Choice α}
    (result : chooseGroup (fun rules x => Rule.allow clock registry rules (entryOf x))
      (candidates.map fun x => (x, chosen x)) group = .ok choice) :
    choice = candidates.map fun x => (x, groupAccepts clock registry (entryOf x) (chosen x) group) := by
  have rows : choice = (candidates.map fun x => (x, chosen x)).map fun row =>
      (row.1, groupAccepts clock registry (entryOf row.1) row.2 group) := by
    refine Outcome.eq_map_of_mapM result ?_
    rintro ⟨x, b⟩ row told
    dsimp only at told ⊢
    unfold groupAccepts
    split at told
    · next isOr =>
        obtain ⟨allowed, allow, pair⟩ := Outcome.bind_eq_ok.mp told
        rw [if_pos isOr, accepted_of_allow allow]
        exact (Except.ok.inj pair).symm
    · next noOr =>
        rw [if_neg noOr]
        cases b with
        | false => exact (Except.ok.inj told).symm
        | true =>
            obtain ⟨allowed, allow, pair⟩ := Outcome.bind_eq_ok.mp told
            rw [accepted_of_allow allow]
            exact (Except.ok.inj pair).symm
  rw [rows, List.map_map]
  rfl

theorem foldlM_chooseGroup_eq_ok {chosen : α → Bool} {groups : List RuleGroup} {choice : Choice α}
    (result : groups.foldlM (chooseGroup fun rules x => Rule.allow clock registry rules (entryOf x))
      (candidates.map fun x => (x, chosen x)) = .ok choice) :
    choice = candidates.map fun x => (x, groups.foldl (groupAccepts clock registry (entryOf x)) (chosen x)) := by
  induction groups generalizing chosen with
  | nil => exact (Except.ok.inj result).symm
  | cons group groups ih =>
      obtain ⟨next, first, rest⟩ := Outcome.bind_eq_ok.mp result
      rw [chooseGroup_eq_ok first] at rest
      exact ih rest

theorem kept_eq_ok {f : Filter} {rows result : List α} (done : kept clock registry entryOf f rows = .ok result) :
    result = rows.filter fun x => f.accepts clock registry (entryOf x) := by
  obtain ⟨search, isText, done⟩ := Outcome.bind_eq_ok.mp done
  obtain ⟨choice, chosen, done⟩ := Outcome.bind_eq_ok.mp done
  obtain ⟨final, folded, done⟩ := Outcome.bind_eq_ok.mp done
  obtain rfl := Except.ok.inj done
  rw [choose_eq_ok (fun x b => accepted_of_allow) chosen] at folded
  rw [foldlM_chooseGroup_eq_ok folded, chosen_map, List.filter_filter]
  refine List.filter_congr fun x _ => ?_
  unfold accepts finds
  cases quickSearch : f.quickSearch with
  | text s =>
      obtain rfl : s = search := by simpa [searchText, quickSearch] using isText
      exact Bool.and_comm _ _
  | _ => simp [searchText, quickSearch] at isText

theorem keep_eq_ok {f : Filter} {rows result : List α}
    (done : (f.keep clock registry entryOf rows).outcome = .ok result) :
    result = rows.filter fun x => f.accepts clock registry (entryOf x) := by
  rw [(yields_keep clock registry entryOf f rows).outcome_eq] at done
  exact kept_eq_ok done

theorem accepts_of_isEmpty {f : Filter} (asksNothing : f.isEmpty = .ok true) (e : Entry) :
    f.accepts clock registry e = true := by
  unfold isEmpty at asksNothing
  split at asksNothing
  · next nothing =>
      simp only [Bool.and_eq_true, List.isEmpty_iff] at nothing
      obtain ⟨search, isText, blank⟩ := Outcome.map_eq_ok.mp asksNothing
      have quickSearch : f.quickSearch = .text search := by
        unfold searchText at isText
        split at isText
        · next s found => rw [found, Except.ok.inj isText]
        · contradiction
      simp only [accepts, finds, quickSearch, searchTerms_blank blank, nothing]
      rfl
  · simp at asksNothing

theorem exists_of_foldlM_chooseGroup {test : List Rule → α → Outcome Bool} {groups : List RuleGroup}
    {choice after : Choice α} (result : groups.foldlM (chooseGroup test) choice = .ok after) {row : α × Bool}
    (member : row ∈ choice) : ∃ row', groups.foldlM (chooseGroup test) [row] = .ok [row'] := by
  induction groups generalizing choice row with
  | nil => exact ⟨row, rfl⟩
  | cons group groups ih =>
      obtain ⟨next, first, rest⟩ := Outcome.bind_eq_ok.mp result
      obtain ⟨row', inNext, step⟩ := Outcome.exists_of_mapM first member
      obtain ⟨row'', final⟩ := ih rest inNext
      have alone : chooseGroup test [row] group = .ok [row'] := Outcome.mapM_eq_ok.mpr (.cons step .nil)
      exact ⟨row'', Outcome.bind_eq_ok.mpr ⟨_, alone, final⟩⟩

theorem foldlM_chooseGroup_nil (test : List Rule → α → Outcome Bool) (groups : List RuleGroup) :
    groups.foldlM (chooseGroup test) [] = .ok [] := by
  induction groups with
  | nil => rfl
  | cons group groups ih => exact ih

theorem exists_kept_single {f : Filter} {rows result : List α} (done : kept clock registry entryOf f rows = .ok result)
    {x : α} (member : x ∈ rows) : ∃ result, kept clock registry entryOf f [x] = .ok result := by
  obtain ⟨search, isText, done⟩ := Outcome.bind_eq_ok.mp done
  obtain ⟨choice, chosen, done⟩ := Outcome.bind_eq_ok.mp done
  obtain ⟨final, folded, -⟩ := Outcome.bind_eq_ok.mp done
  unfold kept
  rw [isText, Outcome.ok_bind]
  cases holds : (entryOf x).holdsTerms (searchTerms search) with
  | true =>
      obtain ⟨row, inChoice, told⟩ := Outcome.exists_of_mapM chosen (List.mem_filter.mpr ⟨member, holds⟩)
      obtain ⟨row', folded⟩ := exists_of_foldlM_chooseGroup folded inChoice
      have first : choose (fun x => Rule.allow clock registry f.rules (entryOf x)) [x] = .ok [row] :=
        Outcome.mapM_eq_ok.mpr (.cons told .nil)
      have candidates : ([x].filter fun x => (entryOf x).holdsTerms (searchTerms search)) = [x] := by simp [holds]
      rw [candidates]
      exact ⟨_, Outcome.bind_eq_ok.mpr ⟨_, first, Outcome.bind_eq_ok.mpr ⟨_, folded, rfl⟩⟩⟩
  | false =>
      have candidates : ([x].filter fun x => (entryOf x).holdsTerms (searchTerms search)) = [] := by simp [holds]
      rw [candidates]
      exact ⟨_, Outcome.bind_eq_ok.mpr ⟨_, rfl, Outcome.bind_eq_ok.mpr ⟨_, foldlM_chooseGroup_nil _ _, rfl⟩⟩⟩

theorem keep_single {f : Filter} {rows result : List α}
    (done : (f.keep clock registry entryOf rows).outcome = .ok result) {x : α} (member : x ∈ rows) :
    (f.keep clock registry entryOf [x]).outcome =
      .ok ([x].filter fun x => f.accepts clock registry (entryOf x)) := by
  rw [(yields_keep clock registry entryOf f _).outcome_eq] at done ⊢
  obtain ⟨result, alone⟩ := exists_kept_single done member
  rw [alone, kept_eq_ok alone]

theorem keep_of_told {f : Filter} {search : String} (isText : f.quickSearch = .text search)
    (told : ∀ r ∈ f.rules ++ f.groups.flatMap (·.rules), ∀ e, ∃ b, r.admits clock registry e = .ok b) (rows : List α) :
    (f.keep clock registry entryOf rows).outcome = .ok (rows.filter fun x => f.accepts clock registry (entryOf x)) := by
  have allowed : ∀ rules ⊆ f.rules ++ f.groups.flatMap (·.rules), ∀ e,
      Rule.allow clock registry rules e = .ok (accepted clock registry e rules) := by
    intro rules among e
    refine Rule.joined_of_ok fun r inRules => ?_
    obtain ⟨b, result⟩ := told r (among inRules) e
    rw [result]
    rfl
  have grouped : ∀ choice : Choice α, ∃ after,
      f.groups.foldlM (chooseGroup fun rules x => Rule.allow clock registry rules (entryOf x)) choice = .ok after := by
    intro choice
    refine (Outcome.exists_foldlM_iff (P := fun _ => True) (fun choice group inGroups => ?_) choice).mpr fun _ _ => trivial
    have inFilter : group.rules ⊆ f.rules ++ f.groups.flatMap (·.rules) := fun r inRules =>
      List.mem_append_right _ (List.mem_flatMap.mpr ⟨group, inGroups, inRules⟩)
    refine iff_of_true (Outcome.exists_mapM_iff.mpr ?_) trivial
    rintro ⟨x, chosen⟩ -
    simp only [allowed group.rules inFilter, Outcome.ok_bind, Outcome.pure_eq]
    split
    · exact ⟨_, rfl⟩
    · split <;> exact ⟨_, rfl⟩
  obtain ⟨after, folded⟩ := grouped ((rows.filter fun x => (entryOf x).holdsTerms (searchTerms search)).map fun x =>
    (x, accepted clock registry (entryOf x) f.rules))
  have done : kept clock registry entryOf f rows = .ok after.chosen := by
    unfold kept
    rw [searchText, isText, Outcome.ok_bind,
      choose_of_ok fun x _ => allowed f.rules (List.subset_append_left _ _) (entryOf x), Outcome.ok_bind, folded]
    rfl
  rw [(yields_keep clock registry entryOf f rows).outcome_eq, done, kept_eq_ok done]

end Filter

end LogAnalysis
