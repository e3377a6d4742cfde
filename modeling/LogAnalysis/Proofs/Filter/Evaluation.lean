import LogAnalysis.Proofs.Filter.Acceptance
import LogAnalysis.Proofs.Filter.Conditions

/-!
# Filters ask each entry by itself

Rules that are told in turn are not all told: the rest is passed over once it cannot matter. And a filter goes through
whole lists of candidates, from which groups take and to which they add. Neither shows in the result.

* `Rule.allow_eq_joinedEach`: the rules of a list come to what they come to when each of them is told and joined to those
  before it.
* `Filter.keep_each`: a filter keeps the entries for which its own value ends up true, whatever the other entries are.
-/

namespace LogAnalysis

open Condition (passes)

/-! ## Lists of rules -/

namespace Rule

def joinNext (test : Rule → Outcome Bool) (result : Bool) (next : Rule × Rule) : Outcome Bool := do
  let outcome ← test next.2
  return if next.1.isAlternative then result || outcome else result && outcome

/-- The rules joined from left to right, of which each is told. Every rule but the first comes with the one before it,
whose word joins the two. -/
def joinedEach (test : Rule → Outcome Bool) : List Rule → Outcome Bool
  | [] => .ok true
  | first :: rest => do ((first :: rest).zip rest).foldlM (joinNext test) (← test first)

variable {test : Rule → Outcome Bool} {truthOf : Rule → Bool} {rules : List Rule}

theorem foldlM_joinNext_of_ok {rest : List Rule} (told : ∀ r ∈ rest, test r = .ok (truthOf r)) (before : Rule)
    (result : Bool) : ((before :: rest).zip rest).foldlM (joinNext test) result =
      .ok (truthFrom truthOf result before.isAlternative rest) := by
  -- The rule that comes before moves along with the list.
  induction rest generalizing before result with
  | nil => rfl
  | cons r rest ih =>
      obtain ⟨here, later⟩ := List.forall_mem_cons.mp told
      rw [List.zip_cons_cons, List.foldlM_cons, joinNext, here, Outcome.ok_bind, Outcome.pure_eq, Outcome.ok_bind,
        ih later, truthFrom]

theorem joinedEach_of_ok (told : ∀ r ∈ rules, test r = .ok (truthOf r)) :
    joinedEach test rules = .ok (truth truthOf rules) := by
  cases rules with
  | nil => rfl
  | cons first rest =>
      obtain ⟨here, later⟩ := List.forall_mem_cons.mp told
      rw [joinedEach, here, Outcome.ok_bind, foldlM_joinNext_of_ok later, truth]

theorem told_of_joinedEach {b : Bool} (result : joinedEach test rules = .ok b) : ∀ r ∈ rules, ∃ b, test r = .ok b := by
  cases rules with
  | nil => exact fun _ member => nomatch member
  | cons first rest =>
      obtain ⟨start, here, folded⟩ := Outcome.bind_eq_ok.mp result
      have steps : ∀ result, ∀ next ∈ (first :: rest).zip rest,
          (∃ after, joinNext test result next = .ok after) ↔ ∃ b, test next.2 = .ok b := by
        intro result next _
        unfold joinNext
        cases test next.2 <;> simp
      have later := (Outcome.exists_foldlM_iff steps start).mp ⟨b, folded⟩
      refine List.forall_mem_cons.mpr ⟨⟨start, here⟩, fun r member => ?_⟩
      have paired : ((first :: rest).zip rest).map Prod.snd = rest := List.map_snd_zip (Nat.le_succ _)
      rw [← paired] at member
      obtain ⟨next, inPairs, rfl⟩ := List.mem_map.mp member
      exact later next inPairs

theorem joined_of_joinedEach {b : Bool} (result : joinedEach test rules = .ok b) : joined test rules = .ok b := by
  have told : ∀ r ∈ rules, test r = .ok (passes (test r)) := by
    intro r member
    obtain ⟨outcome, isTold⟩ := told_of_joinedEach result r member
    rw [isTold]
    rfl
  rw [joinedEach_of_ok told] at result
  rw [joined_of_ok told, result]

variable (clock : Calendar.Clock) (registry : Option Registry)

theorem exists_admits {r : Rule} (named : r.enabled = true → ∃ name, r.condition.field = .text name) (e : Entry) :
    ∃ b, r.admits clock registry e = .ok b := by
  unfold admits
  split
  · next enabled =>
      obtain ⟨name, field⟩ := named enabled
      exact ⟨_, Condition.holds_of_text field e⟩
  · exact ⟨true, rfl⟩

theorem allow_told (rules : List Rule) (e : Entry)
    (named : ∀ r ∈ rules, r.enabled = true → ∃ name, r.condition.field = .text name) :
    ∃ b, joinedEach (admits clock registry e) rules = .ok b ∧ allow clock registry rules e = .ok b := by
  have told : ∀ r ∈ rules, r.admits clock registry e = .ok (passes (r.admits clock registry e)) := by
    intro r member
    obtain ⟨outcome, isTold⟩ := exists_admits clock registry (named r member) e
    rw [isTold]
    rfl
  exact ⟨_, joinedEach_of_ok told, joined_of_ok told⟩

/-- The rules that are passed over never matter: where all rules can be told, joining them in turn gives what comes of
telling each of them, and they can be told where their fields have names. -/
theorem allow_eq_joinedEach (rules : List Rule) (e : Entry) :
    (∀ b, joinedEach (admits clock registry e) rules = .ok b → allow clock registry rules e = .ok b) ∧
      ((∀ r ∈ rules, r.enabled = true → ∃ name, r.condition.field = .text name) →
        ∃ b, joinedEach (admits clock registry e) rules = .ok b ∧ allow clock registry rules e = .ok b) :=
  ⟨fun _ result => joined_of_joinedEach result, allow_told clock registry rules e⟩

end Rule

/-! ## Filters -/

namespace Rule

/-- The rules of a list admit an entry, with a fault counted as refusal. -/
def allows (clock : Calendar.Clock) (registry : Option Registry) (rules : List Rule) (e : Entry) : Bool :=
  passes (allow clock registry rules e)

end Rule

namespace Filter

def isCandidate (search : String) (e : Entry) : Bool := Text.isBlankString search || e.holdsTerms (searchTerms search)

/-- A value after one more group. A group with the word `OR` makes a candidate good that it allows, and any other one has
to allow what was good so far. -/
def afterGroup (candidate : Bool) (allows : List Rule → Bool) (value : Bool) (group : RuleGroup) : Bool :=
  if group.logic = "OR" then value || candidate && allows group.rules else value && allows group.rules

/-- The value of an entry: the rules have to allow a candidate, and then each group in turn has its say. -/
def value (search : String) (allows : List Rule → Bool) (f : Filter) (e : Entry) : Bool :=
  f.groups.foldl (afterGroup (isCandidate search e) allows) (isCandidate search e && allows f.rules)

variable {clock : Calendar.Clock} {registry : Option Registry} {f : Filter}

theorem isCandidate_eq (search : String) (e : Entry) : isCandidate search e = e.holdsTerms (searchTerms search) := by
  unfold isCandidate
  cases blank : Text.isBlankString search with
  | false => rfl
  | true => rw [searchTerms_blank blank]; rfl

theorem foldl_afterGroup (allows : List Rule → Bool) (candidate value : Bool) (groups : List RuleGroup) :
    groups.foldl (afterGroup candidate allows) (candidate && value) = (candidate && groups.foldl (fun value group =>
      if group.logic = "OR" then allows group.rules || value else value && allows group.rules) value) := by
  induction groups generalizing value with
  | nil => rfl
  | cons group groups ih =>
      rw [List.foldl_cons, List.foldl_cons, ← ih, afterGroup]
      congr 1
      split
      · rw [← Bool.and_or_distrib_left, Bool.or_comm]
      · rw [Bool.and_assoc]

theorem value_eq_accepts {search : String} (isText : f.quickSearch = .text search)
    (allowed : ∀ rules ∈ f.rules :: f.groups.map (·.rules), ∀ e, ∃ b, Rule.allow clock registry rules e = .ok b)
    (e : Entry) : value search (Rule.allows clock registry · e) f e = f.accepts clock registry e := by
  have same : ∀ rules ∈ f.rules :: f.groups.map (·.rules),
      Rule.allows clock registry rules e = accepted clock registry e rules := by
    intro rules member
    obtain ⟨b, result⟩ := allowed rules member e
    rw [Rule.allows, result, accepted_of_allow result]
    rfl
  rw [value, foldl_afterGroup, isCandidate_eq, accepts, finds, isText, same f.rules List.mem_cons_self]
  refine congrArg _ (List.foldl_ext _ _ _ fun chosen group inGroups => ?_)
  rw [groupAccepts, same group.rules (List.mem_cons_of_mem _ (List.mem_map_of_mem inGroups))]

/-- A filter is a test of each entry by itself. It has a result, which has the entries of which its value is true, in
their order and as often as they come. No fault of a rule gets out, whatever its operator and its value are. -/
theorem keep_each (clock : Calendar.Clock) (registry : Option Registry) {f : Filter} {search : String}
    (isText : f.quickSearch = .text search)
    (named : ∀ r ∈ f.rules ++ f.groups.flatMap (·.rules), r.enabled = true → ∃ name, r.condition.field = .text name) :
    (∀ rules ∈ f.rules :: f.groups.map (·.rules), ∀ e,
        Rule.allow clock registry rules e = .ok (Rule.allows clock registry rules e)) ∧
      ∀ {α : Type} (entryOf : α → Entry) (rows : List α), (f.keep clock registry entryOf rows).outcome =
        .ok (rows.filter fun x => f.value search (Rule.allows clock registry · (entryOf x)) (entryOf x)) := by
  have among : ∀ rules ∈ f.rules :: f.groups.map (·.rules), rules ⊆ f.rules ++ f.groups.flatMap (·.rules) := by
    intro rules member
    rcases List.mem_cons.mp member with rfl | member
    · exact List.subset_append_left _ _
    · obtain ⟨group, inGroups, rfl⟩ := List.mem_map.mp member
      exact fun r inRules => List.mem_append_right _ (List.mem_flatMap.mpr ⟨group, inGroups, inRules⟩)
  have allowed : ∀ rules ∈ f.rules :: f.groups.map (·.rules), ∀ e, ∃ b, Rule.allow clock registry rules e = .ok b := by
    intro rules member e
    obtain ⟨b, -, result⟩ := Rule.allow_told clock registry rules e fun r inRules => named r (among rules member inRules)
    exact ⟨b, result⟩
  refine ⟨fun rules member e => ?_, fun entryOf rows => ?_⟩
  · obtain ⟨b, result⟩ := allowed rules member e
    rw [Rule.allows, result]
    rfl
  · rw [keep_of_told isText (fun r member e => Rule.exists_admits clock registry (named r member) e) rows]
    refine congrArg _ (List.filter_congr fun x _ => ?_)
    exact (value_eq_accepts isText allowed (entryOf x)).symm

/-- Entries about a disk, of which the errors are kept and those that say that it is full. -/
def diskFilter : Filter where
  quickSearch := .text "disk"
  rules := [{ condition := ⟨.text "level", .text "equals", .text "error"⟩ }]
  groups := [{ logic := "OR", rules := [{ condition := ⟨.text "message", .text "contains", .text "full"⟩ }] },
    { rules := [{ condition := ⟨.text "message", .text "notEmpty", .null⟩ }] }]

theorem keep_each_disk : diskFilter.quickSearch = .text "disk" ∧
    (∀ r ∈ diskFilter.rules ++ diskFilter.groups.flatMap (·.rules),
      r.enabled = true → ∃ name, r.condition.field = .text name) ∧
    let failed := Entry.make 1 "" "ERROR" "disk gone" "disk gone" []
    let full := Entry.make 2 "" "INFO" "disk full" "disk full" []
    let quiet := Entry.make 3 "" "INFO" "disk found" "disk found" []
    let other := Entry.make 4 "" "ERROR" "queue full" "queue full" []
    (diskFilter.keep (.ofSeconds 0 0) none id [full, other, failed, quiet, full]).outcome =
      .ok [full, failed, full] := by
  have named : ∀ r ∈ diskFilter.rules ++ diskFilter.groups.flatMap (·.rules),
      r.enabled = true → ∃ name, r.condition.field = .text name := by
    simp [diskFilter]
  refine ⟨rfl, named, ?_⟩
  obtain ⟨-, each⟩ := keep_each (.ofSeconds 0 0) none (f := diskFilter) rfl named
  intro failed full quiet other
  have isFull : diskFilter.value "disk" (Rule.allows (.ofSeconds 0 0) none · full) full = true := by decide +kernel
  have isFailed : diskFilter.value "disk" (Rule.allows (.ofSeconds 0 0) none · failed) failed = true := by decide +kernel
  have isQuiet : diskFilter.value "disk" (Rule.allows (.ofSeconds 0 0) none · quiet) quiet = false := by decide +kernel
  have isOther : diskFilter.value "disk" (Rule.allows (.ofSeconds 0 0) none · other) other = false := by decide +kernel
  rw [each id]
  simp only [id, List.filter_cons, List.filter_nil, isFull, isFailed, isQuiet, isOther, if_true, Bool.false_eq_true,
    if_false]

end Filter

end LogAnalysis
