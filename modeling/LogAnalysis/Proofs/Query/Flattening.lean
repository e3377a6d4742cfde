import LogAnalysis.Proofs.Filter.Conditions
import LogAnalysis.Proofs.Query.Composition
import LogAnalysis.Proofs.Search

/-!
# Flat queries and their filters

A flat query is a chain of conditions that is grouped to the left (`Tree.chain_eq_ok`). Its filter joins the same
conditions in the same order (`truth_joinedRules`), except that the words to be found anywhere may become a quick
search, which asks for less (`holdsTerms_of_within`).

* `IsQuery.keepsRowsOf`: the filter of a flat query keeps the rows that the query accepts, as far as the conditions that
  were put for negated ones are their opposites.
* `flatten_keeps`: the same for a query without negation, about whose conditions nothing has to be known.
-/

namespace LogAnalysis.Query

open Condition (passes)

/-! ## Chains -/

def joinTruths (first : Bool) (links : List (String × Bool)) : Bool :=
  links.foldl (fun b l => if l.1 = "OR" then b || l.2 else b && l.2) first

theorem joinTruths_append (first : Bool) (links : List (String × Bool)) (word : String) (b : Bool) :
    joinTruths first (links ++ [(word, b)]) =
      if word = "OR" then joinTruths first links || b else joinTruths first links && b := by
  simp [joinTruths]

theorem joinTruths_conjunction {links : List (String × Bool)} (noAlternative : ∀ l ∈ links, l.1 ≠ "OR") (b : Bool) :
    joinTruths b links = (b && (links.map (·.2)).all id) := by
  induction links generalizing b with
  | nil => simp [joinTruths]
  | cons l links ih =>
      have rest := ih (fun l member => noAlternative l (List.mem_cons_of_mem _ member)) (b && l.2)
      simp only [joinTruths, List.foldl_cons, noAlternative l List.mem_cons_self, if_false] at rest ⊢
      rw [rest, List.map_cons, List.all_cons, id, Bool.and_assoc]

namespace Tree

def hasNegation : Tree → Bool
  | rule _ => false
  | not _ => true
  | logic _ left right => left.hasNegation || right.hasNegation

def hasAlternative : Tree → Bool
  | rule _ => false
  | not operand => operand.hasAlternative
  | logic word left right => decide (word = "OR") || left.hasAlternative || right.hasAlternative

def searchesWord : Tree → Bool
  | rule c => isWordSearch c
  | not _ => false
  | logic _ left right => left.searchesWord || right.searchesWord

def negated : Tree → List Condition
  | rule _ => []
  | not (rule c) => [c]
  | not operand => operand.negated
  | logic _ left right => left.negated ++ right.negated

def joinLeft (first : Tree) (links : List (String × Tree)) : Tree := links.foldl (fun t l => logic l.1 t l.2) first

theorem joinLeft_append (first : Tree) (links : List (String × Tree)) (word : String) (right : Tree) :
    first.joinLeft (links ++ [(word, right)]) = logic word (first.joinLeft links) right := by
  simp [joinLeft]

theorem chain_eq_ok {t first : Tree} {links : List (String × Tree)} (chained : t.chain = .ok (first, links)) :
    t = first.joinLeft links := by
  induction t generalizing links with
  | rule c | not operand =>
      obtain ⟨rfl, rfl⟩ := Prod.mk.inj (Except.ok.inj chained)
      rfl
  | logic word left right ih =>
      unfold chain at chained
      split at chained
      · simp [refuseFlat] at chained
      · obtain ⟨⟨start, before⟩, chainedLeft, chained⟩ := Outcome.bind_eq_ok.mp chained
        obtain ⟨rfl, rfl⟩ := Prod.mk.inj (Except.ok.inj chained)
        rw [joinLeft_append, ← ih chainedLeft]

theorem leaf_eq_ok {t : Tree} {c : Condition} {isNegated : Bool} (isLeaf : t.leaf = .ok (c, isNegated)) :
    (t = rule c ∧ isNegated = false) ∨
      ∃ operand, t = not (rule operand) ∧ complemented operand = .ok c ∧ isNegated = true := by
  unfold leaf at isLeaf
  split at isLeaf
  · obtain ⟨rfl, rfl⟩ := Prod.mk.inj (Except.ok.inj isLeaf)
    exact .inl ⟨rfl, rfl⟩
  · next operand =>
      obtain ⟨opposite, complement, pair⟩ := Outcome.bind_eq_ok.mp isLeaf
      obtain ⟨rfl, rfl⟩ := Prod.mk.inj (Except.ok.inj pair)
      exact .inr ⟨operand, rfl, complement, rfl⟩
  · simp [refuseFlat] at isLeaf

theorem hasAlternative_of_leaf {t : Tree} {c : Condition × Bool} (isLeaf : t.leaf = .ok c) :
    t.hasAlternative = false := by
  rcases leaf_eq_ok isLeaf with ⟨rfl, -⟩ | ⟨operand, rfl, -⟩ <;> rfl

theorem hasAlternative_joinLeft (first : Tree) (links : List (String × Tree)) :
    (first.joinLeft links).hasAlternative =
      (first.hasAlternative || links.any fun l => decide (l.1 = "OR") || l.2.hasAlternative) := by
  induction links using List.reverseRecOn with
  | nil => simp [joinLeft]
  | append_singleton links link ih =>
      rw [joinLeft_append, hasAlternative, ih, List.any_append]
      simp only [List.any_cons, List.any_nil, Bool.or_false]
      ac_rfl

theorem searchesWord_joinLeft (first : Tree) (links : List (String × Tree)) :
    (first.joinLeft links).searchesWord = (first :: links.map (·.2)).any searchesWord := by
  induction links using List.reverseRecOn with
  | nil => simp [joinLeft]
  | append_singleton links link ih =>
      rw [joinLeft_append, searchesWord, ih, List.map_append, ← List.cons_append, List.any_append]
      simp

theorem negated_joinLeft (first : Tree) (links : List (String × Tree)) :
    (first.joinLeft links).negated = (first :: links.map (·.2)).flatMap negated := by
  induction links using List.reverseRecOn with
  | nil => simp [joinLeft]
  | append_singleton links link ih =>
      rw [joinLeft_append, negated, ih, List.map_append, ← List.cons_append, List.flatMap_append]
      simp

theorem accepts_joinLeft (clock : Calendar.Clock) (registry : Option Registry) (e : Entry) (first : Tree)
    (links : List (String × Tree)) : (first.joinLeft links).accepts clock registry e =
      joinTruths (first.accepts clock registry e) (links.map fun l => (l.1, l.2.accepts clock registry e)) := by
  induction links using List.reverseRecOn with
  | nil => rfl
  | append_singleton links link ih =>
      rw [joinLeft_append, accepts, ih, List.map_append, List.map_singleton, joinTruths_append]

end Tree

def IsJoinWord (word : String) : Prop := word = "AND" ∨ word = "OR"

theorem IsQuery.joinLeft {first : Tree} {links : List (String × Tree)} (query : IsQuery (first.joinLeft links)) :
    IsQuery first ∧ ∀ link ∈ links, IsJoinWord link.1 ∧ IsQuery link.2 := by
  induction links using List.reverseRecOn with
  | nil => exact ⟨query, by simp⟩
  | append_singleton links link ih =>
      rw [Tree.joinLeft_append] at query
      have parts : IsQuery (first.joinLeft links) ∧ IsJoinWord link.1 ∧ IsQuery link.2 := by
        generalize first.joinLeft links = left at query
        obtain ⟨word, right⟩ := link
        cases query with
        | both left right => exact ⟨left, .inl rfl, right⟩
        | either left right => exact ⟨left, .inr rfl, right⟩
      obtain ⟨isFirst, isLinks⟩ := ih parts.1
      refine ⟨isFirst, fun l member => ?_⟩
      rcases List.mem_append.mp member with member | member
      · exact isLinks l member
      · obtain rfl := List.mem_singleton.mp member
        exact parts.2

/-! ## Rules of a chain -/

theorem isAlternative_joinWord {word : String} (joins : IsJoinWord word) (c : Condition) :
    Rule.isAlternative { condition := c, logic := some word } = decide (word = "OR") := by
  rcases joins with rfl | rfl <;> rfl

section Rules

variable {test : Rule → Bool} {truthOf : Condition → Bool}
  (same : ∀ c logic, test { condition := c, logic } = truthOf c)

include same

theorem truthFrom_joinedRules {cs : List Condition} {words : List String} (lengths : words.length = cs.length)
    (joins : ∀ word ∈ words, IsJoinWord word) {word : String} (joinsFirst : IsJoinWord word) (b : Bool)
    (c : Condition) : Rule.truthFrom test b (decide (word = "OR")) (joinedRules (c :: cs) words) =
      joinTruths b ((word, truthOf c) :: words.zip (cs.map truthOf)) := by
  induction cs generalizing c b word words with
  | nil =>
      obtain rfl := List.length_eq_zero_iff.mp lengths
      simp [joinedRules, Rule.truthFrom, joinTruths, same]
  | cons next cs ih =>
      -- A rule names the word that stands after it, so that what joins it is named by the rule before.
      obtain ⟨second, words, rfl⟩ := List.exists_cons_of_length_eq_add_one lengths
      have joinsSecond := joins second List.mem_cons_self
      simp only [joinedRules, Rule.truthFrom, isAlternative_joinWord joinsSecond, same]
      have joinsRest := fun w member => joins w (List.mem_cons_of_mem second member)
      have rest := ih (Nat.succ.inj lengths) joinsRest joinsSecond
        (if word = "OR" then b || truthOf c else b && truthOf c) next
      simpa [joinTruths] using rest

theorem truth_joinedRules {cs : List Condition} {words : List String} (lengths : words.length = cs.length)
    (joins : ∀ word ∈ words, IsJoinWord word) (c : Condition) :
    Rule.truth test (joinedRules (c :: cs) words) = joinTruths (truthOf c) (words.zip (cs.map truthOf)) := by
  have started := truthFrom_joinedRules same lengths joins (.inl rfl) true c
  cases cs <;> cases words <;> exact started

theorem truth_joinedRules_and (cs : List Condition) :
    Rule.truth test (joinedRules cs (List.replicate (cs.length - 1) "AND")) = cs.all truthOf := by
  cases cs with
  | nil => rfl
  | cons c cs =>
      have noAlternative : ∀ l ∈ (List.replicate cs.length "AND").zip (cs.map truthOf), l.1 ≠ "OR" := by
        intro l member
        rw [List.eq_of_mem_replicate (List.of_mem_zip member).1]
        decide
      have truths : ((List.replicate cs.length "AND").zip (cs.map truthOf)).map (·.2) = cs.map truthOf :=
        List.map_snd_zip (by simp)
      rw [List.length_cons, Nat.add_sub_cancel, truth_joinedRules same (by simp)
        (fun word member => .inl (List.eq_of_mem_replicate member)), joinTruths_conjunction noAlternative, truths,
        List.all_cons, List.all_map]
      rfl

end Rules

/-! ## Quick searches -/

theorem holdsTerms_of_within {e : Entry} (indexed : e.reindexed = e) {word : String}
    (occurs : Text.within (Text.lowered word) (Text.lowered e.raw) = true) :
    e.holdsTerms (searchTerms word) = true := by
  have index : e.searchIndex = Entry.indexText e.raw e.message e.fields :=
    congrArg Entry.searchIndex indexed.symm
  have starts : (Text.lowered e.raw).toList <+: e.searchIndex.toList := by
    rw [index]
    exact Text.lowered_prefix_joined _ _
  rw [Entry.holdsTerms, List.all_eq_true]
  intro term member
  exact Text.occursIn_iff.mpr
    (((Text.infix_of_mem_words member).trans (Text.within_iff.mp occurs)).trans starts.isInfix)

theorem searchTerms_joined (parts : List String) :
    searchTerms (Text.joined " " parts) = parts.flatMap searchTerms := by
  rw [searchTerms, Text.words_lowered_joined]
  simp only [← Text.toList_lowered]
  rfl

def isSearch (leaf : Condition × Bool) : Bool := !leaf.2 && isWordSearch leaf.1

def leafAccepts (clock : Calendar.Clock) (registry : Option Registry) (e : Entry) (leaf : Condition × Bool) : Bool :=
  if isSearch leaf then e.holdsTerms (searchTerms leaf.1.value.display) else passes (leaf.1.holds clock registry e)

variable (clock : Calendar.Clock) (registry : Option Registry) (e : Entry)

theorem accepted_joinedRules_and (cs : List Condition) :
    Filter.accepted clock registry e (joinedRules cs (List.replicate (cs.length - 1) "AND")) =
      cs.all fun c => passes (c.holds clock registry e) :=
  truth_joinedRules_and (fun _ _ => rfl) cs

theorem accepts_conjunctionFilter (leaves : List (Condition × Bool)) :
    (conjunctionFilter leaves).accepts clock registry e = leaves.all (leafAccepts clock registry e) := by
  have searches : (conjunctionFilter leaves).finds e =
      (leaves.filter isSearch).all fun leaf => e.holdsTerms (searchTerms leaf.1.value.display) := by
    simp only [conjunctionFilter, Filter.finds, List.partition_eq_filter_filter, searchTerms_joined]
    simp only [Entry.holdsTerms, List.all_flatMap, List.all_map]
    rfl
  have others : Filter.accepted clock registry e (conjunctionFilter leaves).rules =
      (leaves.filter fun leaf => !isSearch leaf).all fun leaf => passes (leaf.1.holds clock registry e) := by
    simp only [conjunctionFilter, List.partition_eq_filter_filter]
    have rules := accepted_joinedRules_and clock registry e
      ((leaves.filter fun leaf => !isSearch leaf).map (·.1))
    rw [List.length_map, List.all_map] at rules
    exact rules
  rw [Filter.accepts, searches, others, List.all_filter]
  show (List.all leaves _ && List.all _ _) = _
  rw [List.all_filter, Bool.eq_iff_iff]
  simp only [Bool.and_eq_true, List.all_eq_true]
  rw [← forall₂_and]
  refine forall₂_congr fun leaf _ => ?_
  unfold leafAccepts
  cases isSearch leaf <;> simp

/-! ## Leaves -/

def Opposed (c : Condition) : Prop :=
  ∀ opposite, complemented c = .ok opposite →
    passes (opposite.holds clock registry e) = !passes (c.holds clock registry e)

variable {clock registry e}

theorem passes_leaf {t : Tree} {leaf : Condition × Bool} (isLeaf : t.leaf = .ok leaf)
    (opposed : ∀ c ∈ t.negated, Opposed clock registry e c) :
    passes (leaf.1.holds clock registry e) = t.accepts clock registry e := by
  obtain ⟨c, isNegated⟩ := leaf
  rcases Tree.leaf_eq_ok isLeaf with ⟨rfl, -⟩ | ⟨operand, rfl, complement, -⟩
  · rfl
  · exact opposed operand (by simp [Tree.negated]) c complement

theorem map_passes_leaves {ts : List Tree} {leaves : List (Condition × Bool)}
    (areLeaves : ts.mapM Tree.leaf = .ok leaves) (opposed : ∀ c ∈ ts.flatMap Tree.negated, Opposed clock registry e c) :
    leaves.map (fun leaf => passes (leaf.1.holds clock registry e)) = ts.map (·.accepts clock registry e) := by
  induction Outcome.mapM_eq_ok.mp areLeaves with
  | nil => rfl
  | cons isLeaf rest ih =>
      simp only [List.flatMap_cons, List.mem_append] at opposed
      rw [List.map_cons, List.map_cons, passes_leaf isLeaf fun c member => opposed c (.inl member),
        ih (Outcome.mapM_eq_ok.mpr rest) fun c member => opposed c (.inr member)]

theorem leafAccepts_of_passes {t : Tree} {leaf : Condition × Bool} (query : IsQuery t) (isLeaf : t.leaf = .ok leaf)
    (indexed : e.reindexed = e) (holds : passes (leaf.1.holds clock registry e) = true) :
    leafAccepts clock registry e leaf = true := by
  unfold leafAccepts
  split
  · next search =>
      obtain ⟨c, isNegated⟩ := leaf
      simp only [isSearch, Bool.and_eq_true, Bool.not_eq_true'] at search
      obtain ⟨rfl, search⟩ := search
      obtain ⟨rfl, -⟩ : t = .rule c ∧ _ := (Tree.leaf_eq_ok isLeaf).resolve_right (by simp)
      obtain ⟨term⟩ := query
      obtain ⟨word, rfl⟩ := term.wordSearch search
      exact holdsTerms_of_within indexed (Condition.within_of_contains holds)
  · exact holds

theorem isSearch_leaf {t : Tree} {leaf : Condition × Bool} (isLeaf : t.leaf = .ok leaf)
    (noSearch : t.searchesWord = false) : isSearch leaf = false := by
  obtain ⟨c, isNegated⟩ := leaf
  rcases Tree.leaf_eq_ok isLeaf with ⟨rfl, rfl⟩ | ⟨operand, rfl, -, rfl⟩
  · exact noSearch
  · rfl

theorem IsQuery.leaf_holds {t : Tree} {leaf : Condition × Bool} (query : IsQuery t) (isLeaf : t.leaf = .ok leaf) :
    ∃ b, leaf.1.holds clock registry e = .ok b := by
  have named : ∀ {c : Condition} {name : String}, c.field = .text name → ∃ b, c.holds clock registry e = .ok b :=
    fun field => ⟨_, by rw [Condition.holds, field]⟩
  obtain ⟨c, isNegated⟩ := leaf
  rcases Tree.leaf_eq_ok isLeaf with ⟨rfl, -⟩ | ⟨operand, rfl, complement, -⟩
  · obtain ⟨term⟩ := query
    obtain ⟨name, operator, field, -⟩ := term.names
    exact named field
  · cases query with
    | not query =>
        obtain ⟨term⟩ := query
        obtain ⟨name, operator, field, isText⟩ := term.names
        simp only [complemented, isText] at complement
        split at complement
        · obtain rfl := Except.ok.inj complement
          exact named field
        · simp [refuseFlat] at complement

/-! ## Flat queries -/

theorem flatten_eq_ok {t : Tree} {f : Filter} (flat : flatten (some t) = .ok f) :
    ∃ first links leaves, t = Tree.joinLeft first links ∧ (first :: links.map (·.2)).mapM Tree.leaf = .ok leaves ∧
      f = if (links.map (·.1)).all (· = "AND") then conjunctionFilter leaves
        else { rules := joinedRules (leaves.map (·.1)) (links.map (·.1)) } := by
  obtain ⟨⟨first, links⟩, chained, flat⟩ := Outcome.bind_eq_ok.mp flat
  obtain ⟨leaves, areLeaves, flat⟩ := Outcome.bind_eq_ok.mp flat
  refine ⟨first, links, leaves, Tree.chain_eq_ok chained, areLeaves, ?_⟩
  dsimp only at flat
  split at flat
  · next all => rw [if_pos all, ← Except.ok.inj flat]
  · next notAll => rw [if_neg notAll, ← Except.ok.inj flat]

section Accepts

variable {first : Tree} {links : List (String × Tree)} {leaves : List (Condition × Bool)}
  (query : IsQuery (first.joinLeft links)) (areLeaves : (first :: links.map (·.2)).mapM Tree.leaf = .ok leaves)
  (opposed : ∀ c ∈ (first.joinLeft links).negated, Opposed clock registry e c)

include query areLeaves

theorem exists_link_of_leaf {leaf : Condition × Bool} (member : leaf ∈ leaves) :
    ∃ link ∈ first :: links.map (·.2), IsQuery link ∧ link.leaf = .ok leaf := by
  obtain ⟨isFirst, isLinks⟩ := query.joinLeft
  obtain ⟨link, isLink, isLeaf⟩ := Outcome.exists_of_mem_mapM areLeaves member
  refine ⟨link, isLink, ?_, isLeaf⟩
  rcases List.mem_cons.mp isLink with rfl | inRest
  · exact isFirst
  · obtain ⟨l, inLinks, rfl⟩ := List.mem_map.mp inRest
    exact (isLinks l inLinks).2

omit query in
theorem hasAlternative_conjunction (noAlternative : ∀ link ∈ links, link.1 ≠ "OR") :
    (first.joinLeft links).hasAlternative = false := by
  have isLeaf : ∀ link ∈ first :: links.map (·.2), link.hasAlternative = false := by
    intro link isLink
    obtain ⟨leaf, -, isLeaf⟩ := Outcome.exists_of_mapM areLeaves isLink
    exact Tree.hasAlternative_of_leaf isLeaf
  rw [Tree.hasAlternative_joinLeft, isLeaf first List.mem_cons_self, Bool.false_or, List.any_eq_false]
  intro link inLinks
  simp [noAlternative link inLinks, isLeaf link.2 (List.mem_cons_of_mem _ (List.mem_map_of_mem inLinks))]

include opposed

omit query in
theorem accepts_leaves : leaves.map (fun leaf => passes (leaf.1.holds clock registry e)) =
    first.accepts clock registry e :: links.map fun l => l.2.accepts clock registry e := by
  rw [map_passes_leaves areLeaves fun c member => opposed c (by rwa [Tree.negated_joinLeft]), List.map_cons,
    List.map_map]
  rfl

omit query in
theorem accepts_conjunction (noAlternative : ∀ link ∈ links, link.1 ≠ "OR") :
    (first.joinLeft links).accepts clock registry e =
      leaves.all fun leaf => passes (leaf.1.holds clock registry e) := by
  have truths := congrArg (List.all · id) (accepts_leaves areLeaves opposed)
  rw [List.all_map, List.all_cons] at truths
  rw [Tree.accepts_joinLeft, joinTruths_conjunction, List.map_map]
  · exact truths.symm
  · intro l member
    obtain ⟨link, inLinks, rfl⟩ := List.mem_map.mp member
    exact noAlternative link inLinks

theorem accepted_joinedRules :
    Filter.accepted clock registry e (joinedRules (leaves.map (·.1)) (links.map (·.1))) =
      (first.joinLeft links).accepts clock registry e := by
  have truths := accepts_leaves areLeaves opposed
  have joins : ∀ word ∈ links.map (·.1), IsJoinWord word := by
    intro word member
    obtain ⟨l, inLinks, rfl⟩ := List.mem_map.mp member
    exact (query.joinLeft.2 l inLinks).1
  cases leaves with
  | nil => simp at truths
  | cons leaf leaves =>
      obtain ⟨head, tail⟩ := List.cons.inj truths
      have lengths : (links.map (·.1)).length = (leaves.map (·.1)).length := by
        simpa using (congrArg List.length tail).symm
      rw [Tree.accepts_joinLeft, List.map_cons, ← head]
      have same : ∀ c logic, passes (Rule.admits clock registry e { condition := c, logic }) =
          passes (c.holds clock registry e) := fun _ _ => rfl
      refine (truth_joinedRules same lengths joins leaf.1).trans ?_
      rw [List.map_map]
      show joinTruths _ ((links.map _).zip (leaves.map fun leaf => passes (leaf.1.holds clock registry e))) = _
      rw [tail, List.zip_map']

end Accepts

/-- The filter of a flat query accepts an entry that the query accepts; it accepts no other one, unless it searches for
words. -/
theorem IsQuery.flatten_accepts {t : Tree} {f : Filter} (query : IsQuery t) (flat : flatten (some t) = .ok f)
    (indexed : e.reindexed = e) (opposed : ∀ c ∈ t.negated, Opposed clock registry e c) :
    (t.accepts clock registry e = true → f.accepts clock registry e = true) ∧
      (t.hasAlternative = true ∨ t.searchesWord = false →
        f.accepts clock registry e = t.accepts clock registry e) := by
  obtain ⟨first, links, leaves, rfl, areLeaves, rfl⟩ := flatten_eq_ok flat
  split
  · next conjunction =>
      have noAlternative : ∀ link ∈ links, link.1 ≠ "OR" := by
        intro link inLinks
        rw [of_decide_eq_true (List.all_eq_true.mp conjunction _ (List.mem_map_of_mem inLinks))]
        decide
      rw [accepts_conjunction areLeaves opposed noAlternative, accepts_conjunctionFilter]
      simp only [List.all_eq_true]
      constructor
      -- A leaf that is searched for may be found elsewhere in the search index, so that only one direction is left.
      · intro holds leaf member
        obtain ⟨link, -, linkQuery, isLeaf⟩ := exists_link_of_leaf query areLeaves member
        exact leafAccepts_of_passes linkQuery isLeaf indexed (holds leaf member)
      · rintro (alternative | noSearch)
        · rw [hasAlternative_conjunction areLeaves noAlternative] at alternative
          contradiction
        · rw [Tree.searchesWord_joinLeft, List.any_eq_false] at noSearch
          rw [Bool.eq_iff_iff, List.all_eq_true, List.all_eq_true]
          refine forall₂_congr fun leaf member => ?_
          obtain ⟨link, isLink, -, isLeaf⟩ := exists_link_of_leaf query areLeaves member
          rw [leafAccepts, isSearch_leaf isLeaf (by simpa using noSearch link isLink)]
          rfl
  · have accepts : Filter.accepts clock registry { rules := joinedRules (leaves.map (·.1)) (links.map (·.1)) } e =
        (first.joinLeft links).accepts clock registry e :=
      accepted_joinedRules query areLeaves opposed
    exact ⟨fun holds => accepts.trans holds, fun _ => accepts⟩

theorem mem_joinedRules {cs : List Condition} {words : List String} {r : Rule} (member : r ∈ joinedRules cs words) :
    ∃ c ∈ cs, ∃ logic, r = { condition := c, logic } := by
  induction cs generalizing words with
  | nil => simp [joinedRules] at member
  | cons c cs ih =>
      cases words with
      | nil | cons word words =>
          rcases List.mem_cons.mp member with rfl | member
          · exact ⟨c, List.mem_cons_self, _, rfl⟩
          · obtain ⟨c', inRest, logic, rfl⟩ := ih member
            exact ⟨c', List.mem_cons_of_mem c inRest, logic, rfl⟩

theorem IsQuery.flatten_rules {t : Tree} {f : Filter} (query : IsQuery t) (flat : flatten (some t) = .ok f) :
    (∃ search, f.quickSearch = .text search) ∧ f.groups = [] ∧
      ∀ r ∈ f.rules, ∀ clock registry e, ∃ b, r.admits clock registry e = .ok b := by
  obtain ⟨first, links, leaves, rfl, areLeaves, rfl⟩ := flatten_eq_ok flat
  have told : ∀ {chosen : List (Condition × Bool)} {words : List String}, chosen ⊆ leaves →
      ∀ r ∈ joinedRules (chosen.map (·.1)) words, ∀ clock registry e, ∃ b, r.admits clock registry e = .ok b := by
    intro chosen words subset r member clock registry e
    obtain ⟨c, inLeaves, logic, rfl⟩ := mem_joinedRules member
    obtain ⟨leaf, inChosen, rfl⟩ := List.mem_map.mp inLeaves
    obtain ⟨link, -, linkQuery, isLeaf⟩ := exists_link_of_leaf query areLeaves (subset inChosen)
    exact linkQuery.leaf_holds isLeaf
  split
  · refine ⟨⟨_, rfl⟩, rfl, ?_⟩
    rw [conjunctionFilter, List.partition_eq_filter_filter]
    exact told (List.filter_subset_self leaves)
  · exact ⟨⟨_, rfl⟩, rfl, told (List.Subset.refl leaves)⟩

/-- A filter keeps, in their order, the rows of the entries that it accepts. Those are the ones that a tree accepts, and
more only where the filter of a conjunction searches for words. -/
structure KeepsRowsOf (clock : Calendar.Clock) (registry : Option Registry) {α : Type} (entryOf : α → Entry)
    (rows : List α) (t : Tree) (f : Filter) : Prop where
  kept : (f.keep clock registry entryOf rows).outcome =
    .ok (rows.filter fun x => f.accepts clock registry (entryOf x))
  accepted : ∀ x ∈ rows, t.holds clock registry (entryOf x) = .ok true → f.accepts clock registry (entryOf x) = true
  same : t.hasAlternative = true ∨ t.searchesWord = false →
    ∀ x ∈ rows, t.holds clock registry (entryOf x) = .ok (f.accepts clock registry (entryOf x))

variable {α : Type} {entryOf : α → Entry} {rows : List α}

theorem IsQuery.keepsRowsOf {t : Tree} {f : Filter} (query : IsQuery t) (flat : flatten (some t) = .ok f)
    (indexed : ∀ x ∈ rows, (entryOf x).reindexed = entryOf x)
    (opposed : ∀ x ∈ rows, ∀ c ∈ t.negated, Opposed clock registry (entryOf x) c) :
    KeepsRowsOf clock registry entryOf rows t f where
  kept := by
    obtain ⟨⟨search, isText⟩, noGroups, told⟩ := query.flatten_rules flat
    refine Filter.keep_of_told isText (fun r member e => told r ?_ clock registry e) rows
    simpa [noGroups] using member
  accepted x member holds :=
    (query.flatten_accepts flat (indexed x member) (opposed x member)).1 (Tree.holds_eq_ok holds)
  same exactly x member := by
    rw [(query.flatten_accepts flat (indexed x member) (opposed x member)).2 exactly]
    exact query.holds

theorem Tree.negated_of_plain {t : Tree} (plain : t.hasNegation = false) : t.negated = [] := by
  induction t with
  | rule c => rfl
  | not operand => simp [hasNegation] at plain
  | logic word left right ihLeft ihRight =>
      simp only [hasNegation, Bool.or_eq_false_iff] at plain
      rw [negated, ihLeft plain.1, ihRight plain.2]
      rfl

/-- The filter of a flat query without negation keeps the rows that the query accepts. -/
theorem flatten_keeps (clock : Calendar.Clock) (registry : Option Registry) {q : String} {t : Tree} {f : Filter}
    (parsed : parse q = .ok (some t)) (plain : t.hasNegation = false) (flat : flatten (some t) = .ok f)
    (indexed : ∀ x ∈ rows, (entryOf x).reindexed = entryOf x) : KeepsRowsOf clock registry entryOf rows t f :=
  (parse_isQuery parsed).keepsRowsOf flat indexed fun x _ c member => by
    simp [Tree.negated_of_plain plain] at member

def diskEntry : Entry := .make 1 "" "ERROR" "disk full" "disk full" []

def diskTree : Tree := .both (.rule (compare "level".toList .contains "error".toList)) (.rule (holding "disk".toList))

theorem flatten_keeps_disk :
    ∃ f, parse "level:error disk" = .ok (some diskTree) ∧ diskTree.hasNegation = false ∧
      flatten (some diskTree) = .ok f ∧ (∀ e ∈ [diskEntry], e.reindexed = e) ∧
      KeepsRowsOf (.ofSeconds 0 0) none id [diskEntry] diskTree f := by
  have read : tokens "level:error disk" = .ok [
      ⟨.term (compare "level".toList .contains "error".toList), "level:error", 0⟩,
      ⟨.term (holding "disk".toList), "disk", 12⟩] := by with_unfolding_all rfl
  have first := Derives.operand (.primary (.term (compare "level".toList .contains "error".toList)))
  have parsed : parse "level:error disk" = .ok (some diskTree) :=
    (parse_of_scans (.of_tokens read)).mpr (.conjunction (.adjacent first (.primary (.term (holding "disk".toList)))))
  have flat : flatten (some diskTree) = .ok (conjunctionFilter [
      (compare "level".toList .contains "error".toList, false), (holding "disk".toList, false)]) := rfl
  have indexed : ∀ e ∈ [diskEntry], e.reindexed = e := fun e member => by
    obtain rfl := List.mem_singleton.mp member
    rfl
  exact ⟨_, parsed, rfl, flat, indexed, flatten_keeps _ none parsed rfl flat indexed⟩

end LogAnalysis.Query
