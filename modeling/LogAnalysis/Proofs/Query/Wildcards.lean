import LogAnalysis.Proofs.Filter.Conditions
import LogAnalysis.Proofs.Pattern.Matching
import LogAnalysis.Proofs.Query.Spelling
import Mathlib.Data.List.Forall2

/-!
# Wildcard values

A value with stars holds of a text that is made of its pieces in their order, each but for case, with any text between each
two of them (`Globs`), as long as what the stars stand for has no line breaks; one line break may follow at the end
(`matchTest_wildcardPattern`). So a value does not hold of a text where its pieces lie on different lines, and a value in
which a reference by name is written holds of nothing (`holds_wildcard`).
-/

namespace LogAnalysis.Query

open Pattern Text

/-! ## Globbing -/

def SameText (a b : List Char) : Prop := List.Forall₂ (fun c d => sameCaseless c d = true) a b

/-- The text is made of the pieces, each but for case, with a gap of a certain kind between each two of them. -/
inductive Globs (gap : List Char → Prop) : List (List Char) → List Char → Prop
  | last {piece text} : SameText piece text → Globs gap [piece] text
  | next {piece text between pieces rest} : SameText piece text → gap between → Globs gap pieces rest →
      Globs gap (piece :: pieces) (text ++ between ++ rest)

section

variable {gap : List Char → Prop} {v cs : List Char}

theorem globs_nil : Globs gap (splitOn '*' []) cs ↔ cs = [] := by
  constructor
  · intro globs
    cases globs with
    | last same => exact List.forall₂_nil_left_iff.mp same
    | next same between rest => cases rest
  · rintro rfl
    exact .last .nil

theorem globs_star : Globs gap (splitOn '*' ('*' :: v)) cs ↔
    ∃ between rest, cs = between ++ rest ∧ gap between ∧ Globs gap (splitOn '*' v) rest := by
  rw [splitOn, if_pos rfl]
  constructor
  · intro globs
    -- The star leaves an empty piece in front, which is not the last one.
    generalize pieces : splitOn '*' v = pieces at globs
    cases globs with
    | last => exact absurd pieces (splitOn_ne_nil '*' v)
    | next same between others =>
        obtain rfl := List.forall₂_nil_left_iff.mp same
        exact ⟨_, _, rfl, between, others⟩
  · rintro ⟨between, rest, rfl, isGap, others⟩
    exact .next .nil isGap others

theorem globs_char {c : Char} (noStar : c ≠ '*') : Globs gap (splitOn '*' (c :: v)) cs ↔
    ∃ d rest, cs = d :: rest ∧ sameCaseless c d = true ∧ Globs gap (splitOn '*' v) rest := by
  obtain ⟨piece, pieces, split⟩ := List.exists_cons_of_ne_nil (splitOn_ne_nil '*' v)
  rw [splitOn, if_neg noStar, split]
  dsimp only
  constructor
  · intro globs
    cases globs with
    | last same =>
        obtain ⟨d, rest, first, others, rfl⟩ := List.forall₂_cons_left_iff.mp same
        exact ⟨d, rest, rfl, first, .last others⟩
    | next same between more =>
        obtain ⟨d, rest, first, others, rfl⟩ := List.forall₂_cons_left_iff.mp same
        exact ⟨d, _, rfl, first, .next others between more⟩
  · rintro ⟨d, rest, rfl, first, globs⟩
    cases globs with
    | last others => exact .last (.cons first others)
    | next others between more => exact .next (.cons first others) between more

theorem globs_of_line {pieces : List (List Char)} (oneLine : '\n' ∉ cs) :
    Globs (fun _ => True) pieces cs ↔ Globs (fun between => '\n' ∉ between) pieces cs := by
  constructor
  · intro globs
    induction globs with
    | last same => exact .last same
    | next same between others ih =>
        simp only [List.mem_append, not_or] at oneLine
        exact .next same oneLine.1.2 (ih oneLine.2)
  · intro globs
    induction globs with
    | last same => exact .last same
    | next same between others ih =>
        simp only [List.mem_append, not_or] at oneLine
        exact .next same trivial (ih oneLine.2)

end

def UpToBreak (body text : List Char) : Prop := text = body ∨ text = body ++ ['\n']

theorem upToBreak_nil {text : List Char} : UpToBreak [] text ↔ text = [] ∨ text = ['\n'] := Iff.rfl

theorem upToBreak_append {start body text : List Char} :
    UpToBreak (start ++ body) text ↔ ∃ rest, text = start ++ rest ∧ UpToBreak body rest := by
  constructor
  · rintro (rfl | rfl)
    · exact ⟨body, rfl, .inl rfl⟩
    · exact ⟨body ++ ['\n'], List.append_assoc .., .inr rfl⟩
  · rintro ⟨rest, rfl, rfl | rfl⟩
    · exact .inl rfl
    · exact .inr (List.append_assoc ..).symm

theorem upToBreak_cons {c : Char} {body text : List Char} :
    UpToBreak (c :: body) text ↔ ∃ rest, text = c :: rest ∧ UpToBreak body rest :=
  @upToBreak_append [c] body text

/-- The value globs the text up to a line break at its end, and no gap holds a line break. -/
def GlobsLine (v text : List Char) : Prop :=
  ∃ body, UpToBreak body text ∧ Globs (fun between => '\n' ∉ between) (splitOn '*' v) body

theorem globsLine_of_line {v text : List Char} (oneLine : '\n' ∉ text) :
    GlobsLine v text ↔ Globs (fun _ => True) (splitOn '*' v) text := by
  rw [globs_of_line oneLine]
  constructor
  · rintro ⟨body, rfl | rfl, globs⟩
    · exact globs
    · simp at oneLine
  · intro globs
    exact ⟨text, .inl rfl, globs⟩

/-! ## Matching -/

section

variable {before cs : List Char}

theorem isSome_follow_charNodes (v : List Char) {s : State} (here : s.position = before.length) :
    (follow (before ++ cs).toArray (v.map charNode ++ [.anchor .lastLineEnd]) some s).isSome ↔ GlobsLine v cs := by
  -- What has been matched joins the part in front, so the induction is over the value for all such parts.
  unfold GlobsLine
  induction v generalizing before cs s with
  | nil =>
      rw [List.map_nil, List.nil_append, follow_cons, isSome_run_anchor, here, holds_lastLineEnd]
      simp only [globs_nil, exists_eq_right, upToBreak_nil]
      simp [follow]
  | cons c v ih =>
      rw [List.map_cons, List.cons_append, follow_cons]
      by_cases star : c = '*'
      · subst star
        rw [charNode, if_pos rfl, isSome_run_loop, here]
        simp only [globs_star, accepted_run]
        constructor
        · rintro ⟨_, ⟨between, rest, rfl, rfl, oneLine⟩, more⟩
          rw [← List.append_assoc, ih (by simp)] at more
          obtain ⟨body, ending, globs⟩ := more
          exact ⟨between ++ body, upToBreak_append.mpr ⟨rest, rfl, ending⟩, between, body, rfl, oneLine, globs⟩
        · rintro ⟨_, ending, between, body, rfl, oneLine, globs⟩
          obtain ⟨rest, rfl, last⟩ := upToBreak_append.mp ending
          refine ⟨between.length, ⟨between, rest, rfl, rfl, oneLine⟩, ?_⟩
          rw [← List.append_assoc, ih (by simp)]
          exact ⟨body, last, globs⟩
      · rw [charNode, if_neg star]
        show ((Node.single ⟨.code c.toNat, .unicode⟩).run _ _ _).isSome ↔ _
        rw [isSome_run_single, here, accepted_start]
        simp only [globs_char star, accepts_code]
        constructor
        · rintro ⟨⟨d, rest, rfl, same⟩, more⟩
          rw [← List.singleton_append, ← List.append_assoc, ih (by simp)] at more
          obtain ⟨body, ending, globs⟩ := more
          exact ⟨d :: body, upToBreak_cons.mpr ⟨rest, rfl, ending⟩, d, body, rfl, same, globs⟩
        · rintro ⟨_, ending, d, body, rfl, same, globs⟩
          obtain ⟨rest, rfl, last⟩ := upToBreak_cons.mp ending
          refine ⟨⟨d, rest, rfl, same⟩, ?_⟩
          rw [← List.singleton_append, ← List.append_assoc, ih (by simp)]
          exact ⟨body, last, globs⟩

theorem search_wildcardNode (v : List Char) (s : String) :
    search ⟨wildcardNode v, 0, []⟩ s = true ↔ GlobsLine v s.toList := by
  rw [search, wildcardNode, isSome_searchFrom?_tied]
  exact @isSome_follow_charNodes [] _ v _ rfl

end

/-! ## Conditions -/

theorem matchTest_of_compile {pattern : String} {p : Parsed} (compiled : compile pattern anyCase = .ok p)
    (found : Value) : Operator.matchTest found (.text pattern) = .ok (search p found.plain) := by
  have given : (Value.text pattern).plain = pattern := by rw [Value.plain]
  unfold Operator.matchTest
  rw [given, show ({ caseless := true } : Flags) = anyCase from rfl, compiled]

theorem matchTest_of_malformed {pattern : String} {fault : Pattern.Fault}
    (refused : compile pattern anyCase = .error (.malformed fault)) (found : Value) :
    Operator.matchTest found (.text pattern) = .ok false := by
  have given : (Value.text pattern).plain = pattern := by rw [Value.plain]
  unfold Operator.matchTest
  rw [given, show ({ caseless := true } : Flags) = anyCase from rfl, refused]

/-- The pattern of a value, asked of a field: nothing is an error, and the answer is that of globbing on one line. -/
theorem matchTest_wildcardPattern (v : List Char) (found : Value) :
    ∃ answer, Operator.matchTest found (.text (String.ofList (wildcardPattern v))) = .ok answer ∧
      (answer = true ↔ ¬ Refers v ∧ GlobsLine v found.plain.toList) := by
  by_cases refers : Refers v
  · obtain ⟨fault, refused⟩ := compile_of_refers refers
    exact ⟨false, matchTest_of_malformed refused found, by simp [refers]⟩
  · exact ⟨_, matchTest_of_compile (compile_wildcardPattern refers) found, by simp [refers, search_wildcardNode]⟩

/-- A value with stars that has none of the shapes that come before. -/
structure IsWildcard (v : List Char) : Prop where
  star : '*' ∈ v
  slashes : isBetween '/' '/' v = false
  caret : v.head? ≠ some '^'
  dollar : v.getLast? ≠ some '$'

theorem IsWildcard.shapeCondition_eq {v : List Char} (wild : IsWildcard v) (field : List Char) :
    shapeCondition field ⟨v, false, false⟩ = compare field .matchesPattern (wildcardPattern v) := by
  have noTies : isBetween '^' '$' v = false := by simp [isBetween, wild.caret]
  simp [shapeCondition, wild.slashes, noTies, wild.caret, wild.dollar, wild.star]

theorem isBlankString_wildcardPattern (v : List Char) : isBlankString (String.ofList (wildcardPattern v)) = false := by
  rw [isBlankString, String.toList_ofList, wildcardPattern, blank, List.all_cons]
  rfl

theorem test_wildcardPattern (v : List Char) (clock : Calendar.Clock) (registry : Option Registry) (name : String)
    (found : Value) :
    Condition.test clock registry name found Operator.matchesPattern.name
        (.text (String.ofList (wildcardPattern v))) = true ↔
      found.isEmpty = false ∧ ¬ Refers v ∧ GlobsLine v found.plain.toList := by
  cases present : found.isEmpty with
  | true =>
      rw [Condition.test_of_missing present]
      simp [Operator.name]
  | false =>
      have given : isBlankString (Value.text (String.ofList (wildcardPattern v))).plain = false := by
        rw [Value.plain]
        exact isBlankString_wildcardPattern v
      have asked := Operator.resolve?_matchesPattern clock (.of registry name found)
      have same : Condition.compared name .matchesPattern (.text (String.ofList (wildcardPattern v))) =
          .text (String.ofList (wildcardPattern v)) := by
        simp [Condition.compared, Condition.comparesLevels, Operator.name]
      obtain ⟨answer, tested, meaning⟩ := matchTest_wildcardPattern v found
      rw [Condition.test_of_present present given name asked, same, tested]
      simpa [Condition.passes] using meaning

/-- A value with stars holds of an entry if its field has a text that the value globs, without line breaks in the gaps and
but for one line break at the end. So on one line it is globbing, if no reference by name is written in the value. -/
theorem holds_wildcard {v : List Char} (wild : IsWildcard v) (clock : Calendar.Clock) (registry : Option Registry)
    (e : Entry) (field : List Char) :
    let found := e.get (Entry.resolveName (String.ofList field))
    ∃ answer, (shapeCondition field ⟨v, false, false⟩).holds clock registry e = .ok answer ∧
      (answer = true ↔ found.isEmpty = false ∧ ¬ Refers v ∧ GlobsLine v found.plain.toList) ∧
      (found.isEmpty = false → ¬ Refers v → '\n' ∉ found.plain.toList →
        (answer = true ↔ Globs (fun _ => True) (splitOn '*' v) found.plain.toList)) := by
  intro found
  rw [wild.shapeCondition_eq]
  have meaning := test_wildcardPattern v clock registry (Entry.resolveName (String.ofList field)) found
  refine ⟨_, rfl, meaning, ?_⟩
  intro present free oneLine
  refine meaning.trans ?_
  rw [globsLine_of_line oneLine]
  simp [present, free]

theorem holds_wildcard_asterisk :
    IsWildcard "a*b".toList ∧
      ∃ answer, (shapeCondition "message".toList ⟨"a*b".toList, false, false⟩).holds default none
        { (default : Entry) with message := "Axb" } = .ok answer ∧ answer = true := by
  have wild : IsWildcard "a*b".toList := ⟨by decide, by decide, by decide, by decide⟩
  obtain ⟨answer, holds, -, onLine⟩ :=
    holds_wildcard wild default none { (default : Entry) with message := "Axb" } "message".toList
  refine ⟨wild, answer, holds, (onLine rfl ?_ (by decide)).mpr ?_⟩
  · exact not_refers_of_notMem (by decide)
  · exact @Globs.next _ ['a'] ['A'] ['x'] [['b']] ['b'] (.cons rfl .nil) trivial (.last (.cons rfl .nil))

theorem not_holds_wildcard_lines :
    ¬ ∀ (v : List Char) (clock : Calendar.Clock) (registry : Option Registry) (e : Entry) (field : List Char),
      IsWildcard v → (e.get (Entry.resolveName (String.ofList field))).isEmpty = false →
        ((shapeCondition field ⟨v, false, false⟩).holds clock registry e = .ok true ↔
          Globs (fun _ => True) (splitOn '*' v) (e.get (Entry.resolveName (String.ofList field))).plain.toList) := by
  intro claim
  have wild : IsWildcard "a*b".toList := ⟨by decide, by decide, by decide, by decide⟩
  have globs : Globs (fun _ => True) (splitOn '*' "a*b".toList) "a\nb".toList :=
    @Globs.next _ ['a'] ['a'] ['\n'] [['b']] ['b'] (.cons rfl .nil) trivial (.last (.cons rfl .nil))
  have holds := (claim _ default none { (default : Entry) with message := "a\nb" } "message".toList wild rfl).mpr globs
  have fails : (shapeCondition "message".toList ⟨"a*b".toList, false, false⟩).holds default none
      { (default : Entry) with message := "a\nb" } = .ok false := by rfl
  rw [fails] at holds
  simp at holds

end LogAnalysis.Query
