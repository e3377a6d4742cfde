import LogAnalysis.Proofs.Query.Terms

/-!
# Where patterns end

A pattern between slashes ends at the first slash that no backslash escapes. `cutPattern?` finds that slash one character
at a time and keeps both what stands before it and what comes after, so that a text can be scanned part by part
(`cutPattern?_append`).
-/

namespace LogAnalysis.Query

open Text

/-- The pattern that ends in a text, and the text after its slash. `escaped` says that the first character cannot end it. -/
def cutPattern? (escaped : Bool) : List Char → Option (List Char × List Char)
  | [] => none
  | c :: cs =>
    if !escaped && c == '/' then some ([], cs)
    else (cutPattern? (!escaped && c == '\\') cs).map fun parts => (c :: parts.1, parts.2)

def escapedAfter (escaped : Bool) (cs : List Char) : Bool := cs.foldl (fun e c => !e && c == '\\') escaped

section

variable {escaped : Bool} {cs body after : List Char}

theorem cutPattern?_cons {c : Char} (noSlash : c ≠ '/') (noBackslash : c ≠ '\\') (cs : List Char) :
    cutPattern? false (c :: cs) = (cutPattern? false cs).map fun parts => (c :: parts.1, parts.2) := by
  simp [cutPattern?, beq_eq_false_iff_ne.mpr noSlash, beq_eq_false_iff_ne.mpr noBackslash]

theorem cutPattern?_false_eq (cs : List Char) :
    cutPattern? false cs = (patternLength? cs).map fun n => (cs.take n, cs.drop (n + 1)) := by
  fun_induction patternLength? cs with
  | case1 => rfl
  | case2 rest => rfl
  | case3 => rfl
  | case4 c rest ih =>
      have twice : cutPattern? false ('\\' :: c :: rest) =
          (cutPattern? false rest).map fun parts => ('\\' :: c :: parts.1, parts.2) := by
        simp [cutPattern?, Function.comp_def]
      rw [twice, ih, Option.map_map, Option.map_map]
      rfl
  | case5 c rest noSlash noBackslash ih =>
      rw [cutPattern?_cons noSlash noBackslash, ih, Option.map_map, Option.map_map]
      rfl

theorem cutPattern?_eq_some (cut : cutPattern? escaped cs = some (body, after)) :
    cs = body ++ '/' :: after ∧ ∀ other, cutPattern? escaped (body ++ '/' :: other) = some (body, other) := by
  induction cs generalizing escaped body with
  | nil => contradiction
  | cons c cs ih =>
      rw [cutPattern?] at cut
      split at cut
      · next ends =>
          obtain ⟨rfl, rfl⟩ := Prod.mk.inj (Option.some.inj cut)
          obtain ⟨-, isSlash⟩ := Bool.and_eq_true_iff.mp ends
          obtain rfl := eq_of_beq isSlash
          exact ⟨rfl, fun other => by rw [List.nil_append, cutPattern?, if_pos ends]⟩
      · next goesOn =>
          obtain ⟨parts, inside, whole⟩ := Option.map_eq_some_iff.mp cut
          obtain ⟨rfl, rfl⟩ := Prod.mk.inj whole
          obtain ⟨rfl, others⟩ := ih inside
          exact ⟨rfl, fun other => by rw [List.cons_append, cutPattern?, if_neg goesOn, others]; rfl⟩

theorem cutPattern?_append_of_some (cut : cutPattern? escaped cs = some (body, after)) (more : List Char) :
    cutPattern? escaped (cs ++ more) = some (body, after ++ more) := by
  obtain ⟨rfl, others⟩ := cutPattern?_eq_some cut
  rw [List.append_assoc]
  exact others (after ++ more)

theorem cutPattern?_append (unended : cutPattern? escaped cs = none) (more : List Char) :
    cutPattern? escaped (cs ++ more) =
      (cutPattern? (escapedAfter escaped cs) more).map fun parts => (cs ++ parts.1, parts.2) := by
  induction cs generalizing escaped with
  | nil => simp [escapedAfter]
  | cons c cs ih =>
      rw [cutPattern?] at unended
      split at unended
      · contradiction
      · next goesOn =>
          rw [List.cons_append, cutPattern?, if_neg goesOn, ih (Option.map_eq_none_iff.mp unended), Option.map_map]
          rfl

theorem escapedAfter_concat (cs : List Char) (c : Char) :
    escapedAfter escaped (cs ++ [c]) = (!escapedAfter escaped cs && c == '\\') := by
  simp [escapedAfter]

theorem cutPattern?_escaped (plain : ∀ c ∈ cs.head?, c ≠ '/' ∧ c ≠ '\\') : cutPattern? escaped cs = cutPattern? false cs := by
  cases cs with
  | nil => rfl
  | cons c cs =>
      obtain ⟨noSlash, noBackslash⟩ := plain c rfl
      simp [cutPattern?, beq_eq_false_iff_ne.mpr noSlash, beq_eq_false_iff_ne.mpr noBackslash]

theorem readPattern_of_cut (place : Nat) (cut : cutPattern? false cs = some (body, after)) :
    readPattern place ('/' :: cs) = .ok (if endsTerm after then some (body, body.length + 2) else none) := by
  rw [cutPattern?_false_eq] at cut
  obtain ⟨n, found, parts⟩ := Option.map_eq_some_iff.mp cut
  obtain ⟨rfl, rfl⟩ := Prod.mk.inj parts
  have length_body : (cs.take n).length = n := by
    have shorter := patternLength?_lt found
    rw [List.length_take]
    omega
  unfold readPattern
  dsimp only
  rw [List.drop_succ_cons, List.drop_zero, found, length_body]
  dsimp only
  split <;> rfl

theorem exists_cut_of_readPattern {place : Nat} {result : Option (List Char × Nat)}
    (read : readPattern place ('/' :: cs) = .ok result) : ∃ body after, cutPattern? false cs = some (body, after) := by
  unfold readPattern at read
  dsimp only at read
  rw [List.drop_succ_cons, List.drop_zero] at read
  rw [cutPattern?_false_eq]
  cases found : patternLength? cs with
  | none =>
      rw [found] at read
      contradiction
  | some n => exact ⟨_, _, rfl⟩

end

end LogAnalysis.Query
