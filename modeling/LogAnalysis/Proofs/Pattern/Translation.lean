import LogAnalysis.Pattern.Basic

/-!
# Translating patterns

Both translations keep a character unless one of their own beginnings stands there (`translateGroups_cons`,
`translateReferences_cons`), and a reference by name gets its longer form (`translateReferences_reference`).
-/

namespace LogAnalysis.Pattern

open Text

variable {c : Char} {cs name : List Char}

theorem isWord_greater : isWord '>' = false := by decide

theorem isWord_backslash : isWord '\\' = false := by decide

theorem startsName_iff : startsName cs = true ↔
    ∃ name after, cs = name ++ '>' :: after ∧ name ≠ [] ∧ ∀ c ∈ name, isWord c = true := by
  constructor
  · intro starts
    simp only [startsName, Bool.and_eq_true, Bool.not_eq_true', List.isEmpty_eq_false_iff, beq_iff_eq] at starts
    obtain ⟨nonempty, closing⟩ := starts
    obtain ⟨after, rest⟩ := List.head?_eq_some_iff.mp closing
    refine ⟨cs.takeWhile isWord, after, ?_, nonempty, List.all_eq_true.mp List.all_takeWhile⟩
    rw [← rest, List.takeWhile_append_dropWhile]
  · rintro ⟨name, after, rfl, nonempty, word⟩
    rw [startsName, List.takeWhile_append_of_pos word, List.dropWhile_append_of_pos word]
    simp [isWord_greater, nonempty]

theorem translateGroups_cons {behind : Bool} (other : ∀ rest, c :: cs ≠ '(' :: '?' :: '<' :: rest) :
    translateGroups behind (c :: cs) = c :: translateGroups (c == '\\') cs := by
  rw [translateGroups.eq_def]
  split
  · contradiction
  · next rest same => exact absurd same (other rest)
  · next same =>
      obtain ⟨rfl, rfl⟩ := List.cons.inj same
      rfl

theorem translateReferences_cons (other : ∀ rest, c :: cs = '\\' :: 'k' :: '<' :: rest → startsName rest = false) :
    translateReferences false (c :: cs) = c :: translateReferences false cs := by
  rw [translateReferences.eq_def]
  split
  · contradiction
  · next rest same =>
      obtain ⟨rfl, rfl⟩ := List.cons.inj same
      rw [other rest rfl]
      simp [translateReferences]
  · next same =>
      obtain ⟨rfl, rfl⟩ := List.cons.inj same
      rfl

theorem translateReferences_name (word : ∀ c ∈ name, isWord c = true) (after : List Char) :
    translateReferences true (name ++ '>' :: after) = name ++ ')' :: translateReferences false after := by
  induction name with
  | nil => simp [translateReferences]
  | cons c name ih =>
      have isWord_c := word c List.mem_cons_self
      have noEscape : c ≠ '\\' := by
        rintro rfl
        simp [isWord_backslash] at isWord_c
      have noEnd : c ≠ '>' := by
        rintro rfl
        simp [isWord_greater] at isWord_c
      rw [List.cons_append, translateReferences.eq_def]
      split
      · contradiction
      · next same => exact absurd (List.cons.inj same).1 noEscape
      · next same =>
          obtain ⟨rfl, rfl⟩ := List.cons.inj same
          simp [noEnd, ih fun d member => word d (List.mem_cons_of_mem _ member)]

theorem translateReferences_reference (nonempty : name ≠ []) (word : ∀ c ∈ name, isWord c = true)
    (after : List Char) :
    translateReferences false ('\\' :: 'k' :: '<' :: (name ++ '>' :: after)) =
      '(' :: '?' :: 'P' :: '=' :: (name ++ ')' :: translateReferences false after) := by
  have starts : startsName (name ++ '>' :: after) = true := startsName_iff.mpr ⟨name, after, rfl, nonempty, word⟩
  rw [translateReferences, if_pos starts, translateReferences_name word]

end LogAnalysis.Pattern
