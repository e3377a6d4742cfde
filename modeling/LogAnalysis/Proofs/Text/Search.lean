import LogAnalysis.Text.Basic
import LogAnalysis.Text.Case
import Mathlib.Data.List.Infix

/-!
# Searching a text for the words of another one

A text that occurs in another one brings its words with it (`infix_of_mem_words`), and neither lower case nor the
words of a text reach over a blank (`lower_append_break`, `words_append_blank`). So the words of several texts with
blanks between them are the words of each (`words_lowered_joined`). A text without a separator is one piece, and each piece
ends at the first separator (`splitOn_append`).
-/

namespace LogAnalysis.Text

/-! ## Occurrences -/

theorem occursIn_iff {needle cs : List Char} : occursIn needle cs = true ↔ needle <:+: cs := by
  induction cs with
  | nil => simp [occursIn]
  | cons c cs ih => simp only [occursIn, Bool.or_eq_true, List.isPrefixOf_iff_prefix, ih, List.infix_cons_iff]

theorem within_iff {needle s : String} : within needle s = true ↔ needle.toList <:+: s.toList := occursIn_iff

/-! ## Pieces -/

theorem splitOn_of_notMem {separator : Char} {cs : List Char} (none : separator ∉ cs) : splitOn separator cs = [cs] := by
  induction cs with
  | nil => rfl
  | cons c cs ih =>
      have other : c ≠ separator := fun same => none (same ▸ List.mem_cons_self)
      rw [splitOn, if_neg other, ih fun member => none (List.mem_cons_of_mem c member)]

theorem splitOn_append {separator : Char} {cs : List Char} (none : separator ∉ cs) (rest : List Char) :
    splitOn separator (cs ++ separator :: rest) = cs :: splitOn separator rest := by
  induction cs with
  | nil => rw [List.nil_append, splitOn, if_pos rfl]
  | cons c cs ih =>
      have other : c ≠ separator := fun same => none (same ▸ List.mem_cons_self)
      rw [List.cons_append, splitOn, if_neg other, ih fun member => none (List.mem_cons_of_mem c member)]

/-! ## Words -/

theorem words_cons_blank {c : Char} (blank : isBlank c = true) (cs : List Char) : words (c :: cs) = words cs := if_pos blank

theorem words_singleton {c : Char} (noBlank : isBlank c = false) : words [c] = [[c]] := if_neg (Bool.eq_false_iff.mp noBlank)

theorem words_cons_before_blank {c d : Char} (noBlank : isBlank c = false) (blankNext : isBlank d = true)
    (cs : List Char) : words (c :: d :: cs) = [c] :: words cs := by
  have first : words (c :: d :: cs) = [c] :: words (d :: cs) := (if_neg (Bool.eq_false_iff.mp noBlank)).trans (if_pos blankNext)
  rw [first, words_cons_blank blankNext]

theorem words_cons_of_next {c d : Char} (noBlank : isBlank c = false) (noBlankNext : isBlank d = false) {cs word : List Char}
    {others : List (List Char)} (next : words (d :: cs) = word :: others) : words (c :: d :: cs) = (c :: word) :: others := by
  refine (if_neg (Bool.eq_false_iff.mp noBlank)).trans ((if_neg (Bool.eq_false_iff.mp noBlankNext)).trans ?_)
  rw [next]

theorem words_ne_nil {c : Char} (noBlank : isBlank c = false) (cs : List Char) : words (c :: cs) ≠ [] := by
  induction cs generalizing c with
  | nil =>
      rw [words_singleton noBlank]
      exact List.cons_ne_nil _ _
  | cons d cs ih =>
      cases next : isBlank d with
      | true =>
          rw [words_cons_before_blank noBlank next]
          exact List.cons_ne_nil _ _
      | false =>
          obtain ⟨word, others, split⟩ := List.exists_cons_of_ne_nil (ih next)
          rw [words_cons_of_next noBlank next split]
          exact List.cons_ne_nil _ _

theorem words_cons {c d : Char} (noBlank : isBlank c = false) (noBlankNext : isBlank d = false) (cs : List Char) :
    ∃ word others, words (d :: cs) = word :: others ∧ words (c :: d :: cs) = (c :: word) :: others := by
  obtain ⟨word, others, next⟩ := List.exists_cons_of_ne_nil (words_ne_nil noBlankNext cs)
  exact ⟨word, others, next, words_cons_of_next noBlank noBlankNext next⟩

theorem words_append_blank {c : Char} (blank : isBlank c = true) (cs ds : List Char) :
    words (cs ++ c :: ds) = words cs ++ words ds := by
  induction cs with
  | nil => exact words_cons_blank blank ds
  | cons x cs ih =>
      cases isBlank_x : isBlank x with
      | true => rw [List.cons_append, words_cons_blank isBlank_x, words_cons_blank isBlank_x, ih]
      | false =>
          cases cs with
          | nil =>
              rw [words_singleton isBlank_x]
              exact words_cons_before_blank isBlank_x blank ds
          | cons y cs =>
              cases isBlank_y : isBlank y with
              | true =>
                  rw [List.cons_append, words_cons_blank isBlank_y, words_cons_blank isBlank_y] at ih
                  rw [List.cons_append, List.cons_append, words_cons_before_blank isBlank_x isBlank_y,
                    words_cons_before_blank isBlank_x isBlank_y, ih, List.cons_append]
              | false =>
                  obtain ⟨word, others, next, whole⟩ := words_cons isBlank_x isBlank_y cs
                  obtain ⟨word', others', next', whole'⟩ := words_cons isBlank_x isBlank_y (cs ++ c :: ds)
                  rw [List.cons_append, next', next, List.cons_append] at ih
                  obtain ⟨rfl, rfl⟩ := List.cons.inj ih
                  rw [List.cons_append, List.cons_append, whole', whole, List.cons_append]

theorem words_eq_cons {c : Char} (noBlank : isBlank c = false) {cs word : List Char} {others : List (List Char)}
    (split : words (c :: cs) = word :: others) : word <+: c :: cs ∧ others ⊆ words cs := by
  induction cs generalizing c word others with
  | nil =>
      rw [words_singleton noBlank] at split
      obtain ⟨rfl, rfl⟩ := List.cons.inj split
      exact ⟨List.prefix_rfl, List.nil_subset _⟩
  | cons d cs ih =>
      cases isBlank_d : isBlank d with
      | true =>
          rw [words_cons_before_blank noBlank isBlank_d] at split
          obtain ⟨rfl, rfl⟩ := List.cons.inj split
          rw [words_cons_blank isBlank_d]
          exact ⟨List.prefix_append [c] (d :: cs), List.Subset.refl _⟩
      | false =>
          obtain ⟨word', others', next, whole⟩ := words_cons noBlank isBlank_d cs
          rw [whole] at split
          obtain ⟨rfl, rfl⟩ := List.cons.inj split
          rw [next]
          exact ⟨(List.prefix_cons_inj c).mpr (ih isBlank_d next).1, List.subset_cons_self _ _⟩

theorem infix_of_mem_words {word cs : List Char} (member : word ∈ words cs) : word <:+: cs := by
  induction cs with
  | nil => exact absurd member List.not_mem_nil
  | cons c cs ih =>
      cases isBlank_c : isBlank c with
      | true =>
          rw [words_cons_blank isBlank_c] at member
          exact List.infix_cons (ih member)
      | false =>
          obtain ⟨first, others, split⟩ := List.exists_cons_of_ne_nil (words_ne_nil isBlank_c cs)
          obtain ⟨isPrefix, rest⟩ := words_eq_cons isBlank_c split
          rw [split] at member
          rcases List.mem_cons.mp member with rfl | member
          · exact isPrefix.isInfix
          · exact List.infix_cons (ih (rest member))

theorem words_blank {cs : List Char} (allBlank : blank cs = true) : words cs = [] := by
  induction cs with
  | nil => rfl
  | cons c cs ih =>
      simp only [blank, List.all_cons, Bool.and_eq_true] at allBlank
      rw [words_cons_blank allBlank.1, ih allBlank.2]

/-! ## Lower case -/

theorem lowerChar_of_isBlank {c : Char} (blank : isBlank c = true) : lowerChar c = [c] ∧ c ≠ 'Σ' := by
  have codes : ∀ r ∈ blankRanges, ∀ n ∈ List.range' r.1 (r.2 + 1 - r.1),
      lowerChar (Char.ofNat n) = [Char.ofNat n] ∧ Char.ofNat n ≠ 'Σ' := by
    decide +kernel
  obtain ⟨r, member, low, high⟩ := (inRanges_iff _ _).mp blank
  have same := codes r member c.toNat (List.mem_range'_1.mpr ⟨low, by omega⟩)
  rwa [Char.ofNat_toNat] at same

theorem lowerAfter_eq_self {cs : List Char} (same : ∀ c ∈ cs, lowerChar c = [c] ∧ c ≠ 'Σ') (afterCased : Bool) :
    lowerAfter afterCased cs = cs := by
  induction cs generalizing afterCased with
  | nil => rfl
  | cons c cs ih =>
      obtain ⟨⟨lower, noSigma⟩, others⟩ := List.forall_mem_cons.mp same
      simp only [lowerAfter, noSigma, if_false, lower, List.singleton_append]
      rw [ih others]

theorem lowerAfter_blank {cs : List Char} (allBlank : blank cs = true) (afterCased : Bool) :
    lowerAfter afterCased cs = cs :=
  lowerAfter_eq_self (fun c member => lowerChar_of_isBlank (List.all_eq_true.mp allBlank c member)) afterCased

/-- Lower case does not look past the character: it has no case, is not passed over, and is its own lower case. -/
structure IsBreak (c : Char) : Prop where
  lower : lowerChar c = [c]
  noCase : isCased c = false
  seen : isCaseIgnorable c = false
  noSigma : c ≠ 'Σ'

theorem isBreak_space : IsBreak ' ' := ⟨rfl, rfl, by decide +kernel, by decide⟩

variable {c : Char} (isBreak : IsBreak c)

include isBreak

theorem leadsToCased_append_break (cs ds : List Char) : leadsToCased (cs ++ c :: ds) = leadsToCased cs := by
  induction cs with
  | nil => simp [leadsToCased, isBreak.seen, isBreak.noCase]
  | cons x cs ih => simp only [List.cons_append, leadsToCased, ih]

theorem lowerAfter_append_break (afterCased : Bool) (cs ds : List Char) :
    lowerAfter afterCased (cs ++ c :: ds) = lowerAfter afterCased cs ++ c :: lower ds := by
  induction cs generalizing afterCased with
  | nil => simp [lowerAfter, lower, isBreak.noSigma, isBreak.lower, isBreak.seen, isBreak.noCase]
  | cons x cs ih =>
      simp only [List.cons_append, lowerAfter, ih, leadsToCased_append_break isBreak, List.append_assoc]

theorem lower_append_break (cs ds : List Char) : lower (cs ++ c :: ds) = lower cs ++ c :: lower ds :=
  lowerAfter_append_break isBreak false cs ds

theorem lower_joinWith (parts : List (List Char)) :
    lower (joinWith [c] parts) = joinWith [c] (parts.map lower) := by
  induction parts with
  | nil => rfl
  | cons part parts ih =>
      cases parts with
      | nil => rfl
      | cons next parts =>
          simp only [joinWith, List.map_cons, List.append_assoc, List.singleton_append] at ih ⊢
          rw [lower_append_break isBreak, ih]

omit isBreak

/-! ## Strings -/

theorem joinWith_eq_intercalate (separator : List Char) (parts : List (List Char)) :
    joinWith separator parts = separator.intercalate parts := by
  induction parts with
  | nil => rfl
  | cons part parts ih =>
      cases parts with
      | nil => simp [joinWith]
      | cons next parts => simp [joinWith, ih]

theorem toList_joined (separator : String) (parts : List String) :
    (joined separator parts).toList = joinWith separator.toList (parts.map String.toList) := by
  rw [joined, String.toList_intercalate, joinWith_eq_intercalate]

theorem toList_lowered (s : String) : (lowered s).toList = lower s.toList := String.toList_ofList

theorem lowered_prefix_joined (part : String) (parts : List String) :
    (lowered part).toList <+: (lowered (joined " " (part :: parts))).toList := by
  rw [toList_lowered, toList_lowered, toList_joined]
  show _ <+: lower (joinWith [' '] _)
  rw [lower_joinWith isBreak_space]
  cases parts with
  | nil => exact List.prefix_rfl
  | cons next parts =>
      simp only [List.map_cons, joinWith, List.append_assoc]
      exact List.prefix_append _ _

theorem words_lowered_joined (parts : List String) :
    words (lowered (joined " " parts)).toList = parts.flatMap fun part => words (lower part.toList) := by
  rw [toList_lowered, toList_joined]
  show words (lower (joinWith [' '] _)) = _
  rw [lower_joinWith isBreak_space]
  induction parts with
  | nil => rfl
  | cons part parts ih =>
      cases parts with
      | nil => simp [joinWith]
      | cons next parts =>
          simp only [joinWith, List.map_cons, List.append_assoc, List.singleton_append, List.flatMap_cons] at ih ⊢
          rw [words_append_blank (by decide), ih]

end LogAnalysis.Text
