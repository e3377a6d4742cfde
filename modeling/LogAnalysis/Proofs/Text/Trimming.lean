import LogAnalysis.Text.Basic
import Mathlib.Data.List.DropRight

/-!
# Trimming

A text is left alone by trimming if there is no white space at its ends, and trimming any text leads to such a one
(`Text.IsTrimmed.trim_eq`). White space that is added at the end makes no difference (`Text.trim_append_blank`).
-/

namespace LogAnalysis.Text

theorem trimRight_eq_rdropWhile (cs : List Char) : trimRight cs = cs.rdropWhile isBlank := by
  induction cs with
  | nil => rfl
  | cons c cs ih =>
      have whole : trimRight (c :: cs) = if (trimRight cs).isEmpty && isBlank c then [] else c :: trimRight cs := rfl
      rw [whole, ih, List.rdropWhile, List.rdropWhile, List.reverse_cons, List.dropWhile_append, List.isEmpty_reverse]
      cases cs.reverse.dropWhile isBlank with
      | nil => cases blank : isBlank c <;> simp [blank]
      | cons d ds => simp

structure IsTrimmed (cs : List Char) : Prop where
  first : ∀ c ∈ cs.head?, isBlank c = false
  last : ∀ c ∈ cs.getLast?, isBlank c = false

theorem isTrimmed_trim (cs : List Char) : IsTrimmed (trim cs) where
  first := fun c isFirst => by
    rw [trim, trimRight_eq_rdropWhile] at isFirst
    have start : (cs.dropWhile isBlank).head? = some c := by
      obtain ⟨rest, whole⟩ := List.rdropWhile_prefix isBlank (l := cs.dropWhile isBlank)
      rw [← whole, List.head?_append, isFirst, Option.some_or]
    have stops := List.head?_dropWhile_not isBlank cs
    rwa [start] at stops
  last := fun c isLast => by
    rw [trim, trimRight_eq_rdropWhile] at isLast
    obtain ⟨nonempty, rfl⟩ := List.mem_getLast?_eq_getLast isLast
    exact Bool.eq_false_iff.mpr (List.rdropWhile_last_not isBlank _ nonempty)

theorem IsTrimmed.trim_eq {cs : List Char} (trimmed : IsTrimmed cs) : trim cs = cs := by
  have start : cs.dropWhile isBlank = cs := by
    cases cs with
    | nil => rfl
    | cons c cs => exact List.dropWhile_cons_of_neg (by rw [trimmed.first c rfl]; exact nofun)
  rw [trim, start, trimRight_eq_rdropWhile, List.rdropWhile_eq_self_iff]
  exact fun nonempty => Bool.eq_false_iff.mp (trimmed.last _ (List.getLast?_eq_getLast_of_ne_nil nonempty))

theorem trim_trim (cs : List Char) : trim (trim cs) = trim cs := (isTrimmed_trim cs).trim_eq

theorem trim_append_blank (cs : List Char) {ds : List Char} (allBlank : ∀ d ∈ ds, isBlank d = true) :
    trim (cs ++ ds) = trim cs := by
  have ends : ∀ xs : List Char, trimRight (xs ++ ds) = trimRight xs := fun xs => by
    have reversed : ∀ d ∈ ds.reverse, isBlank d = true := fun d member => allBlank d (List.mem_reverse.mp member)
    rw [trimRight_eq_rdropWhile, trimRight_eq_rdropWhile, List.rdropWhile, List.rdropWhile, List.reverse_append,
      List.dropWhile_append_of_pos reversed]
  rw [trim, trim, List.dropWhile_append]
  split
  · next none =>
      rw [List.isEmpty_iff.mp none, List.dropWhile_eq_nil_iff.mpr allBlank]
  · exact ends _

end LogAnalysis.Text
