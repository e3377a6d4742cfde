import LogAnalysis.Proofs.Json.Values

/-!
# Values that are written but not read

A whole number with too many digits is written as any other and refused where it is read, and so is every list and every
object that begins with it.
-/

namespace LogAnalysis.Json

variable {layout : Layout}

structure IsRefused (layout : Layout) (v : Value) : Prop where
  starts : ∀ level, ∃ c cs, characters layout level v = c :: cs ∧ isStart c = true
  refused : ∀ level fuel rest, Ends rest →
    ∃ failure, readValue fuel (characters layout level v ++ rest) = .error failure

theorem isRefused_int {n : Int} (long : Numeral.maxDigits < (Nat.toDigits 10 n.natAbs).length) :
    IsRefused layout (.int n) where
  starts _ := int_start n
  refused level fuel rest ends := by
    cases fuel with
    | zero => exact ⟨_, readValue.eq_1 _⟩
    | succ fuel => exact ⟨_, by rw [readValue_int, readNumber_written n ends, if_pos long]⟩

theorem exists_ends {comma : Char} (separates : isEnd comma = true) (separator piece : List Char) {gap : List Char}
    (pieces : List (List Char)) (ends : Ends gap) :
    ∃ tail, Text.joinWith (comma :: separator) (piece :: pieces) ++ gap = piece ++ tail ∧ Ends tail := by
  cases pieces with
  | nil => exact ⟨gap, rfl, ends⟩
  | cons other pieces =>
      refine ⟨comma :: (separator ++ (Text.joinWith (comma :: separator) (other :: pieces) ++ gap)), ?_,
        ends_cons separates _⟩
      rw [joinWith_cons_cons]
      simp only [List.append_assoc, List.cons_append]

theorem isRefused_list (separates : layout.Separates) {v : Value} (first : IsRefused layout v) (items : List Value) :
    IsRefused layout (.list (v :: items)) where
  starts level := by
    obtain ⟨cs, whole⟩ := list_start layout level (v :: items)
    exact ⟨'[', cs, whole, rfl⟩
  refused level fuel rest _ := by
    obtain ⟨blanks, between, -⟩ := separates.between (level + 1)
    obtain ⟨c, cs, starts, isStart⟩ := first.starts (level + 1)
    obtain ⟨visible, notClosed, -, -⟩ := visible_of_isStart isStart
    have closing : Ends ((layout.lineBreak level).toList ++ ']' :: rest) :=
      ends_append (isSpace_lineBreak layout level) (ends_cons rfl rest)
    obtain ⟨tail, joined, ends⟩ := exists_ends (rfl : isEnd ',' = true) blanks (characters layout (level + 1) v)
      (items.map (characters layout (level + 1))) closing
    have whole : characters layout level (.list (v :: items)) ++ rest =
        '[' :: ((layout.lineBreak (level + 1)).toList ++ (characters layout (level + 1) v ++ tail)) := by
      rw [characters_list layout level (List.cons_ne_nil v items), between, ← joined]
      simp only [List.map_cons, List.cons_append, List.append_assoc, List.nil_append]
    -- The fault of the first item ends the list, whatever the other items are.
    have unread (fuel : Nat) : ∃ failure, readItems fuel (characters layout (level + 1) v ++ tail) = .error failure := by
      cases fuel with
      | zero => exact ⟨_, readItems.eq_1 _⟩
      | succ fuel =>
          obtain ⟨failure, isRefused⟩ := first.refused (level + 1) fuel tail ends
          exact ⟨failure, by rw [readItems, isRefused]; rfl⟩
    cases fuel with
    | zero => exact ⟨_, readValue.eq_1 _⟩
    | succ fuel =>
        obtain ⟨failure, isRefused⟩ := unread fuel
        rw [starts, List.cons_append] at whole isRefused
        refine ⟨failure, ?_⟩
        rw [whole, readValue_list (isSpace_lineBreak layout (level + 1)) _ visible notClosed, isRefused]
        rfl

theorem isRefused_object (separates : layout.Separates) {m : String × Value} (first : IsRefused layout m.2)
    (members : List (String × Value)) : IsRefused layout (.object (m :: members)) where
  starts level := by
    obtain ⟨cs, whole⟩ := object_start layout level (m :: members)
    exact ⟨'\x7b', cs, whole, rfl⟩
  refused level fuel rest _ := by
    obtain ⟨blanks, between, -⟩ := separates.between (level + 1)
    obtain ⟨c, cs, starts, isStart⟩ := first.starts (level + 1)
    have closing : Ends ((layout.lineBreak level).toList ++ '\x7d' :: rest) :=
      ends_append (isSpace_lineBreak layout level) (ends_cons rfl rest)
    obtain ⟨tail, joined, ends⟩ := exists_ends (rfl : isEnd ',' = true) blanks (memberCharacters layout (level + 1) m)
      (members.map (memberCharacters layout (level + 1))) closing
    have whole : characters layout level (.object (m :: members)) ++ rest =
        '\x7b' :: ((layout.lineBreak (level + 1)).toList ++ (memberCharacters layout (level + 1) m ++ tail)) := by
      rw [characters_object layout level (List.cons_ne_nil m members), between, ← joined]
      simp only [List.map_cons, List.cons_append, List.append_assoc, List.nil_append]
    have unread (fuel : Nat) :
        ∃ failure, readMembers fuel (memberCharacters layout (level + 1) m ++ tail) = .error failure := by
      cases fuel with
      | zero => exact ⟨_, readMembers.eq_1 _⟩
      | succ fuel =>
          obtain ⟨failure, isRefused⟩ := first.refused (level + 1) fuel tail ends
          exact ⟨failure, by rw [readMembers_cons separates starts (visible_of_isStart isStart).1, isRefused]; rfl⟩
    cases fuel with
    | zero => exact ⟨_, readValue.eq_1 _⟩
    | succ fuel =>
        obtain ⟨failure, isRefused⟩ := unread fuel
        refine ⟨failure, ?_⟩
        rw [whole]
        unfold memberCharacters at isRefused ⊢
        rw [List.cons_append] at isRefused ⊢
        rw [readValue_object (isSpace_lineBreak layout (level + 1)) _ rfl (by decide), isRefused]
        rfl

theorem parse_refused {v : Value} (refused : IsRefused layout v) : ∃ fault, parse (write layout v) = .error fault := by
  obtain ⟨c, cs, starts, isStart⟩ := refused.starts 0
  obtain ⟨failure, isRefused⟩ := refused.refused 0 (enough (characters layout 0 v)) [] ends_nil
  rw [List.append_nil] at isRefused
  exact ⟨_, by rw [parse_of_start starts isStart, isRefused]; rfl⟩

end LogAnalysis.Json
