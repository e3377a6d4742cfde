import LogAnalysis.Proofs.Json.Values

/-!
# JSON text on one line

A value that is written on one line holds no line break, nor any other character that cannot be printed.
-/

namespace LogAnalysis.Json

variable {layout : Layout} {level : Nat}

theorem mem_joinWith {separator : List Char} {pieces : List (List Char)} {c : Char}
    (member : c ∈ Text.joinWith separator pieces) : c ∈ separator ∨ ∃ piece ∈ pieces, c ∈ piece := by
  induction pieces with
  | nil => contradiction
  | cons piece rest ih =>
      cases rest with
      | nil => exact .inr ⟨piece, List.mem_cons_self, member⟩
      | cons other rest =>
          rw [joinWith_cons_cons, List.mem_append, List.mem_append] at member
          rcases member with (inPiece | inSeparator) | inRest
          · exact .inr ⟨piece, List.mem_cons_self, inPiece⟩
          · exact .inl inSeparator
          · exact (ih inRest).imp_right fun ⟨p, inList, inPiece⟩ => ⟨p, List.mem_cons_of_mem _ inList, inPiece⟩

structure Layout.IsLine (layout : Layout) : Prop where
  unbroken : layout.indent = none
  items : ∀ c ∈ layout.itemSeparator.toList, IsPrinted c
  names : ∀ c ∈ layout.nameSeparator.toList, IsPrinted c

theorem spaced_isLine : spaced.IsLine := ⟨rfl, printed_of_all rfl, printed_of_all rfl⟩

theorem enclose_printed (line : layout.IsLine) {opening closing : String} (opens : ∀ c ∈ opening.toList, IsPrinted c)
    (closes : ∀ c ∈ closing.toList, IsPrinted c) {parts : List String}
    (printed : ∀ part ∈ parts, ∀ c ∈ part.toList, IsPrinted c) :
    ∀ c ∈ (layout.enclose level opening closing parts).toList, IsPrinted c := by
  cases parts with
  | nil =>
      rw [toList_enclose_nil]
      exact List.forall_mem_append.mpr ⟨opens, closes⟩
  | cons part parts =>
      have noBreak (level : Nat) : (layout.lineBreak level).toList = [] := by
        rw [Layout.lineBreak, line.unbroken]
        rfl
      rw [toList_enclose _ _ (List.cons_ne_nil part parts)]
      simp only [noBreak, List.nil_append, List.append_nil]
      refine List.forall_mem_append.mpr ⟨opens, List.forall_mem_append.mpr ⟨fun c member => ?_, closes⟩⟩
      rcases mem_joinWith member with inSeparator | ⟨piece, inPieces, inPiece⟩
      · exact line.items c inSeparator
      · obtain ⟨part, inParts, rfl⟩ := List.mem_map.mp inPieces
        exact printed part inParts c inPiece

theorem digit_printed {c : Char} (signOrDigit : c = '-' ∨ c.isDigit = true) : IsPrinted c := by
  have table : ∀ n < 10, IsPrinted (Nat.digitChar n) := by decide
  rcases signOrDigit with rfl | isDigit
  · decide
  · obtain ⟨n, small, rfl⟩ := exists_digitChar isDigit
    exact table n small

theorem characters_printed (line : layout.IsLine) {v : Value} (exact : v.IsExact) (level : Nat) :
    ∀ c ∈ characters layout level v, IsPrinted c := by
  have mark : IsPrinted '"' := by decide
  induction exact generalizing level with
  | null =>
      rw [characters, writeAt]
      exact printed_of_all rfl
  | bool b =>
      rw [characters, writeAt]
      cases b <;> exact printed_of_all rfl
  | int short =>
      rw [characters, writeAt]
      exact fun c member => digit_printed (mem_toString_int member)
  | text s =>
      rw [characters, writeAt]
      exact writeString_printed s
  | @list items exact ih =>
      rw [characters, writeAt]
      refine enclose_printed line (printed_of_all rfl) (printed_of_all rfl) fun part member => ?_
      have inItems : part.toList ∈ items.map (characters layout (level + 1)) :=
        map_writeItems items ▸ List.mem_map_of_mem member
      obtain ⟨v, inList, same⟩ := List.mem_map.mp inItems
      exact same ▸ ih v inList (level + 1)
  | @object members distinct exact ih =>
      rw [characters, writeAt]
      refine enclose_printed line (printed_of_all rfl) (printed_of_all rfl) fun part member => ?_
      have inMembers : part.toList ∈ members.map (memberCharacters layout (level + 1)) :=
        map_writeMembers members ▸ List.mem_map_of_mem member
      obtain ⟨m, inList, same⟩ := List.mem_map.mp inMembers
      have value := List.forall_mem_append.mpr ⟨line.names, ih m inList (level + 1)⟩
      have rest := List.forall_mem_cons.mpr ⟨mark, value⟩
      rw [← same, memberCharacters]
      exact List.forall_mem_cons.mpr ⟨mark, List.forall_mem_append.mpr ⟨flatMap_escape_printed m.1.toList, rest⟩⟩

end LogAnalysis.Json
