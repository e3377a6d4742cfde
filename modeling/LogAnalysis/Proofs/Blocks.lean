import LogAnalysis.Proofs.Numbering
import LogAnalysis.Proofs.Text.Search

/-!
# Entries as blocks of lines

The lines of a log that are not blank fall into blocks: a line that starts an entry, and the lines that continue it.

* `lines_eq_linePieces`: the lines are the pieces of the text between its line breaks.
* `takeLine_holds` (one step): a line goes to the end of the last block or starts another one, and the completed entries
  with the open one are still those of the blocks.
* `parseText_blocks` (whole texts): each entry is made of one block, so that no line is lost, doubled or moved.
-/

namespace LogAnalysis

/-! ## Lines of a text -/

namespace Assembler

/-- The pieces between newlines. A carriage return in front of a newline belongs to the break. -/
def linePieces (cs : List Char) : List (List Char) :=
  (cs.splitOn '\n').dropLast.map withoutReturn ++ (cs.splitOn '\n').getLast?.toList

theorem lines_of_not_mem {cs : List Char} (unbroken : '\n' ∉ cs) : lines cs = [cs] := by
  induction cs with
  | nil => rfl
  | cons c cs ih =>
      have noBreak : c ≠ '\n' := (List.ne_of_not_mem_cons unbroken).symm
      have others : '\n' ∉ cs := List.not_mem_of_not_mem_cons unbroken
      exact lines_cons noBreak (fun _ newline => others (List.mem_of_head? newline)) (ih others)

theorem not_mem_withoutReturn {c : Char} {cs : List Char} (absent : c ∉ cs) : c ∉ withoutReturn cs := by
  unfold withoutReturn
  split
  · exact fun member => absent (List.mem_of_mem_dropLast member)
  · exact absent

theorem lines_eq_linePieces (cs : List Char) : lines cs = linePieces cs := by
  -- By induction on the length, as the piece before the first newline is a line of its own.
  induction length : cs.length using Nat.strongRecOn generalizing cs with
  | ind n ih =>
      by_cases broken : '\n' ∈ cs
      · obtain ⟨piece, rest, rfl, unbroken⟩ := List.eq_append_cons_of_mem broken
        have shorter : rest.length < n := by
          rw [← length, List.length_append, List.length_cons]
          omega
        have later := ih rest.length shorter rest rfl
        have nonempty := List.splitOn_ne_nil '\n' rest
        rw [lines_append_newline, lines_of_not_mem (not_mem_withoutReturn unbroken), later, linePieces, linePieces,
          List.splitOn_append_cons_self_of_not_mem unbroken, List.dropLast_cons_of_ne_nil nonempty, List.getLast?_cons]
        simp [List.getLast?_eq_getLast_of_ne_nil nonempty]
      · rw [lines_of_not_mem broken, linePieces, List.splitOn_eq_singleton broken]
        rfl

theorem not_mem_lines (cs : List Char) : ∀ line ∈ lines cs, '\n' ∉ line := by
  fun_induction lines cs with
  | case1 => simp
  | case2 rest ih => exact List.forall_mem_cons.mpr ⟨List.not_mem_nil, ih⟩
  | case3 rest ih => exact List.forall_mem_cons.mpr ⟨List.not_mem_nil, ih⟩
  | case4 c rest _ _ pieces => exact absurd pieces (lines_ne_nil rest)
  | case5 c rest noReturn noBreak first more pieces ih =>
      rw [pieces] at ih
      obtain ⟨here, later⟩ := List.forall_mem_cons.mp ih
      exact List.forall_mem_cons.mpr ⟨List.not_mem_cons_of_ne_of_not_mem (Ne.symm noBreak) here, later⟩

end Assembler

/-! ## Blocks -/

structure Block where
  first : String
  rest : List String

namespace Block

def lines (b : Block) : List String := b.first :: b.rest

def extend (b : Block) (line : String) : Block := ⟨b.first, b.rest ++ [line]⟩

/-- The lines of the block, the first of them without its timestamp unless it is nothing else. -/
def message (b : Block) : String :=
  let text := Line.withoutTimestamp b.first
  Text.joined "\n" ((if text = "" then b.first else text) :: b.rest)

def entry (clock : Calendar.Clock) (id : Nat) (b : Block) : Entry :=
  .make id (Line.timestamp clock b.first) (Line.level b.first) b.message (Text.joined "\n" b.lines) []

variable {clock : Calendar.Clock}

theorem entry_single (id : Nat) (line : String) : Assembler.startEntry clock id line = entry clock id ⟨line, []⟩ := by
  simp [entry, message, lines, Assembler.startEntry, Text.joined]

theorem extend_entry (id : Nat) (b : Block) (line : String) :
    Assembler.extend (b.entry clock id) line = (b.extend line).entry clock id := by
  have added (first : String) : Text.joined "\n" (first :: b.rest) ++ "\n" ++ line =
      Text.joined "\n" (first :: (b.rest ++ [line])) := by
    rw [Text.joined, Text.joined, ← List.cons_append, String.intercalate_append_of_ne_nil (List.cons_ne_nil _ _)
      (List.cons_ne_nil _ _), String.intercalate_singleton]
  simp only [Assembler.extend, entry, Entry.make, Entry.reindexed, message, lines, extend, added]
  rfl

/-- The lines fall into the blocks: every line of a block but the first one continues an entry, and the first one does
not, unless no entry comes before it. -/
structure Cover (blocks : List Block) (taken : List String) : Prop where
  whole : blocks.flatMap lines = taken
  continues : ∀ b ∈ blocks, ∀ line ∈ b.rest, Line.isContinuation line = true
  starts : ∀ b ∈ blocks.tail, Line.isContinuation b.first = false

variable {blocks : List Block} {taken : List String}

theorem Cover.start (cover : Cover blocks taken) {line : String}
    (starts : blocks ≠ [] → Line.isContinuation line = false) :
    Cover (blocks ++ [⟨line, []⟩]) (taken ++ [line]) where
  whole := by rw [List.flatMap_append, cover.whole]; rfl
  continues := List.forall_mem_append.mpr ⟨cover.continues, by simp⟩
  starts := by
    cases blocks with
    | nil => simp
    | cons b others =>
        exact List.forall_mem_append.mpr ⟨cover.starts, by simpa using starts (List.cons_ne_nil _ _)⟩

theorem Cover.extend {b : Block} (cover : Cover (blocks ++ [b]) taken) {line : String}
    (continues : Line.isContinuation line = true) : Cover (blocks ++ [b.extend line]) (taken ++ [line]) where
  whole := by
    rw [← cover.whole]
    simp [lines, Block.extend]
  continues := by
    obtain ⟨before, last⟩ := List.forall_mem_append.mp cover.continues
    refine List.forall_mem_append.mpr ⟨before, List.forall_mem_singleton.mpr ?_⟩
    exact List.forall_mem_append.mpr ⟨last b List.mem_cons_self, by simpa using continues⟩
  starts := by
    have before := cover.starts
    cases blocks with
    | nil => exact fun _ member => nomatch member
    | cons first others =>
        obtain ⟨inner, last⟩ := List.forall_mem_append.mp before
        exact List.forall_mem_append.mpr ⟨inner, List.forall_mem_singleton.mpr (last b List.mem_cons_self)⟩

def entries (clock : Calendar.Clock) (blocks : List Block) : List Entry :=
  (blocks.zipIdx 1).map fun x => x.1.entry clock x.2

theorem entries_append_singleton (blocks : List Block) (b : Block) :
    entries clock (blocks ++ [b]) = entries clock blocks ++ [b.entry clock (blocks.length + 1)] := by
  simp [entries, List.zipIdx_append, Nat.add_comm]

end Block

/-! ## Taking lines -/

namespace Assembler

variable {clock : Calendar.Clock}

/-- The completed entries and the open one are those of blocks into which the taken lines fall. -/
def Holds (clock : Calendar.Clock) (a : Assembler) (completed : List Entry) (taken : List String) : Prop :=
  ∃ blocks, Block.Cover blocks taken ∧ completed ++ a.opened.toList = Block.entries clock blocks ∧
    a.nextId = blocks.length + 1 ∧ (a.opened = none → blocks = [])

theorem holds_start : start.Holds clock [] [] :=
  ⟨[], ⟨rfl, (fun _ member => nomatch member), (fun _ member => nomatch member)⟩, rfl, rfl, fun _ => rfl⟩

theorem takeLine_holds {a : Assembler} {completed : List Entry} {taken : List String}
    (holds : a.Holds clock completed taken) (line : String) :
    (a.takeLine clock line).1.Holds clock (completed ++ (a.takeLine clock line).2)
      (taken ++ [line].filter (!Text.isBlankString ·)) := by
  obtain ⟨blocks, cover, made, next, opened⟩ := holds
  unfold takeLine
  split
  · next blank => simpa [blank] using ⟨blocks, cover, made, next, opened⟩
  · next notBlank =>
      rw [List.filter_cons_of_pos (by simpa using notBlank), List.filter_nil]
      split
      · -- The open entry is that of the last block.
        next e isOpen continues =>
          rcases List.eq_nil_or_concat blocks with rfl | ⟨others, b, rfl⟩
          · simp [isOpen, Block.entries] at made
          · rw [List.concat_eq_append, Block.entries_append_singleton, isOpen] at made
            obtain ⟨rfl, isLast⟩ := List.append_inj' made rfl
            obtain rfl := List.singleton_inj.mp isLast
            refine ⟨others ++ [b.extend line], Block.Cover.extend (List.concat_eq_append ▸ cover) continues, ?_, ?_, ?_⟩
            · rw [Block.entries_append_singleton, List.append_nil, ← Block.extend_entry]
              rfl
            · simpa using next
            · exact fun closed => nomatch closed
      · next other =>
          refine ⟨blocks ++ [⟨line, []⟩], cover.start fun nonempty => ?_, ?_, ?_, fun closed => nomatch closed⟩
          · cases isOpen : a.opened with
            | none => exact absurd (opened isOpen) nonempty
            | some e => exact Bool.eq_false_iff.mpr (other e isOpen)
          · rw [Block.entries_append_singleton, ← made, next, Block.entry_single]
            simp
          · simp [next]

theorem takeLines_holds {a : Assembler} {completed : List Entry} {taken : List String}
    (holds : a.Holds clock completed taken) (ls : List String) :
    (a.takeLines clock ls).1.Holds clock (completed ++ (a.takeLines clock ls).2)
      (taken ++ ls.filter (!Text.isBlankString ·)) := by
  induction ls generalizing a completed taken with
  | nil => rwa [takeLines, List.filter_nil, List.append_nil, List.append_nil]
  | cons line rest ih =>
      have first := ih (takeLine_holds holds line)
      rwa [List.append_assoc, List.append_assoc, ← List.filter_append] at first

end Assembler

theorem parseText_eq_entries (clock : Calendar.Clock) (text : String) : ∃ blocks,
    Block.Cover blocks (((Assembler.lines text.toList).map String.ofList).filter (!Text.isBlankString ·)) ∧
      parseText clock text = Block.entries clock blocks := by
  obtain ⟨blocks, cover, made, -, -⟩ := @Assembler.takeLines_holds clock _ _ _ Assembler.holds_start
    ((Assembler.lines text.toList).map String.ofList)
  refine ⟨blocks, cover, ?_⟩
  rw [← made, parseText, Assembler.finish_eq]
  rfl

/-! ## The statement -/

def Entry.rawLines (e : Entry) : List String := (e.raw.toList.splitOn '\n').map String.ofList

namespace Block

variable {clock : Calendar.Clock} {blocks : List Block}

theorem rawLines_entry {b : Block} (unbroken : ∀ line ∈ b.lines, '\n' ∉ line.toList) (id : Nat) :
    (b.entry clock id).rawLines = b.lines := by
  have raw : (b.entry clock id).raw.toList = ['\n'].intercalate (b.lines.map String.toList) := String.toList_intercalate
  have absent : ∀ piece ∈ b.lines.map String.toList, '\n' ∉ piece := List.forall_mem_map.mpr unbroken
  rw [Entry.rawLines, raw, List.splitOn_intercalate '\n' absent (by simp [lines]), List.map_map]
  exact (List.map_congr_left fun line _ => String.ofList_toList).trans (List.map_id _)

theorem map_rawLines_entries (clock : Calendar.Clock) (unbroken : ∀ b ∈ blocks, ∀ line ∈ b.lines, '\n' ∉ line.toList) :
    (entries clock blocks).map Entry.rawLines = blocks.map lines := by
  rw [entries, List.map_map, ← List.zipIdx_map_fst 1 blocks, List.map_map, List.zipIdx_map_fst]
  exact List.map_congr_left fun x member => rawLines_entry (unbroken x.1 (List.fst_mem_of_mem_zipIdx member)) x.2

end Block

/-- Every line of a text that is not blank is a line of one entry, and the lines keep their order. An entry consists of a
line and of those that continue it, and the line does not continue an entry itself, unless it is the first of all. Numbers
are counted, and the first line of an entry tells timestamp, level and the start of the message. -/
theorem parseText_blocks (clock : Calendar.Clock) (text : String) :
    let entries := parseText clock text
    entries.flatMap Entry.rawLines =
        ((Assembler.linePieces text.toList).map String.ofList).filter (!Text.isBlankString ·) ∧
      (∀ e ∈ entries, ∀ line ∈ e.rawLines.tail, Line.isContinuation line = true) ∧
      (∀ e ∈ entries.tail, ∀ line ∈ e.rawLines.head?, Line.isContinuation line = false) ∧
      entries.map (·.id) = (List.range' 1 entries.length).map Int.ofNat ∧
      ∀ e ∈ entries, ∃ first rest, e.rawLines = first :: rest ∧ e.timestamp = Line.timestamp clock first ∧
        e.level = Line.level first ∧
        e.message = Text.joined "\n"
          ((if Line.withoutTimestamp first = "" then first else Line.withoutTimestamp first) :: rest) := by
  obtain ⟨blocks, cover, made⟩ := parseText_eq_entries clock text
  rw [Assembler.lines_eq_linePieces] at cover
  have unbroken : ∀ b ∈ blocks, ∀ line ∈ b.lines, '\n' ∉ line.toList := by
    intro b inBlocks line inBlock
    have taken : line ∈ blocks.flatMap Block.lines := List.mem_flatMap.mpr ⟨b, inBlocks, inBlock⟩
    rw [cover.whole, ← Assembler.lines_eq_linePieces] at taken
    obtain ⟨cs, isLine, rfl⟩ := List.mem_map.mp (List.mem_of_mem_filter taken)
    rw [String.toList_ofList]
    exact Assembler.not_mem_lines _ cs isLine
  have rawLines := Block.map_rawLines_entries clock unbroken
  rw [← made] at rawLines
  intro entries
  have whole : entries = Block.entries clock blocks := made
  refine ⟨?_, ?_, ?_, ?_, ?_⟩
  · rw [← cover.whole, List.flatMap_def, rawLines, List.flatMap_def]
  · intro e member line inTail
    have inBlocks : e.rawLines ∈ blocks.map Block.lines := rawLines ▸ List.mem_map_of_mem member
    obtain ⟨b, isBlock, lines⟩ := List.mem_map.mp inBlocks
    rw [← lines] at inTail
    exact cover.continues b isBlock line inTail
  · intro e member line isFirst
    have inBlocks : e.rawLines ∈ blocks.tail.map Block.lines := by
      rw [List.map_tail, ← rawLines, ← List.map_tail]
      exact List.mem_map_of_mem member
    obtain ⟨b, isBlock, lines⟩ := List.mem_map.mp inBlocks
    rw [← lines] at isFirst
    obtain rfl := Option.some.inj isFirst
    exact cover.starts b isBlock
  · rw [← numbered_replicate]
    exact parseText_ids clock text
  · intro e member
    rw [whole] at member
    obtain ⟨⟨b, id⟩, inBlocks, isEntry⟩ := List.mem_map.mp member
    obtain rfl : b.entry clock id = e := isEntry
    have isBlock := List.fst_mem_of_mem_zipIdx inBlocks
    have itsLines : (b.entry clock id).rawLines = b.first :: b.rest := Block.rawLines_entry (unbroken b isBlock) id
    refine ⟨b.first, b.rest, itsLines, ?_⟩
    dsimp only [Block.entry, Entry.make, Block.message]
    exact ⟨rfl, rfl, rfl⟩

end LogAnalysis
