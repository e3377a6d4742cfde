import LogAnalysis.Assembler
import LogAnalysis.Import
import LogAnalysis.Proofs.Entry
import LogAnalysis.Proofs.Outcome
import LogAnalysis.Proofs.Text.Digits
import LogAnalysis.Proofs.Text.Search

/-!
# Loaded entries are sound

Whatever the text of a document is, the entries that come of it are sound: those of a log while its lines are taken
(`Assembler.feed_isSound`, `Assembler.finish_isSound`), those of a table (`Import.ofCsv_isSound`) and those of JSON data
(`Import.ofJson_isSound`).
-/

namespace LogAnalysis

/-! ## Logs -/

namespace Assembler

variable (clock : Calendar.Clock)

def IsSound (a : Assembler) : Prop := ∀ e ∈ a.opened, e.IsSound

theorem ne_empty_of_not_blank {line : String} (notBlank : Text.isBlankString line ≠ true) : line ≠ "" := by
  rintro rfl
  exact notBlank rfl

theorem isSound_startEntry (id : Nat) (line : String) (notBlank : Text.isBlankString line ≠ true) :
    (startEntry clock id line).IsSound :=
  Entry.isSound_make _ _ _ _ Entry.areFields_nil (ne_empty_of_not_blank notBlank)

theorem isSound_extend {e : Entry} (sound : e.IsSound) (line : String) : (extend e line).IsSound := by
  refine Entry.isSound_reindexed sound.fields fun empty => sound.raw ?_
  have raw : e.raw ++ "\n" ++ line = "" := empty
  exact (String.append_eq_empty_iff.mp (String.append_eq_empty_iff.mp raw).1).1

section

variable {P : Entry → Prop}
  (starts : ∀ (id : Nat) (line : String), Text.isBlankString line ≠ true → P (startEntry clock id line))
  (grows : ∀ (e : Entry) (line : String), P e → P (extend e line))

include starts grows in
/-- What holds of each entry when it starts, and goes on to hold with every line that continues it, holds of the open entry
and of those that are completed. -/
theorem takeLine_forall {a : Assembler} (holds : ∀ e ∈ a.opened, P e) (line : String) :
    (∀ e ∈ (a.takeLine clock line).1.opened, P e) ∧ ∀ e ∈ (a.takeLine clock line).2, P e := by
  unfold takeLine
  split
  · exact ⟨holds, fun _ member => nomatch member⟩
  · next notBlank =>
      split
      · next e isOpen continues =>
          refine ⟨?_, fun _ member => nomatch member⟩
          rintro _ ⟨⟩
          exact grows e line (holds e isOpen)
      · refine ⟨?_, fun e member => holds e (Option.mem_toList.mp member)⟩
        rintro _ ⟨⟩
        exact starts _ line notBlank

include starts grows in
theorem takeLines_forall {a : Assembler} (holds : ∀ e ∈ a.opened, P e) (ls : List String) :
    (∀ e ∈ (a.takeLines clock ls).1.opened, P e) ∧ ∀ e ∈ (a.takeLines clock ls).2, P e := by
  induction ls generalizing a with
  | nil => exact ⟨holds, fun _ member => nomatch member⟩
  | cons line rest ih =>
      obtain ⟨first, done⟩ := takeLine_forall clock starts grows holds line
      obtain ⟨last, more⟩ := ih first
      exact ⟨last, List.forall_mem_append.mpr ⟨done, more⟩⟩

include starts grows in
theorem takeText_forall {a : Assembler} (holds : ∀ e ∈ a.opened, P e) (pending : String) (totalChars : Nat)
    (cs : List Char) :
    let taken := takeText clock { a with pending, totalChars } cs
    (∀ e ∈ taken.1.opened, P e) ∧ ∀ e ∈ taken.2, P e :=
  takeLines_forall clock starts grows (a := { a with pending, totalChars }) holds _

include starts grows in
theorem feed_forall {a : Assembler} (holds : ∀ e ∈ a.opened, P e) (chunk : String) :
    (∀ e ∈ (a.feed clock chunk).1.opened, P e) ∧ ∀ e ∈ (a.feed clock chunk).2, P e := by
  unfold feed
  dsimp only
  split
  · exact ⟨holds, fun _ member => nomatch member⟩
  · exact takeText_forall clock starts grows holds _ _ _

include starts grows in
theorem finish_forall {a : Assembler} (holds : ∀ e ∈ a.opened, P e) (chunk : String) :
    (∀ e ∈ (a.finish clock chunk).1.opened, P e) ∧ ∀ e ∈ (a.finish clock chunk).2, P e := by
  obtain ⟨last, done⟩ := takeText_forall clock starts grows holds "" (a.totalChars + chunk.length)
    (a.pending.toList ++ chunk.toList)
  unfold finish
  dsimp only
  constructor
  · exact fun _ member => nomatch member
  · exact List.forall_mem_append.mpr ⟨done, fun e member => last e (Option.mem_toList.mp member)⟩

include starts grows in
theorem parseText_forall (text : String) : ∀ e ∈ parseText clock text, P e :=
  (finish_forall clock starts grows (a := start) (fun _ member => nomatch member) text).2

end

theorem feed_isSound {a : Assembler} (sound : a.IsSound) (chunk : String) :
    (a.feed clock chunk).1.IsSound ∧ ∀ e ∈ (a.feed clock chunk).2, e.IsSound :=
  feed_forall clock (isSound_startEntry clock) (fun _ line sound => isSound_extend sound line) sound chunk

theorem finish_isSound {a : Assembler} (sound : a.IsSound) (chunk : String) :
    (a.finish clock chunk).1.IsSound ∧ ∀ e ∈ (a.finish clock chunk).2, e.IsSound :=
  finish_forall clock (isSound_startEntry clock) (fun _ line sound => isSound_extend sound line) sound chunk

end Assembler

/-! ## Texts that are not empty -/

theorem Text.joined_ne_empty {separator : String} (visible : separator ≠ "") (first second : String)
    (rest : List String) : joined separator (first :: second :: rest) ≠ "" := by
  intro empty
  have characters := congrArg String.toList empty
  rw [toList_joined] at characters
  simp only [List.map_cons, joinWith, String.toList_empty, List.append_eq_nil_iff] at characters
  exact visible (String.toList_eq_nil_iff.mp characters.1.2)

theorem ne_empty_of_append {s t : String} (visible : s ≠ "") : s ++ t ≠ "" := fun empty =>
  visible (String.append_eq_empty_iff.mp empty).1

theorem Decimal.digits_ne_nil (d : Decimal) : d.digits ≠ [] := Nat.toDigits_ne_nil

theorem Decimal.write_ne_nil (layout : Layout) (d : Decimal) : d.write layout ≠ [] := by
  unfold write
  extract_lets ds leading mantissa sign
  clear_value leading
  split
  · split
    · exact List.cons_ne_nil _ _
    · split
      · simp [ds, d.digits_ne_nil]
      · simp
  · simp

theorem Decimal.shortestText_ne_empty (x : Float) : shortestText x ≠ "" := by
  unfold shortestText writeFloat
  split
  · decide
  · split <;> decide
  · simp [write_ne_nil]

theorem Value.display_ne_empty {v : Value} (truthy : v.isTruthy = true) : v.display ≠ "" := by
  cases v with
  | null => contradiction
  | bool b => cases b <;> decide
  | int n => exact toString_int_ne_empty n
  | float x => exact Decimal.shortestText_ne_empty x
  | text s => simpa [isTruthy, display] using truthy
  | list items => exact ne_empty_of_append (ne_empty_of_append (by decide))
  | object members => exact ne_empty_of_append (ne_empty_of_append (by decide))

theorem Json.write_object_ne_empty (layout : Layout) (members : Members Value) :
    write layout (.object members) ≠ "" := by
  unfold write writeAt Layout.enclose
  split
  · decide
  · exact ne_empty_of_append (ne_empty_of_append (ne_empty_of_append (ne_empty_of_append (by decide))))

/-! ## Tables -/

namespace Import

open Entry (AreFields)

theorem isTexts_fieldOf (v : Value) : (fieldOf v).IsTexts := by
  cases v with
  | list items => exact Value.isTexts_map itemText items
  | _ => exact ⟨[_], rfl⟩

theorem isTexts_cellField {cell : String} {v : Value} (read : cellField cell = .ok v) : v.IsTexts := by
  have single : (Value.list [.text cell]).IsTexts := ⟨[cell], rfl⟩
  unfold cellField at read
  split at read
  · split at read
    · next items _ =>
        obtain rfl := Except.ok.inj read
        exact isTexts_fieldOf (.list items)
    · obtain rfl := Except.ok.inj read
      exact single
    · split at read
      · contradiction
      · obtain rfl := Except.ok.inj read
        exact single
  · obtain rfl := Except.ok.inj read
    exact single

theorem areFields_rowFields {columns : Columns} {cells : List String} {fields : Members Value}
    (read : rowFields columns cells = .ok fields) : AreFields fields := by
  refine Outcome.foldlM_keeps (fun given (header, i) _ more sound added => ?_) Entry.areFields_nil read
  dsimp only at added
  split at added
  · obtain rfl := Except.ok.inj added
    exact sound
  · next counts =>
      obtain ⟨v, isField, whole⟩ := Outcome.bind_eq_ok.mp added
      obtain rfl := Except.ok.inj whole
      refine sound.put ?_ (isTexts_cellField isField)
      simp_all

theorem joined_ne_empty_of_row {cells : List String} (notBlank : isBlankRow cells ≠ true) :
    Text.joined " | " cells ≠ "" := by
  match cells with
  | [] => exact absurd rfl notBlank
  | [cell] => simpa [isBlankRow, Text.joined] using notBlank
  | first :: second :: rest => exact Text.joined_ne_empty (by decide) first second rest

theorem isSound_rowEntry {clock : Calendar.Clock} {columns : Columns} {next : Nat} {cells : List String}
    {e : Entry} {after : Nat} (notBlank : isBlankRow cells ≠ true)
    (read : rowEntry clock columns next cells = .ok (e, after)) : e.IsSound := by
  obtain ⟨fields, isFields, whole⟩ := Outcome.bind_eq_ok.mp read
  obtain ⟨rfl, -⟩ := Prod.mk.inj (Except.ok.inj whole)
  refine Entry.isSound_make _ _ _ _ (areFields_rowFields isFields) ?_
  split
  · exact joined_ne_empty_of_row notBlank
  · assumption

theorem isSound_rowEntries {clock : Calendar.Clock} {columns : Columns} {fault : Option Fault} {next : Nat}
    {rows : List (List String)} {entries : List Entry} (read : rowEntries clock columns fault next rows = .ok entries) :
    ∀ e ∈ entries, e.IsSound := by
  induction rows generalizing next entries with
  | nil =>
      cases fault with
      | some fault => contradiction
      | none =>
          obtain rfl := Except.ok.inj read
          exact fun _ member => nomatch member
  | cons row rest ih =>
      rw [rowEntries] at read
      split at read
      · exact ih read
      · next notBlank =>
          obtain ⟨⟨e, after⟩, isEntry, read⟩ := Outcome.bind_eq_ok.mp read
          obtain ⟨others, isRest, whole⟩ := Outcome.bind_eq_ok.mp read
          obtain rfl := Except.ok.inj whole
          exact List.forall_mem_cons.mpr ⟨isSound_rowEntry notBlank isEntry, ih isRest⟩

theorem ofCsv_isSound {clock : Calendar.Clock} {text : String} {entries : List Entry}
    (read : ofCsv clock text = .ok entries) : ∀ e ∈ entries, e.IsSound := by
  unfold ofCsv at read
  dsimp only at read
  split at read
  · exact isSound_rowEntries (show rowEntries clock (.ofHeaders []) (Csv.records text).2 1 [] = .ok entries from read)
  · exact isSound_rowEntries read

/-! ## JSON data -/

theorem areFields_addFields (excluded : List String) (members : Members Value) {fields : Members Value}
    (sound : AreFields fields) : AreFields (addFields excluded members fields) := by
  induction members generalizing fields with
  | nil => exact sound
  | cons m rest ih =>
      refine ih ?_
      obtain ⟨name, v⟩ := m
      dsimp only
      split
      · exact sound
      · split
        · exact sound
        · next counts =>
            refine sound.put ?_ (isTexts_fieldOf _)
            simp_all

theorem isSound_objectEntry (clock : Calendar.Clock) (next : Nat) (members : Members Value) :
    (objectEntry clock next members).1.IsSound := by
  refine Entry.isSound_make _ _ _ _ ?_ ?_
  · have outer := areFields_addFields standardNames members Entry.areFields_nil
    split
    · exact areFields_addFields [] _ outer
    · exact outer
  · split
    · next truthy => exact Value.display_ne_empty truthy
    · exact Json.write_object_ne_empty _ _

theorem isSound_valueEntries (clock : Calendar.Clock) (next : Nat) (values : List Value) :
    ∀ e ∈ valueEntries clock next values, e.IsSound := by
  fun_induction valueEntries clock next values with
  | case1 => exact fun _ member => nomatch member
  | case2 next members rest e after isEntry ih =>
      have sound := isSound_objectEntry clock next members
      rw [isEntry] at sound
      exact List.forall_mem_cons.mpr ⟨sound, ih⟩
  | case3 next v rest noObject ih => exact ih

theorem ofJson_isSound {clock : Calendar.Clock} {text : String} {entries : List Entry}
    (read : ofJson clock text = .ok entries) : ∀ e ∈ entries, e.IsSound := by
  unfold ofJson at read
  split at read
  · contradiction
  · obtain rfl := Except.ok.inj read
    exact isSound_valueEntries _ _ _
  · obtain rfl := Except.ok.inj read
    exact isSound_valueEntries _ _ _

end Import

end LogAnalysis
