import LogAnalysis.Export
import LogAnalysis.Proofs.Csv
import LogAnalysis.Proofs.Levels
import LogAnalysis.Proofs.Numbering

/-!
# Exported tables

A table that is exported for the entries of a log is loaded again if each of its cells can be read and none of its fields
holds a number of too many digits; otherwise it is refused. Where it is loaded, all entries come back in order, with
their numbers, levels and messages (`Import.ofCsv_csv`).
-/

namespace LogAnalysis

open Text (trimmed)

/-! ## Records read back -/

namespace Csv

theorem mem_isReadable {cells : List String} (readable : IsReadableRecord cells) {cell : String}
    (member : cell ∈ cells) : ∃ last, IsReadable last cell := by
  induction cells with
  | nil => contradiction
  | cons first rest ih =>
      cases rest with
      | nil => exact ⟨true, List.mem_singleton.mp member ▸ readable⟩
      | cons next rest =>
          obtain ⟨here, later⟩ := readable
          rcases List.mem_cons.mp member with rfl | member
          · exact ⟨false, here⟩
          · exact ih later member

theorem toList_cellBack (cell : String) : (cellBack cell).toList ++ cellTail cell = cell.toList := by
  unfold cellBack cellTail
  split
  · exact List.append_nil _
  · rw [String.toList_ofList, List.takeWhile_append_dropWhile]

theorem trimmed_cellBack {last : Bool} {cell : String} (readable : IsReadable last cell) :
    trimmed (cellBack cell) = trimmed cell := by
  have allBlank : ∀ c ∈ cellTail cell, Text.isBlank c = true := fun c member => by
    rw [(readable.2 c member).2]
    decide
  rw [trimmed, trimmed, ← toList_cellBack cell, Text.trim_append_blank _ allBlank]

theorem map_trimmed_cellBack {cells : List String} (readable : IsReadableRecord cells) :
    (cells.map cellBack).map trimmed = cells.map trimmed := by
  rw [List.map_map]
  refine List.map_congr_left fun cell member => ?_
  obtain ⟨last, isReadable⟩ := mem_isReadable readable member
  exact trimmed_cellBack isReadable

theorem begins_cons {cell : String} {c : Char} {cs : List Char} (written : (writeCell cell).toList = c :: cs)
    (goesOn : Partial.isBreak c = false) (rest : List String) : Begins (cell :: rest) := by
  cases rest with
  | nil => exact ⟨c, cs, written, goesOn⟩
  | cons next rest => exact ⟨c, _, by rw [recordText_cons, written]; rfl, goesOn⟩

end Csv

/-! ## Numbers as cells -/

theorem visible_of_digit {c : Char} (written : c = '-' ∨ c.isDigit = true) :
    Csv.isSpecial c = false ∧ Csv.Partial.isBreak c = false ∧ Text.isBlank c = false := by
  have digits : ∀ n < 10, Csv.isSpecial (Nat.digitChar n) = false ∧ Csv.Partial.isBreak (Nat.digitChar n) = false ∧
      Text.isBlank (Nat.digitChar n) = false := by decide
  rcases written with rfl | isDigit
  · decide
  · obtain ⟨n, small, rfl⟩ := exists_digitChar isDigit
    exact digits n small

theorem writeCell_toString (n : Int) : Csv.writeCell (toString n) = toString n := by
  refine if_neg fun special => ?_
  obtain ⟨c, member, isSpecial⟩ := List.any_eq_true.mp special
  exact nomatch (visible_of_digit (mem_toString_int member)).1.symm.trans isSpecial

theorem trimmed_toString (n : Int) : trimmed (toString n) = toString n := by
  have visible : ∀ c ∈ (toString n).toList, Text.isBlank c = false := fun c member =>
    (visible_of_digit (mem_toString_int member)).2.2
  have isTrimmed : Text.IsTrimmed (toString n).toList :=
    ⟨fun c first => visible c (List.mem_of_mem_head? first), fun c last => visible c (List.mem_of_getLast? last)⟩
  rw [trimmed, isTrimmed.trim_eq, String.ofList_toList]

/-! ## The exported table -/

namespace Export

def header (names : List String) : List String := ["id", "ts", "level", "message"] ++ names.mergeSort (· ≤ ·)

def fieldCell (e : Entry) (name : String) : String := cellOf (Value.ofOption (Members.get? e.fields name))

def row (names : List String) (e : Entry) : List String :=
  [toString e.id, e.timestamp, e.level, e.message] ++ (names.mergeSort (· ≤ ·)).map (fieldCell e)

def table (entries : List Entry) (names : List String) : List (List String) := header names :: entries.map (row names)

theorem csv_eq_write (entries : List Entry) (names : List String) : csv entries names = Csv.write (table entries names) :=
  rfl

theorem begins_table (entries : List Entry) (names : List String) :
    ∀ cells ∈ table entries names, Csv.Begins cells := by
  have id : (Csv.writeCell "id").toList = ['i', 'd'] := rfl
  refine List.forall_mem_cons.mpr ⟨Csv.begins_cons id rfl _, List.forall_mem_map.mpr fun e _ => ?_⟩
  obtain ⟨c, cs, characters, first⟩ := toString_int_eq_cons e.id
  exact Csv.begins_cons (by rw [writeCell_toString, characters]) (visible_of_digit first).2.1 _

end Export

/-! ## Columns -/

namespace Import

open Export (header row)

theorem ofHeaders_congr {headers others : List String} (same : headers.map trimmed = others.map trimmed) :
    Columns.ofHeaders headers = Columns.ofHeaders others := by
  have lower : headers.map (fun h => Text.lowered (trimmed h)) = others.map (fun h => Text.lowered (trimmed h)) := by
    have mapped := congrArg (List.map Text.lowered) same
    rwa [List.map_map, List.map_map] at mapped
  rw [Columns.ofHeaders, Columns.ofHeaders, lower]

def columns (names : List String) : Columns := .ofHeaders (header names)

variable (names : List String)

def lowerHeaders : List String :=
  ["id", "ts", "level", "message"] ++ (names.mergeSort (· ≤ ·)).map fun name => Text.lowered (trimmed name)

theorem columns_eq : columns names =
    { headers := lowerHeaders names, id := some 0, timestamp := some 1, level := some 2, message := some 3,
      raw := (lowerHeaders names).findIdx? ["raw"].contains } := by
  have parts : ["id", "ts", "level", "message"].map (fun h => Text.lowered (trimmed h)) =
      ["id", "ts", "level", "message"] := by decide
  have lower : (header names).map (fun h => Text.lowered (trimmed h)) = lowerHeaders names := by
    rw [header, List.map_append, parts, lowerHeaders]
  rw [columns, Columns.ofHeaders, lower]
  rfl

theorem le_of_isFieldName {i : Nat} {h : String} (isHeader : (lowerHeaders names)[i]? = some h)
    (isName : Entry.isFieldName h = true) : 4 ≤ i := by
  by_contra small
  have parts : ∀ i < 4, ∀ h ∈ ["id", "ts", "level", "message"][i]?, Entry.isFieldName h = false := by decide
  rw [lowerHeaders, List.getElem?_append_left (Nat.lt_of_not_le small)] at isHeader
  exact nomatch (parts i (Nat.lt_of_not_le small) h isHeader).symm.trans isName

theorem isStandard_columns {i : Nat} {h : String} (isHeader : (lowerHeaders names)[i]? = some h)
    (isName : Entry.isFieldName h = true) : (columns names).isStandard i = false := by
  rw [Columns.isStandard, columns_eq, List.contains_eq_mem, decide_eq_false_iff_not]
  simp only [List.mem_cons, List.not_mem_nil, or_false, Option.some.injEq]
  have beyond := le_of_isFieldName names isHeader isName
  have notRaw : (lowerHeaders names).findIdx? ["raw"].contains ≠ some i := fun raw => by
    obtain ⟨bound, isRaw, -⟩ := List.findIdx?_eq_some_iff_getElem.mp raw
    rw [List.getElem?_eq_getElem bound, Option.some.injEq] at isHeader
    rw [isHeader, List.contains_cons, List.contains_nil, Bool.or_false, beq_iff_eq] at isRaw
    exact absurd isName (by rw [isRaw]; decide)
  rintro (id | timestamp | level | message | raw)
  · omega
  · omega
  · omega
  · omega
  · exact notRaw raw.symm

theorem getElem?_lowerHeaders (k : Nat) :
    (lowerHeaders names)[4 + k]? = ((names.mergeSort (· ≤ ·))[k]?).map fun name => Text.lowered (trimmed name) := by
  rw [lowerHeaders, List.getElem?_append_right (by simp), List.getElem?_map]
  simp

theorem cellAt_row (e : Entry) (k : Nat) : cellAt ((row names e).map trimmed) (some (4 + k)) =
    (((names.mergeSort (· ≤ ·))[k]?).map fun name => trimmed (Export.fieldCell e name)).getD "" := by
  rw [cellAt, Option.bind_some, row, List.map_append, List.getElem?_append_right (by simp), List.map_map,
    List.getElem?_map]
  simp [Function.comp_def]

theorem rowFields_row (e : Entry) :
    (∃ fields, rowFields (columns names) ((row names e).map trimmed) = .ok fields) ↔
      ∀ name ∈ names, Entry.isFieldName (Text.lowered (trimmed name)) = true →
        ∃ v, cellField (trimmed (Export.fieldCell e name)) = .ok v := by
  have headers : (columns names).headers = lowerHeaders names := by rw [columns_eq]
  rw [rowFields, headers, Outcome.exists_foldlM_iff (P := fun x => Entry.isFieldName x.1 = true →
    ∃ v, cellField (cellAt ((row names e).map trimmed) (some x.2)) = .ok v)]
  · constructor
    · intro taken name member
      obtain ⟨k, isName⟩ := List.getElem?_of_mem ((List.mergeSort_perm ..).mem_iff.mpr member)
      have cell := taken (Text.lowered (trimmed name), 4 + k)
        (List.mem_zipIdx_iff_getElem?.mpr (by rw [getElem?_lowerHeaders, isName]; rfl))
      rwa [cellAt_row, isName] at cell
    · rintro taken ⟨h, i⟩ member isName
      have isHeader := List.mem_zipIdx_iff_getElem?.mp member
      obtain ⟨k, rfl⟩ := Nat.exists_eq_add_of_le (le_of_isFieldName names isHeader isName)
      rw [getElem?_lowerHeaders] at isHeader
      obtain ⟨name, isThere, rfl⟩ := Option.map_eq_some_iff.mp isHeader
      have named : name ∈ names := (List.mergeSort_perm ..).mem_iff.mp (List.mem_of_getElem? isThere)
      rw [cellAt_row, isThere]
      exact taken name named isName
  · -- A step fails just where the cell of a field does; an empty cell stands for no field, and is never refused.
    rintro fields ⟨h, i⟩ member
    have isHeader := List.mem_zipIdx_iff_getElem?.mp member
    dsimp only
    by_cases isName : Entry.isFieldName h = true
    · have read := isStandard_columns names isHeader isName
      by_cases empty : cellAt ((row names e).map trimmed) (some i) = ""
      · have taken : ∃ v, cellField "" = .ok v := ⟨_, rfl⟩
        simp [empty, taken]
      · simp [read, empty, isName, Outcome.bind_eq_ok]
    · simp [isName]

variable {names} {clock : Calendar.Clock}

theorem map_trimmed_row (e : Entry) :
    (row names e).map trimmed = toString e.id :: trimmed e.timestamp :: trimmed e.level :: trimmed e.message ::
      ((names.mergeSort (· ≤ ·)).map (Export.fieldCell e)).map trimmed := by
  simp only [row, List.cons_append, List.nil_append, List.map_cons, trimmed_toString]

structure GivesBack (e b : Entry) : Prop where
  id : e.id.natAbs < 10 ^ Numeral.maxDigits → b.id = e.id
  level : b.level = e.level
  message : b.message = trimmed e.message

/-- The parts of an entry are read from the first cells of its row, which uses up no number, if its fields can be
taken. -/
theorem rowEntry_cases (clock : Calendar.Clock) {e : Entry} (usual : IsUsualLevel e.level) (next : Nat) :
    ((∃ fields, rowFields (columns names) ((row names e).map trimmed) = .ok fields) ∧
      ∃ b, rowEntry clock (columns names) next ((row names e).map trimmed) = .ok (b, next) ∧ GivesBack e b) ∨
    ∃ fault, rowFields (columns names) ((row names e).map trimmed) = .error fault ∧
      rowEntry clock (columns names) next ((row names e).map trimmed) = .error fault := by
  have given : toString e.id ≠ "" := toString_int_ne_empty e.id
  have id : cellAt ((row names e).map trimmed) (columns names).id = toString e.id := by
    rw [columns_eq, map_trimmed_row]
    rfl
  have level : cellAt ((row names e).map trimmed) (columns names).level = trimmed e.level := by
    rw [columns_eq, map_trimmed_row]
    rfl
  have message : cellAt ((row names e).map trimmed) (columns names).message = trimmed e.message := by
    rw [columns_eq, map_trimmed_row]
    rfl
  rw [rowEntry]
  simp only [id, given, if_false, level, message, canonicalLevel_trimmed, usual.same]
  cases rowFields (columns names) ((row names e).map trimmed) with
  | error fault => exact .inr ⟨fault, rfl, rfl⟩
  | ok fields =>
      refine .inl ⟨⟨fields, rfl⟩, _, rfl, fun short => ?_, rfl, rfl⟩
      have read : entryId? (.text (toString e.id)) = some e.id :=
        congrArg Except.toOption (Numeral.integer_toString (Numeral.length_digits_le_iff.mpr short))
      exact congrArg (Option.getD · (next : Int)) read

theorem rowEntries_rows (clock : Calendar.Clock) {entries : List Entry} (usual : ∀ e ∈ entries, IsUsualLevel e.level)
    {rows : List (List String)} (cells : rows.map (·.map trimmed) = entries.map fun e => (row names e).map trimmed)
    (next : Nat) :
    ((∃ back, rowEntries clock (columns names) none next rows = .ok back) ↔
      ∀ e ∈ entries, ∃ fields, rowFields (columns names) ((row names e).map trimmed) = .ok fields) ∧
    ∀ back, rowEntries clock (columns names) none next rows = .ok back → List.Forall₂ GivesBack entries back := by
  induction entries generalizing rows with
  | nil =>
      obtain rfl := List.map_eq_nil_iff.mp cells
      refine ⟨⟨fun _ e member => absurd member List.not_mem_nil, fun _ => ⟨[], rfl⟩⟩, fun back read => ?_⟩
      obtain rfl := Except.ok.inj read
      exact .nil
  | cons e entries ih =>
      obtain ⟨first, rest, rfl, firstCells, restCells⟩ := List.map_eq_cons_iff.mp cells
      obtain ⟨usualLevel, others⟩ := List.forall_mem_cons.mp usual
      obtain ⟨taken, gives⟩ := ih others restCells
      have notBlank : isBlankRow ((row names e).map trimmed) = false := by
        rw [map_trimmed_row]
        rfl
      have step : rowEntries clock (columns names) none next (first :: rest) =
          rowEntry clock (columns names) next ((row names e).map trimmed) >>= fun made =>
            rowEntries clock (columns names) none made.2 rest >>= fun back => .ok (made.1 :: back) := by
        rw [rowEntries, firstCells, notBlank]
        rfl
      rw [step, List.forall_mem_cons]
      rcases rowEntry_cases clock usualLevel next with ⟨fields, b, read, same⟩ | ⟨fault, refused, read⟩
      · -- No number is used up by the first row, so that the others are read as if they stood alone.
        rw [read, Outcome.ok_bind, ← taken]
        constructor
        · constructor
          · rintro ⟨back, whole⟩
            obtain ⟨others, readRest, -⟩ := Outcome.bind_eq_ok.mp whole
            exact ⟨fields, others, readRest⟩
          · rintro ⟨-, others, readRest⟩
            exact ⟨b :: others, Outcome.bind_eq_ok.mpr ⟨others, readRest, rfl⟩⟩
        · intro back whole
          obtain ⟨others, readRest, isBack⟩ := Outcome.bind_eq_ok.mp whole
          obtain rfl := Except.ok.inj isBack
          exact .cons same (gives others readRest)
      · rw [read, Outcome.error_bind, refused]
        constructor
        · constructor
          · rintro ⟨back, loaded⟩
            contradiction
          · rintro ⟨⟨fields, taken⟩, -⟩
            contradiction
        · intro back loaded
          contradiction

/-- The text is a list in brackets that is read as JSON up to a number of too many digits. -/
def HoldsLongNumber (cell : String) : Prop :=
  Text.startsWith cell "[" = true ∧ Text.endsWith cell "]" = true ∧
    ∃ fault digits, Json.parse cell = .error fault ∧ fault.problem = .tooLong digits

theorem exists_cellField_iff (cell : String) : (∃ v, cellField cell = .ok v) ↔ ¬HoldsLongNumber cell := by
  unfold HoldsLongNumber cellField
  by_cases brackets : Text.startsWith cell "[" = true ∧ Text.endsWith cell "]" = true
  · obtain ⟨opens, closes⟩ := brackets
    rw [opens, closes]
    cases read : Json.parse cell with
    | ok v => cases v <;> simp
    | error fault => cases problem : fault.problem <;> simp [problem, Fault.refuse]
  · have single : ¬(Text.startsWith cell "[" && Text.endsWith cell "]") = true := by simpa using brackets
    rw [if_neg single]
    exact ⟨fun _ long => brackets ⟨long.1, long.2.1⟩, fun _ => ⟨_, rfl⟩⟩

theorem rowEntries_of_fault (clock : Calendar.Clock) (columns : Columns) (fault : Fault) (next : Nat)
    (rows : List (List String)) (back : List Entry) : rowEntries clock columns (some fault) next rows ≠ .ok back := by
  induction rows generalizing next back with
  | nil => exact nofun
  | cons row rest ih =>
      intro read
      rw [rowEntries] at read
      split at read
      · exact ih next back read
      · obtain ⟨⟨b, after⟩, -, read⟩ := Outcome.bind_eq_ok.mp read
        obtain ⟨others, readRest, -⟩ := Outcome.bind_eq_ok.mp read
        exact ih after others readRest

theorem ofCsv_of_fault (clock : Calendar.Clock) {text : String} {done : List (List String)} {fault : Fault}
    (read : Csv.records text = (done, some fault)) (back : List Entry) : ofCsv clock text ≠ .ok back := by
  rw [ofCsv, read]
  dsimp only
  split
  · exact nofun
  · exact rowEntries_of_fault clock _ fault 1 _ back

theorem ofCsv_write (clock : Calendar.Clock) (names : List String) {entries : List Entry}
    (usual : ∀ e ∈ entries, IsUsualLevel e.level) :
    ((∃ back, ofCsv clock (Export.csv entries names) = .ok back) ↔
      (∀ cells ∈ Export.table entries names, Csv.IsReadableRecord cells) ∧
        ∀ e ∈ entries, ∃ fields, rowFields (columns names) ((row names e).map trimmed) = .ok fields) ∧
    ∀ back, ofCsv clock (Export.csv entries names) = .ok back → List.Forall₂ GivesBack entries back := by
  obtain ⟨reads, refuses⟩ := Csv.records_write (Export.begins_table entries names)
  rw [Export.csv_eq_write]
  by_cases readable : ∀ cells ∈ Export.table entries names, Csv.IsReadableRecord cells
  · have headerReadable := readable (header names) List.mem_cons_self
    have sameHeader := Csv.map_trimmed_cellBack headerReadable
    have first : ((header names).map Csv.cellBack).all Text.isBlankString = false := by
      have visible : Text.isBlankString (Csv.cellBack "id") = false := by decide
      rw [header, List.cons_append, List.map_cons, List.all_cons, visible, Bool.false_and]
    have whole : ofCsv clock (Csv.write (Export.table entries names)) =
        rowEntries clock (columns names) none 1 ((entries.map (row names)).map (·.map Csv.cellBack)) := by
      rw [ofCsv, reads readable, Export.table, List.map_cons]
      dsimp only
      rw [List.dropWhile_cons_of_neg (by rw [first]; exact nofun)]
      dsimp only
      rw [ofHeaders_congr sameHeader, columns]
    have cells : ((entries.map (row names)).map (·.map Csv.cellBack)).map (·.map trimmed) =
        entries.map fun e => (row names e).map trimmed := by
      rw [List.map_map, List.map_map]
      refine List.map_congr_left fun e member => ?_
      exact Csv.map_trimmed_cellBack (readable _ (List.mem_cons_of_mem _ (List.mem_map_of_mem member)))
    rw [whole]
    obtain ⟨taken, gives⟩ := rowEntries_rows clock usual cells 1
    exact ⟨taken.trans (and_iff_right readable).symm, gives⟩
  · -- A fault of the reader comes through whatever the records before it hold.
    obtain ⟨done, fault, read⟩ := refuses readable
    have refused := ofCsv_of_fault clock read
    exact ⟨⟨fun ⟨back, loaded⟩ => absurd loaded (refused back), fun both => absurd both.1 readable⟩,
      fun back loaded => absurd loaded (refused back)⟩

theorem natAbs_id_le_length {entries : List Entry}
    (ids : entries.map (·.id) = (List.range' 1 entries.length).map Int.ofNat) {e : Entry} (member : e ∈ entries) :
    e.id.natAbs ≤ entries.length := by
  have counted : e.id ∈ entries.map (·.id) := List.mem_map_of_mem member
  rw [ids] at counted
  obtain ⟨k, inRange, isId⟩ := List.mem_map.mp counted
  obtain ⟨-, bound⟩ := List.mem_range'_1.mp inRange
  rw [← isId, Int.ofNat_eq_natCast, Int.natAbs_natCast]
  omega

theorem map_eq_of_forall₂ {α β γ : Type} {f : α → γ} {g : β → γ} {xs : List α} {ys : List β}
    (related : List.Forall₂ (fun x y => g y = f x) xs ys) : ys.map g = xs.map f := by
  induction related with
  | nil => rfl
  | cons same _ ih => rw [List.map_cons, List.map_cons, same, ih]

/-- The table of the entries of a log, after any extraction, is loaded again just if each of its cells can be read and no
field holds a number of too many digits. Then all entries come back in order, with their numbers and levels, and with
their messages without the white space around them. -/
theorem ofCsv_csv (clock : Calendar.Clock) (strategy : MergeStrategy) (text : String) (extractors : List Extractor)
    (names : List String) :
    let entries := (Extraction.runAll clock strategy extractors (parseText clock text)).entries
    ((∃ back, ofCsv clock (Export.csv entries names) = .ok back) ↔
      (∀ cells ∈ Export.table entries names, Csv.IsReadableRecord cells) ∧
        ∀ e ∈ entries, ∀ name ∈ names, Entry.isFieldName (Text.lowered (trimmed name)) = true →
          ¬HoldsLongNumber (trimmed (Export.fieldCell e name))) ∧
    ∀ back, ofCsv clock (Export.csv entries names) = .ok back →
      (entries.length < 10 ^ Numeral.maxDigits → back.map (·.id) = entries.map (·.id)) ∧
        back.map (·.level) = entries.map (·.level) ∧ back.map (·.message) = entries.map (trimmed ·.message) := by
  intro entries
  obtain ⟨f, after, kept⟩ := Extraction.runAll_kept clock strategy extractors (parseText clock text)
  have usual : ∀ e ∈ entries, IsUsualLevel e.level := by
    have given : entries = (parseText clock text).map f := after
    rw [given]
    exact List.forall_mem_map.mpr fun e member => (kept e).2 (parseText_levels clock text e member)
  obtain ⟨loads, gives⟩ := ofCsv_write clock names usual
  refine ⟨?_, fun back loaded => ⟨fun few => ?_, ?_, ?_⟩⟩
  · rw [loads]
    refine and_congr_right fun _ => forall₂_congr fun e _ => ?_
    rw [rowFields_row]
    exact forall₃_congr fun name _ _ => exists_cellField_iff _
  · have ids : entries.map (·.id) = (List.range' 1 entries.length).map Int.ofNat := by
      have given : entries = (parseText clock text).map f := after
      rw [given, List.map_map, List.length_map, ← numbered_replicate, ← parseText_ids clock text]
      exact List.map_congr_left fun e _ => (kept e).1
    have small : ∀ e ∈ entries, e.id.natAbs < 10 ^ Numeral.maxDigits := fun e member =>
      Nat.lt_of_le_of_lt (natAbs_id_le_length ids member) few
    have both := (List.forall₂_and_left _ _).mpr ⟨small, gives back loaded⟩
    exact map_eq_of_forall₂ (both.imp fun e b ⟨isSmall, same⟩ => same.id isSmall)
  · exact map_eq_of_forall₂ ((gives back loaded).imp fun e b same => same.level)
  · exact map_eq_of_forall₂ ((gives back loaded).imp fun e b same => same.message)

/-! ### Tables without fields -/

theorem csv_nil (entries : List Entry) : Export.csv entries [] = Csv.write (["id", "ts", "level", "message"] ::
    entries.map fun e => [toString e.id, e.timestamp, e.level, e.message]) := by
  have none : ([] : List String).mergeSort (· ≤ ·) = [] := List.mergeSort_nil
  have rows : row [] = fun e => [toString e.id, e.timestamp, e.level, e.message] := funext fun e => by
    rw [row, none, List.map_nil, List.append_nil]
  rw [Export.csv_eq_write, Export.table, header, none, rows, List.append_nil]

theorem runAll_nil (clock : Calendar.Clock) (entries : List Entry) :
    (Extraction.runAll clock .lastWins [] entries).entries = entries ∧
      (Extraction.runAll clock .lastWins [] entries).outcome = .ok {} := by
  have none : Extractor.ordered [] = .ok [] := by simp [Extractor.ordered]
  rw [Extraction.runAll, none]
  exact ⟨rfl, rfl⟩

/-- A message that takes quotation marks comes back. -/
theorem ofCsv_csv_quoted :
    let entries := (Extraction.runAll (.ofSeconds 0 0) .lastWins []
      (parseText (.ofSeconds 0 0) "ERROR a, \"b\"\n  at c")).entries
    ∃ back, ofCsv (.ofSeconds 0 0) (Export.csv entries []) = .ok back ∧ back.map (·.level) = ["ERROR"] ∧
      back.map (·.message) = ["ERROR a, \"b\"\n  at c"] := by
  obtain ⟨-, comesBack⟩ := ofCsv_csv (.ofSeconds 0 0) .lastWins "ERROR a, \"b\"\n  at c" [] []
  have written : Csv.write (["id", "ts", "level", "message"] ::
      (parseText (.ofSeconds 0 0) "ERROR a, \"b\"\n  at c").map fun e =>
        [toString e.id, e.timestamp, e.level, e.message]) =
      "id,ts,level,message\n1,,ERROR,\"ERROR a, \"\"b\"\"\n  at c\"\n" := by decide +kernel
  have loaded : (ofCsv (.ofSeconds 0 0)
      "id,ts,level,message\n1,,ERROR,\"ERROR a, \"\"b\"\"\n  at c\"\n").toOption.isSome = true := by decide +kernel
  dsimp only at comesBack ⊢
  rw [(runAll_nil _ _).1, csv_nil, written] at comesBack ⊢
  cases read : ofCsv (.ofSeconds 0 0) "id,ts,level,message\n1,,ERROR,\"ERROR a, \"\"b\"\"\n  at c\"\n" with
  | error fault =>
      rw [read] at loaded
      contradiction
  | ok back =>
      obtain ⟨-, level, message⟩ := comesBack back read
      exact ⟨back, rfl, level.trans (by decide +kernel), message.trans (by decide +kernel)⟩

/-- A carriage return in the middle of a line is written as it is, and the table is refused. -/
theorem ofCsv_csv_return :
    ¬∀ (text : String) (extractors : List Extractor) (result : Extraction.Result),
      let pass := Extraction.runAll (.ofSeconds 0 0) .lastWins extractors (parseText (.ofSeconds 0 0) text)
      pass.outcome = .ok result →
        ∃ back, ofCsv (.ofSeconds 0 0) (Export.csv pass.entries result.fieldNames) = .ok back := by
  intro loads
  obtain ⟨entries, outcome⟩ := runAll_nil (.ofSeconds 0 0) (parseText (.ofSeconds 0 0) "a\rb")
  obtain ⟨back, loaded⟩ := loads "a\rb" [] {} outcome
  have written : Csv.write (["id", "ts", "level", "message"] :: (parseText (.ofSeconds 0 0) "a\rb").map fun e =>
      [toString e.id, e.timestamp, e.level, e.message]) = "id,ts,level,message\n1,,,a\rb\n" := by decide +kernel
  have refused : ofCsv (.ofSeconds 0 0) "id,ts,level,message\n1,,,a\rb\n" = .error .bareLineBreak := rfl
  rw [entries, csv_nil, written, refused] at loaded
  contradiction

end Import

end LogAnalysis
