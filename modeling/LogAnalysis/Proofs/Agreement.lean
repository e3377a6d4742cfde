import LogAnalysis.Import
import LogAnalysis.Proofs.Csv.Forms
import LogAnalysis.Proofs.Export
import LogAnalysis.Proofs.Tables

/-!
# One table in two formats

A table can be written with commas between its cells, or as JSON objects. Both ways lead to entries with the same numbers, but
of two columns for one part of an entry the first one is taken in a table with commas, where the other one stays a field, and
the one whose name comes first in an object, where the other one is left out. So the entries are the same only for tables in
which neither shows (`Import.ofCsv_ofJson_iff`).
-/

namespace LogAnalysis

open Text (trimmed lowered)
open Import (timestampNames levelNames messageNames standardNames)

/-! ## Cells under names -/

section

variable {header row : List String} {name : String} {i : Nat}

def cellUnder (header row : List String) (name : String) : String := (Members.get? (header.zip row) name).getD ""

theorem zip_eq_map (size : row.length = header.length) (distinct : header.Nodup) :
    header.zip row = header.map fun name => (name, cellUnder header row name) := by
  induction header generalizing row with
  | nil => rfl
  | cons name header ih =>
      obtain ⟨cell, rest, rfl⟩ : ∃ cell rest, row = cell :: rest :=
        List.exists_cons_of_ne_nil (List.ne_nil_of_length_eq_add_one size)
      obtain ⟨new, others⟩ := List.nodup_cons.mp distinct
      have first : cellUnder (name :: header) (cell :: rest) name = cell := by
        simp [cellUnder, Members.get?]
      rw [List.zip_cons_cons, ih (Nat.succ.inj size) others, List.map_cons, first]
      congr 1
      apply List.map_congr_left
      intro other member
      have differ : other ≠ name := fun same => new (same ▸ member)
      simp [cellUnder, Members.get?_cons, differ]

theorem get?_map {α : Type} (f : String → α) (header : List String) (name : String) :
    Members.get? (header.map fun name => (name, f name)) name = if name ∈ header then some (f name) else none := by
  induction header with
  | nil => rfl
  | cons other header ih =>
      rw [List.map_cons, Members.get?_cons, ih]
      by_cases same : name = other <;> simp [same]

theorem cellUnder_of_getElem? (size : row.length = header.length) (distinct : header.Nodup)
    (isName : header[i]? = some name) : (row[i]?).getD "" = cellUnder header row name := by
  have pair : (header.zip row)[i]? = some (name, cellUnder header row name) := by
    rw [zip_eq_map size distinct, List.getElem?_map, isName]
    rfl
  obtain ⟨-, isCell⟩ := List.getElem?_zip_eq_some.mp pair
  rw [isCell]
  rfl

theorem cellUnder_mem (size : row.length = header.length) (distinct : header.Nodup) (member : name ∈ header) :
    cellUnder header row name ∈ row := by
  have pair : (name, cellUnder header row name) ∈ header.zip row := by
    rw [zip_eq_map size distinct]
    exact List.mem_map_of_mem member
  exact (List.of_mem_zip pair).2

theorem findIdx?_eq_some_iff (distinct : header.Nodup) (isName : header[i]? = some name) (p : String → Bool) :
    header.findIdx? p = some i ↔ header.find? p = some name := by
  have bound : i < header.length := (List.getElem?_eq_some_iff.mp isName).1
  rw [List.find?_eq_bind_findIdx?_getElem?, Option.bind_eq_some_iff]
  constructor
  · exact fun found => ⟨i, found, isName⟩
  · rintro ⟨j, found, same⟩
    rw [found, List.getElem?_inj bound distinct |>.mp (isName.trans same.symm)]

theorem cellAt_findIdx? (size : row.length = header.length) (distinct : header.Nodup) (p : String → Bool) :
    Import.cellAt row (header.findIdx? p) = (header.find? p).elim "" (cellUnder header row) := by
  rw [List.find?_eq_bind_findIdx?_getElem?]
  cases found : header.findIdx? p with
  | none => rfl
  | some i =>
      obtain ⟨bound, -⟩ := List.findIdx?_eq_some_iff_getElem.mp found
      have isName := List.getElem?_eq_getElem bound
      rw [Option.bind_some, isName]
      exact cellUnder_of_getElem? size distinct isName

end

/-! ## Two ways to read a row -/

def partNames : List (List String) := [timestampNames, levelNames, messageNames]

structure Reading where
  header : List String
  column : List String → Option String
  isField : String → Bool

namespace Reading

def byColumn (header : List String) : Reading where
  header
  column names := header.find? names.contains
  isField name := Entry.isFieldName name &&
    !partNames.any fun names => header.find? names.contains == some name

def byName (header : List String) : Reading where
  header
  column names := names.find? header.contains
  isField name := Entry.isFieldName name && !standardNames.contains name

theorem header_byColumn (header : List String) : (byColumn header).header = header := rfl

theorem header_byName (header : List String) : (byName header).header = header := rfl

/-- The cell for the part that has these names; the empty text where there is no column for it. -/
def cell (r : Reading) (row names : List String) : String := (r.column names).elim "" (cellUnder r.header row)

theorem cell_byColumn (header row names : List String) :
    (byColumn header).cell row names = (header.find? names.contains).elim "" (cellUnder header row) := rfl

theorem cell_byName (header row names : List String) :
    (byName header).cell row names = (names.find? header.contains).elim "" (cellUnder header row) := rfl

theorem isField_byColumn (header : List String) (name : String) : (byColumn header).isField name =
    (Entry.isFieldName name &&
      !partNames.any fun names => header.find? names.contains == some name) := rfl

theorem isField_byName (header : List String) (name : String) :
    (byName header).isField name = (Entry.isFieldName name && !standardNames.contains name) := rfl

variable (r : Reading) (clock : Calendar.Clock) (row : List String)

/-- The number of a row, and the number for the next one that has none of its own. -/
def number (next : Nat) : Int × Nat :=
  let given := r.cell row ["id"]
  if given = "" then (next, next + 1) else ((Import.entryId? (.text given)).getD next, next)

def timestamp : String := Import.timestampText clock (.text (r.cell row timestampNames))

def level : String := canonicalLevel (r.cell row levelNames)

def message : String := r.cell row messageNames

def fields : Members Value :=
  (r.header.filter r.isField).map fun name => (name, .list [.text (cellUnder r.header row name)])

structure Gives (id : Int) (e : Entry) : Prop where
  id : e.id = id
  timestamp : e.timestamp = r.timestamp clock row
  level : e.level = r.level row
  message : e.message = r.message row
  fields : e.fields = r.fields row

end Reading

structure IsFull (header row : List String) : Prop where
  distinct : header.Nodup
  size : row.length = header.length
  nonempty : ∀ cell ∈ row, cell ≠ ""
  trimmed : ∀ cell ∈ row, trimmed cell = cell
  single : ∀ cell ∈ row, Text.startsWith cell "[" = false

section

variable {header row : List String} {name : String} {clock : Calendar.Clock}

theorem IsFull.cellUnder_ne (full : IsFull header row) (member : name ∈ header) : cellUnder header row name ≠ "" :=
  full.nonempty _ (cellUnder_mem full.size full.distinct member)

def Reading.addField (r : Reading) (row : List String) (fields : Members Value) (name : String) : Members Value :=
  if r.isField name then Members.put fields name (.list [.text (cellUnder r.header row name)]) else fields

theorem Reading.names_fields (r : Reading) (row : List String) :
    Members.names (r.fields row) = r.header.filter r.isField := by
  rw [Members.names, Reading.fields, List.map_map]
  exact List.map_id _

theorem Reading.foldl_addField (r : Reading) (distinct : r.header.Nodup) (row : List String) :
    r.header.foldl (r.addField row) [] = r.fields row := by
  have added := Members.putAll_of_new [] (r.fields row) (by rw [List.nil_append, r.names_fields]; exact distinct.filter _)
  rw [List.nil_append, Members.putAll, Reading.fields, List.foldl_map, List.foldl_filter] at added
  exact added

/-! ### A row with commas -/

namespace Import

theorem isStandard_ofHeaders {headers : List String} {i : Nat} (distinct : headers.Nodup)
    (same : headers.map (fun h => lowered (trimmed h)) = headers) (isName : headers[i]? = some name)
    (isField : Entry.isFieldName name = true) : (Columns.ofHeaders headers).isStandard i =
      partNames.any fun names => headers.find? names.contains == some name := by
  have reserved (other : String) (named : Entry.isFieldName other = false) :
      headers.findIdx? [other].contains ≠ some i := by
    rw [ne_eq, findIdx?_eq_some_iff distinct isName]
    intro found
    have isOther : name = other := by simpa using List.find?_some found
    exact absurd isField (by simp [isOther, named])
  have id := reserved "id" (by decide)
  have raw := reserved "raw" (by decide)
  rw [Columns.isStandard, Columns.ofHeaders, same, partNames, Bool.eq_iff_iff]
  simp [eq_comm (a := some i), id, raw, findIdx?_eq_some_iff distinct isName]

theorem cellField_of_single {cell : String} (single : Text.startsWith cell "[" = false) :
    cellField cell = .ok (.list [.text cell]) := by
  rw [cellField, single]
  rfl

theorem rowFields_eq_ok (full : IsFull header row) (same : header.map (fun h => lowered (trimmed h)) = header) :
    rowFields (.ofHeaders header) row = .ok ((Reading.byColumn header).fields row) := by
  have headers : (Columns.ofHeaders header).headers = header := same
  rw [rowFields, headers, Outcome.foldlM_of_ok (g := fun fields x => (Reading.byColumn header).addField row fields x.1)]
  · rw [← List.foldl_map (f := Prod.fst) (g := (Reading.byColumn header).addField row), List.zipIdx_map_fst]
    exact congrArg _ ((Reading.byColumn header).foldl_addField full.distinct row)
  · rintro fields ⟨name, i⟩ member
    have isName := List.mem_zipIdx_iff_getElem?.mp member
    have inHeader := List.mem_of_getElem? isName
    have cell : cellAt row (some i) = cellUnder header row name := cellUnder_of_getElem? full.size full.distinct isName
    have nonempty := full.cellUnder_ne inHeader
    have field := cellField_of_single (full.single _ (cellUnder_mem full.size full.distinct inHeader))
    dsimp only
    rw [cell, Reading.addField, Reading.isField_byColumn, Reading.header_byColumn]
    cases named : Entry.isFieldName name with
    | false => simp
    | true =>
        rw [isStandard_ofHeaders full.distinct same isName named]
        generalize partNames.any _ = used
        cases used with
        | true => simp
        | false => simp [nonempty, field]

theorem rowEntry_eq_ok (clock : Calendar.Clock) (full : IsFull header row)
    (same : header.map (fun h => lowered (trimmed h)) = header) (next : Nat) :
    ∃ e, rowEntry clock (.ofHeaders header) next row = .ok (e, ((Reading.byColumn header).number row next).2) ∧
      (Reading.byColumn header).Gives clock row ((Reading.byColumn header).number row next).1 e := by
  have cell (names : List String) :
      cellAt row (header.findIdx? names.contains) = (Reading.byColumn header).cell row names :=
    cellAt_findIdx? full.size full.distinct names.contains
  have timestamp (stamp : String) : (if stamp = "" then "" else timestampText clock (.text stamp)) =
      timestampText clock (.text stamp) := by
    split
    · next empty => rw [empty]; rfl
    · rfl
  have fields := rowFields_eq_ok full same
  rw [rowEntry, fields]
  simp only [Columns.ofHeaders, same, cell, timestamp, Outcome.ok_bind, Outcome.pure_eq, Reading.number]
  refine ⟨_, rfl, ?_⟩
  constructor <;> simp only [Entry.make, Reading.timestamp, Reading.level, Reading.message]

/-! ### A row as an object -/

theorem zip_map_text (full : IsFull header row) :
    header.zip (row.map Value.text) = header.map fun name => (name, .text (cellUnder header row name)) := by
  rw [List.zip_map_right, zip_eq_map full.size full.distinct, List.map_map]
  rfl

theorem firstPresent_eq (full : IsFull header row) (names : List String) :
    firstPresent (header.zip (row.map Value.text)) names =
      (names.find? header.contains).map fun name => .text (cellUnder header row name) := by
  rw [firstPresent, zip_map_text full]
  induction names with
  | nil => rfl
  | cons name names ih =>
      rw [List.findSome?_cons, List.find?_cons, ih, get?_map]
      by_cases member : name ∈ header
      · have nonempty := full.cellUnder_ne member
        simp [member, nonempty]
      · simp [member]

theorem elim_firstPresent_row (full : IsFull header row) (names : List String) (read : Value → String)
    (empty : read (.text "") = "") : (firstPresent (header.zip (row.map Value.text)) names).elim "" read =
      read (.text ((Reading.byName header).cell row names)) := by
  rw [firstPresent_eq full, Reading.cell_byName]
  cases names.find? header.contains with
  | none => exact empty.symm
  | some name => rfl

theorem addFields_row (full : IsFull header row) :
    addFields standardNames (header.zip (row.map Value.text)) [] = (Reading.byName header).fields row := by
  have step (fields : Members Value) (name : String) :
      (if standardNames.contains name || !Entry.isFieldName name then fields
        else Members.put fields name (fieldOf (.text (cellUnder header row name)))) =
      (Reading.byName header).addField row fields name := by
    rw [Reading.addField, Reading.isField_byName]
    cases Entry.isFieldName name <;> cases standardNames.contains name <;> rfl
  rw [addFields, zip_map_text full, List.foldl_map]
  simp only [step]
  exact (Reading.byName header).foldl_addField full.distinct row

theorem objectEntry_row (clock : Calendar.Clock) (full : IsFull header row) (next : Nat) :
    ∃ e, objectEntry clock next (header.zip (row.map Value.text)) = (e, ((Reading.byName header).number row next).2) ∧
      (Reading.byName header).Gives clock row ((Reading.byName header).number row next).1 e := by
  have timestamp := elim_firstPresent_row full timestampNames (timestampText clock) rfl
  have level := elim_firstPresent_row full levelNames canonicalLevelOf canonicalLevel_empty
  have message := elim_firstPresent_row full messageNames Value.display rfl
  have fields := addFields_row full
  have member (name : String) : Members.get? (header.zip (row.map Value.text)) name =
      if name ∈ header then some (.text (cellUnder header row name)) else none := by
    rw [zip_map_text full, get?_map]
  generalize header.zip (row.map Value.text) = members at *
  have numbered : ((objectEntry clock next members).1.id, (objectEntry clock next members).2) =
      (Reading.byName header).number row next := by
    rw [Reading.number, Reading.cell_byName]
    by_cases given : "id" ∈ header
    · have isText : Members.get? members "id" = some (.text (cellUnder header row "id")) := by rw [member, if_pos given]
      have nonempty := full.cellUnder_ne given
      simp [objectEntry, isText, given, nonempty, Value.ofOption, Entry.make]
    · have missing : Members.get? members "id" = none := by rw [member, if_neg given]
      simp [objectEntry, missing, given, Value.ofOption, Entry.make]
  -- A text under the name of the nested fields adds none.
  have added : (objectEntry clock next members).1.fields = addFields standardNames members [] := by
    by_cases nested : "fields" ∈ header
    · have isText : Members.get? members "fields" = some (.text (cellUnder header row "fields")) := by
        rw [member, if_pos nested]
      simp [objectEntry, isText, Value.ofOption, Entry.make]
    · have missing : Members.get? members "fields" = none := by rw [member, if_neg nested]
      simp [objectEntry, missing, Value.ofOption, Entry.make]
  exact ⟨(objectEntry clock next members).1, by rw [← numbered], by rw [← numbered], timestamp, level, message,
    added.trans fields⟩

end Import

/-! ## Agreement -/

structure Entry.SameParts (e f : Entry) : Prop where
  id : e.id = f.id
  timestamp : e.timestamp = f.timestamp
  level : e.level = f.level
  message : e.message = f.message
  fields : e.fields = f.fields

/-- Both ways to read a row find the same timestamp, level and message. -/
structure ReadAlike (clock : Calendar.Clock) (header row : List String) : Prop where
  timestamp : (Reading.byColumn header).timestamp clock row = (Reading.byName header).timestamp clock row
  level : (Reading.byColumn header).level row = (Reading.byName header).level row
  message : (Reading.byColumn header).message row = (Reading.byName header).message row

/-- A column that could make a field, but has one of the names for a part, is the column that is taken for this part. -/
def UsesAll (header : List String) : Prop :=
  ∀ name ∈ header, name ∈ standardNames → Entry.isFieldName name = true →
    ∃ names ∈ partNames, header.find? names.contains = some name

theorem isField_byColumn_iff : (Reading.byColumn header).isField name = true ↔ Entry.isFieldName name = true ∧
    ¬∃ names ∈ partNames, header.find? names.contains = some name := by
  simp [Reading.isField_byColumn]

theorem isField_byName_iff :
    (Reading.byName header).isField name = true ↔ Entry.isFieldName name = true ∧ name ∉ standardNames := by
  simp [Reading.isField_byName]

theorem fields_eq_iff (header row : List String) :
    (Reading.byColumn header).fields row = (Reading.byName header).fields row ↔ UsesAll header := by
  constructor
  · intro same name member standard named
    have filtered : header.filter (Reading.byColumn header).isField = header.filter (Reading.byName header).isField := by
      have names := congrArg Members.names same
      rwa [Reading.names_fields, Reading.names_fields] at names
    by_contra unused
    have kept := List.mem_filter.mpr ⟨member, isField_byColumn_iff.mpr ⟨named, unused⟩⟩
    rw [filtered] at kept
    exact (isField_byName_iff.mp (List.mem_filter.mp kept).2).2 standard
  · intro uses
    have standard : ∀ names ∈ partNames, ∀ name ∈ names, name ∈ standardNames := by decide
    have filtered : header.filter (Reading.byColumn header).isField = header.filter (Reading.byName header).isField := by
      refine List.filter_congr fun name member => ?_
      rw [Bool.eq_iff_iff, isField_byColumn_iff, isField_byName_iff]
      refine and_congr_right fun named => ⟨mt fun isStandard => uses name member isStandard named, mt ?_⟩
      rintro ⟨names, isPart, found⟩
      exact standard names isPart name (List.contains_iff_mem.mp (List.find?_some found))
    rw [Reading.fields, Reading.fields, Reading.header_byColumn, Reading.header_byName, filtered]

theorem find?_singleton (header : List String) (name : String) :
    header.find? [name].contains = [name].find? header.contains := by
  induction header with
  | nil => rfl
  | cons other header ih =>
      rw [List.find?_cons, ih]
      by_cases same : other = name
      · simp [same]
      · simp [same, Ne.symm same]

theorem number_eq (header row : List String) (next : Nat) :
    (Reading.byColumn header).number row next = (Reading.byName header).number row next := by
  rw [Reading.number, Reading.number, Reading.cell_byColumn, Reading.cell_byName, find?_singleton]

namespace Import

/-- The two entries of a row have the same parts if both ways to read it find the same parts and leave no column over. -/
theorem sameParts_iff (clock : Calendar.Clock) (full : IsFull header row)
    (same : header.map (fun h => lowered (trimmed h)) = header) (next : Nat) : ∃ e f after,
      rowEntry clock (.ofHeaders header) next row = .ok (e, after) ∧
        objectEntry clock next (header.zip (row.map Value.text)) = (f, after) ∧
        (e.SameParts f ↔ UsesAll header ∧ ReadAlike clock header row) := by
  obtain ⟨e, read, given⟩ := rowEntry_eq_ok clock full same next
  obtain ⟨f, readObject, givenObject⟩ := objectEntry_row clock full next
  rw [number_eq] at read given
  refine ⟨e, f, _, read, readObject, ?_⟩
  rw [← fields_eq_iff header row]
  constructor
  · rintro ⟨-, timestamp, level, message, fields⟩
    refine ⟨?_, ?_, ?_, ?_⟩
    · rw [← given.fields, fields, givenObject.fields]
    · rw [← given.timestamp, timestamp, givenObject.timestamp]
    · rw [← given.level, level, givenObject.level]
    · rw [← given.message, message, givenObject.message]
  · rintro ⟨fields, timestamp, level, message⟩
    constructor
    · rw [given.id, givenObject.id]
    · rw [given.timestamp, timestamp, givenObject.timestamp]
    · rw [given.level, level, givenObject.level]
    · rw [given.message, message, givenObject.message]
    · rw [given.fields, fields, givenObject.fields]

theorem isBlankRow_full (full : IsFull header row) (nonempty : header ≠ []) : isBlankRow row = false := by
  cases row with
  | nil => exact absurd (List.eq_nil_of_length_eq_zero full.size.symm) nonempty
  | cons cell rest =>
      cases rest with
      | nil => exact decide_eq_false (full.nonempty cell List.mem_cons_self)
      | cons _ _ => rfl

theorem rowEntries_full (clock : Calendar.Clock) {rows : List (List String)} (full : ∀ row ∈ rows, IsFull header row)
    (same : header.map (fun h => lowered (trimmed h)) = header) (nonempty : header ≠ []) (next : Nat) :
    ∃ entries, rowEntries clock (.ofHeaders header) none next rows = .ok entries ∧ entries.length = rows.length ∧
      (List.Forall₂ Entry.SameParts entries
          (valueEntries clock next (rows.map fun row => .object (header.zip (row.map Value.text)))) ↔
        ∀ row ∈ rows, UsesAll header ∧ ReadAlike clock header row) := by
  induction rows generalizing next with
  | nil => exact ⟨[], rfl, rfl, iff_of_true .nil nofun⟩
  | cons row rest ih =>
      obtain ⟨first, others⟩ := List.forall_mem_cons.mp full
      obtain ⟨e, f, after, read, readObject, alike⟩ := sameParts_iff clock first same next
      obtain ⟨entries, readRest, length, alikeRest⟩ := ih others after
      have trimmedRow : row.map trimmed = row := List.map_congr_left first.trimmed |>.trans (List.map_id row)
      refine ⟨e :: entries, ?_, congrArg (· + 1) length, ?_⟩
      · have rest : (rowEntries clock (.ofHeaders header) none after rest >>= fun others => pure (e :: others)) =
            .ok (e :: entries) := by
          rw [readRest]
          rfl
        rw [rowEntries, trimmedRow, isBlankRow_full first nonempty, read]
        exact rest
      · rw [List.map_cons, valueEntries, readObject, List.forall₂_cons, List.forall_mem_cons, alike, alikeRest]

end Import

end

/-! ## Tables -/

structure Table where
  header : List String
  rows : List (List String)

namespace Table

def records (t : Table) : List (List String) := t.header :: t.rows

def toValue (t : Table) : Value := .list (t.rows.map fun row => .object (t.header.zip (row.map .text)))

/-- The names are distinct and in lower case, no name and no cell is empty or has white space around it, and no cell could be
taken for a list. -/
structure IsPlain (t : Table) : Prop where
  distinct : t.header.Nodup
  names : ∀ name ∈ t.header, name ≠ "" ∧ trimmed name = name ∧ lowered name = name
  size : ∀ row ∈ t.rows, row.length = t.header.length
  cells : ∀ row ∈ t.rows, ∀ cell ∈ row, cell ≠ "" ∧ trimmed cell = cell ∧ Text.startsWith cell "[" = false

variable {t : Table}

theorem IsPlain.isFull (plain : t.IsPlain) : ∀ row ∈ t.rows, IsFull t.header row := fun row member => {
  distinct := plain.distinct
  size := plain.size row member
  nonempty := fun cell inRow => (plain.cells row member cell inRow).1
  trimmed := fun cell inRow => (plain.cells row member cell inRow).2.1
  single := fun cell inRow => (plain.cells row member cell inRow).2.2 }

theorem IsPlain.headers (plain : t.IsPlain) : t.header.map (fun h => lowered (trimmed h)) = t.header := by
  have same : ∀ name ∈ t.header, lowered (trimmed name) = id name := by
    intro name member
    obtain ⟨-, isTrimmed, isLowered⟩ := plain.names name member
    rw [isTrimmed, isLowered, id]
  rw [List.map_congr_left same, List.map_id]

theorem IsPlain.nonempty (plain : t.IsPlain) : ∀ record ∈ t.records, ∀ cell ∈ record, cell ≠ "" := by
  refine List.forall_mem_cons.mpr ⟨fun name member => (plain.names name member).1, fun row member cell inRow => ?_⟩
  exact (plain.cells row member cell inRow).1

theorem IsPlain.isExact (plain : t.IsPlain) : t.toValue.IsExact := by
  refine .list fun v member => ?_
  obtain ⟨row, inRows, rfl⟩ := List.mem_map.mp member
  have names : Members.names (t.header.zip (row.map Value.text)) = t.header :=
    List.map_fst_zip (by rw [List.length_map, plain.size row inRows])
  refine .object (by rw [names]; exact plain.distinct) fun m inMembers => ?_
  obtain ⟨cell, -, isText⟩ := List.mem_map.mp (List.of_mem_zip inMembers).2
  exact isText ▸ .text cell

end Table

theorem isBlankString_of_trimmed {s : String} (nonempty : s ≠ "") (isTrimmed : trimmed s = s) :
    Text.isBlankString s = false := by
  refine Bool.eq_false_iff.mpr fun blank => nonempty ?_
  have dropped : s.toList.dropWhile Text.isBlank = [] := List.dropWhile_eq_nil_iff.mpr (List.all_eq_true.mp blank)
  rw [← isTrimmed, trimmed, Text.trim, dropped]
  rfl

namespace Import

variable {clock : Calendar.Clock} {t : Table} {csv json : String}

theorem ofCsv_of_records (plain : t.IsPlain) (some : t.header ≠ []) (read : Csv.records csv = (t.records, none)) :
    ofCsv clock csv = rowEntries clock (.ofHeaders t.header) none 1 t.rows := by
  obtain ⟨name, names, isHeader⟩ := List.exists_cons_of_ne_nil some
  obtain ⟨nonempty, isTrimmed, -⟩ := plain.names name (isHeader ▸ List.mem_cons_self)
  have notBlank : ¬t.header.all Text.isBlankString = true := by
    rw [isHeader, List.all_cons, isBlankString_of_trimmed nonempty isTrimmed]
    exact nofun
  have kept : t.records.dropWhile (·.all Text.isBlankString) = t.header :: t.rows := List.dropWhile_cons_of_neg notBlank
  rw [ofCsv, read]
  dsimp only
  rw [kept]

/-- Both texts are read, and row by row their entries have the same parts. -/
def ReadSame (clock : Calendar.Clock) (t : Table) (csv json : String) : Prop :=
  ∃ rows objects, ofCsv clock csv = .ok rows ∧ ofJson clock json = .ok objects ∧ rows.length = t.rows.length ∧
    List.Forall₂ Entry.SameParts rows objects

theorem readSame_iff_of_records (plain : t.IsPlain) (some : t.header ≠ []) (read : Csv.records csv = (t.records, none))
    (isJson : Json.parse json = .ok t.toValue) :
    ReadSame clock t csv json ↔ ∀ row ∈ t.rows, UsesAll t.header ∧ ReadAlike clock t.header row := by
  obtain ⟨entries, readRows, length, alike⟩ := rowEntries_full clock plain.isFull plain.headers some 1
  have readCsv : ofCsv clock csv = .ok entries := (ofCsv_of_records plain some read).trans readRows
  have readJson : ofJson clock json =
      .ok (valueEntries clock 1 (t.rows.map fun row => .object (t.header.zip (row.map .text)))) := by
    rw [ofJson, isJson, Table.toValue]
  rw [← alike]
  constructor
  · rintro ⟨rows, objects, isRows, isObjects, -, same⟩
    obtain rfl := Except.ok.inj (readCsv.symm.trans isRows)
    obtain rfl := Except.ok.inj (readJson.symm.trans isObjects)
    exact same
  · exact fun same => ⟨entries, _, readCsv, readJson, length, same⟩

/-- One column for each part, none of them under the first of its names, and one that makes a field. -/
def calls : Table where
  header := ["user", "msg", "id", "severity", "time"]
  rows := [["bob", "said \"hi\", and left", "7", "warn", "2024-01-02T03:04:05Z"], ["eve", "called", "x", "info", "noon"]]

theorem isPlain_calls : calls.IsPlain where
  distinct := by decide
  names := by decide
  size := by decide
  cells := by decide

def levels : Table := ⟨["level", "severity"], [["info", "error"]]⟩

end Import

end LogAnalysis
