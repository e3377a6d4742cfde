import LogAnalysis.CommandLine.Run
import LogAnalysis.Proofs.Calls
import LogAnalysis.Proofs.Csv.Faults
import LogAnalysis.Proofs.Tables

/-!
# Files as one document

Files that can be opened are loaded, or refused with a report, whatever they hold; but where the reader of tables stops in
one of them, the command line has no report, and fails itself (`Session.loadFiles_reported_iff`). The size of the chunks in
which a log is read shows nowhere (`Session.loadFiles_log`).
-/

namespace LogAnalysis

open Text (trimmed)

def Fault.IsRefusal (fault : Fault) : Prop := ∃ cause, fault = .unacceptable cause

theorem CommandLine.returns_or_reports_iff {α : Type} {o : Outcome α} :
    ((∃ a, o = .ok a) ∨ ∃ cause, o = .error (.unacceptable cause) ∧ reportRefused o = failWith 1 cause.message) ↔
      ∀ fault, ¬(o = .error fault ∧ ¬fault.IsRefusal) := by
  cases o with
  | ok a => simp
  | error fault =>
      constructor
      · rintro (⟨a, returns⟩ | ⟨cause, refused, -⟩)
        · contradiction
        · rintro other ⟨same, unreported⟩
          exact unreported ⟨cause, Except.error.inj (same.symm.trans refused)⟩
      · intro reported
        obtain ⟨cause, rfl⟩ : fault.IsRefusal := by
          by_contra unreported
          exact reported fault ⟨rfl, unreported⟩
        exact .inr ⟨cause, rfl, rfl⟩

/-! ## Tables -/

namespace Import

def tableOf (text : String) : List (List String) := (Csv.records text).1.dropWhile (·.all Text.isBlankString)

def columnsOf (text : String) : Columns := .ofHeaders ((tableOf text).headD [])

theorem ofCsv_eq_rowEntries (clock : Calendar.Clock) (text : String) :
    ofCsv clock text = rowEntries clock (columnsOf text) (Csv.records text).2 1 (tableOf text).tail := by
  unfold ofCsv columnsOf tableOf
  dsimp only
  split
  · next noHeader => rw [noHeader]; rfl
  · next header rows isHeader => rw [isHeader]; rfl

def HasLongNumber (columns : Columns) (cells : List String) : Prop :=
  ∃ name i, columns.headers[i]? = some name ∧ columns.isStandard i = false ∧ Entry.isFieldName name = true ∧
    HoldsLongNumber (cellAt cells (some i))

section

variable {clock : Calendar.Clock} {columns : Columns} {cells : List String} {fault : Fault}

theorem not_holdsLongNumber_empty : ¬HoldsLongNumber "" := fun long => absurd long.1 (by decide)

theorem cellField_refused {cell : String} (failed : cellField cell = .error fault) : fault.IsRefusal := by
  unfold cellField at failed
  split at failed
  · split at failed
    · contradiction
    · contradiction
    · split at failed
      · exact ⟨_, (Except.error.inj failed).symm⟩
      · contradiction
  · contradiction

theorem exists_rowFields_iff : (∃ fields, rowFields columns cells = .ok fields) ↔ ¬HasLongNumber columns cells := by
  rw [rowFields, Outcome.exists_foldlM_iff (P := fun x => ¬(columns.isStandard x.2 = false ∧
    Entry.isFieldName x.1 = true ∧ HoldsLongNumber (cellAt cells (some x.2))))]
  · constructor
    · rintro taken ⟨name, i, isName, makesField⟩
      exact taken (name, i) (List.mem_zipIdx_iff_getElem?.mpr isName) makesField
    · rintro short ⟨name, i⟩ member makesField
      exact short ⟨name, i, List.mem_zipIdx_iff_getElem?.mp member, makesField⟩
  · -- A step fails just where a field is made of a cell with such a number.
    rintro fields ⟨name, i⟩ -
    dsimp only
    split
    · next left =>
        refine iff_of_true ⟨fields, rfl⟩ ?_
        rintro ⟨isField, isName, long⟩
        have empty : cellAt cells (some i) = "" := by simpa [isField, isName] using left
        exact not_holdsLongNumber_empty (empty ▸ long)
    · next makesField =>
        have named : columns.isStandard i = false ∧ Entry.isFieldName name = true := by simp_all
        rw [← and_assoc, and_iff_right named, ← exists_cellField_iff]
        constructor
        · rintro ⟨more, added⟩
          obtain ⟨v, isField, -⟩ := Outcome.bind_eq_ok.mp added
          exact ⟨v, isField⟩
        · rintro ⟨v, isField⟩
          exact ⟨_, Outcome.bind_eq_ok.mpr ⟨v, isField, rfl⟩⟩

theorem rowFields_refused (failed : rowFields columns cells = .error fault) : fault.IsRefusal := by
  obtain ⟨fields, ⟨name, i⟩, -, stops⟩ := Outcome.exists_of_foldlM_error failed
  dsimp only at stops
  split at stops
  · contradiction
  · cases isField : cellField (cellAt cells (some i)) with
    | error other =>
        rw [isField] at stops
        obtain rfl := Except.error.inj stops
        exact cellField_refused isField
    | ok v =>
        rw [isField] at stops
        contradiction

theorem rowEntry_eq_bind (clock : Calendar.Clock) (columns : Columns) (next : Nat) (cells : List String) :
    ∃ make : Members Value → Entry × Nat,
      rowEntry clock columns next cells = rowFields columns cells >>= fun fields => .ok (make fields) :=
  ⟨_, rfl⟩

theorem rowEntry_of_short (clock : Calendar.Clock) (next : Nat) (short : ¬HasLongNumber columns cells) :
    ∃ made, rowEntry clock columns next cells = .ok made := by
  obtain ⟨make, whole⟩ := rowEntry_eq_bind clock columns next cells
  obtain ⟨fields, taken⟩ := exists_rowFields_iff.mpr short
  exact ⟨make fields, by rw [whole, taken, Outcome.ok_bind]⟩

theorem rowEntry_of_long (clock : Calendar.Clock) (next : Nat) (long : HasLongNumber columns cells) :
    ∃ fault, rowEntry clock columns next cells = .error fault ∧ fault.IsRefusal := by
  obtain ⟨make, whole⟩ := rowEntry_eq_bind clock columns next cells
  cases taken : rowFields columns cells with
  | ok fields => exact absurd long (exists_rowFields_iff.mp ⟨fields, taken⟩)
  | error fault => exact ⟨fault, by rw [whole, taken, Outcome.error_bind], rowFields_refused taken⟩

theorem cellAt_of_blank (blank : isBlankRow cells = true) (column : Option Nat) : cellAt cells column = "" := by
  cases cells with
  | nil => cases column <;> rfl
  | cons cell rest =>
      cases rest with
      | nil =>
          have empty : cell = "" := by simpa [isBlankRow] using blank
          cases column with
          | none => rfl
          | some i => cases i <;> simp [cellAt, empty]
      | cons other rest => exact absurd blank Bool.false_ne_true

theorem not_hasLongNumber_of_blank (blank : isBlankRow cells = true) : ¬HasLongNumber columns cells := by
  rintro ⟨name, i, -, -, -, long⟩
  rw [cellAt_of_blank blank] at long
  exact not_holdsLongNumber_empty long

/-! ### Rows -/

variable {row : List String} {rest rows : List (List String)} {stop : Option Fault} {next : Nat}

theorem rowEntries_cons_of_blank (blank : isBlankRow (row.map trimmed) = true) :
    rowEntries clock columns stop next (row :: rest) = rowEntries clock columns stop next rest := by
  rw [rowEntries, if_pos blank]

theorem rowEntries_cons_of_made (filled : ¬isBlankRow (row.map trimmed) = true) {e : Entry} {after : Nat}
    (made : rowEntry clock columns next (row.map trimmed) = .ok (e, after)) :
    rowEntries clock columns stop next (row :: rest) =
      rowEntries clock columns stop after rest >>= fun entries => .ok (e :: entries) := by
  rw [rowEntries, if_neg filled, made]
  rfl

theorem rowEntries_of_short (next : Nat) (short : ∀ row ∈ rows, ¬HasLongNumber columns (row.map trimmed)) :
    (∃ entries, rowEntries clock columns none next rows = .ok entries) ∧
      ∀ fault, rowEntries clock columns (some fault) next rows = .error fault := by
  induction rows generalizing next with
  | nil => exact ⟨⟨[], rfl⟩, fun _ => rfl⟩
  | cons row rest ih =>
      obtain ⟨first, others⟩ := List.forall_mem_cons.mp short
      by_cases blank : isBlankRow (row.map trimmed) = true
      · simp only [rowEntries_cons_of_blank blank]
        exact ih next others
      · obtain ⟨⟨e, after⟩, made⟩ := rowEntry_of_short clock next first
        obtain ⟨⟨entries, taken⟩, stops⟩ := ih after others
        constructor
        · exact ⟨e :: entries, by rw [rowEntries_cons_of_made blank made, taken, Outcome.ok_bind]⟩
        · intro fault
          rw [rowEntries_cons_of_made blank made, stops, Outcome.error_bind]

theorem rowEntries_of_long (stop : Option Fault) (next : Nat)
    (long : ∃ row ∈ rows, HasLongNumber columns (row.map trimmed)) :
    ∃ fault, rowEntries clock columns stop next rows = .error fault ∧ fault.IsRefusal := by
  induction rows generalizing next with
  | nil =>
      obtain ⟨row, member, -⟩ := long
      contradiction
  | cons row rest ih =>
      have firstOrLater := List.or_exists_of_exists_mem_cons long
      by_cases blank : isBlankRow (row.map trimmed) = true
      · rw [rowEntries_cons_of_blank blank]
        exact ih next (firstOrLater.resolve_left (not_hasLongNumber_of_blank blank))
      · by_cases first : HasLongNumber columns (row.map trimmed)
        · obtain ⟨fault, failed, refused⟩ := rowEntry_of_long clock next first
          refine ⟨fault, ?_, refused⟩
          rw [rowEntries, if_neg blank, failed]
          rfl
        · obtain ⟨⟨e, after⟩, made⟩ := rowEntry_of_short clock next first
          obtain ⟨fault, failed, refused⟩ := ih after (firstOrLater.resolve_left first)
          exact ⟨fault, by rw [rowEntries_cons_of_made blank made, failed, Outcome.error_bind], refused⟩

/-! ### Texts -/

variable {text : String}

def HasShortNumbers (text : String) : Prop :=
  ∀ row ∈ (tableOf text).tail, ¬HasLongNumber (columnsOf text) (row.map trimmed)

def IsTable (text : String) : Prop := (Csv.records text).2 = none ∧ HasShortNumbers text

/-- The reader of tables stops in the text, and all rows up to there can be taken. -/
def StopsBy (text : String) (fault : Fault) : Prop := (Csv.records text).2 = some fault ∧ HasShortNumbers text

theorem StopsBy.not_isRefusal (stops : StopsBy text fault) : ¬fault.IsRefusal := by
  rintro ⟨cause, rfl⟩
  rcases Csv.fault_of_records stops.1 with long | bare <;> contradiction

theorem ofCsv_of_stopsBy (clock : Calendar.Clock) (stops : StopsBy text fault) : ofCsv clock text = .error fault := by
  rw [ofCsv_eq_rowEntries, stops.1]
  exact (rowEntries_of_short 1 stops.2).2 fault

theorem ofCsv_of_isTable (clock : Calendar.Clock) (table : IsTable text) : ∃ entries, ofCsv clock text = .ok entries := by
  rw [ofCsv_eq_rowEntries, table.1]
  exact (rowEntries_of_short 1 table.2).1

theorem ofCsv_cases (clock : Calendar.Clock) (text : String) :
    IsTable text ∨ (∃ fault, StopsBy text fault) ∨ ∃ fault, ofCsv clock text = .error fault ∧ fault.IsRefusal := by
  by_cases short : HasShortNumbers text
  · cases stop : (Csv.records text).2 with
    | none => exact .inl ⟨stop, short⟩
    | some fault => exact .inr (.inl ⟨fault, stop, short⟩)
  · unfold HasShortNumbers at short
    push Not at short
    rw [ofCsv_eq_rowEntries]
    exact .inr (.inr (rowEntries_of_long _ 1 short))

theorem exists_ofCsv_iff (clock : Calendar.Clock) : (∃ entries, ofCsv clock text = .ok entries) ↔ IsTable text := by
  constructor
  · rintro ⟨entries, read⟩
    rcases ofCsv_cases clock text with table | ⟨fault, stops⟩ | ⟨fault, failed, -⟩
    · exact table
    · rw [ofCsv_of_stopsBy clock stops] at read
      contradiction
    · rw [failed] at read
      contradiction
  · exact ofCsv_of_isTable clock

theorem ofJson_refused (failed : ofJson clock text = .error fault) : fault.IsRefusal := by
  unfold ofJson at failed
  split at failed
  · exact ⟨_, (Except.error.inj failed).symm⟩
  · contradiction
  · contradiction

/-- Whatever a document holds, it is refused if it cannot be read, unless it is a table in which the reader stops. -/
theorem read_not_refused_iff {format : DocumentFormat} :
    (Import.read clock text format = .error fault ∧ ¬fault.IsRefusal) ↔ format = .csv ∧ StopsBy text fault := by
  cases format with
  | log => simp [Import.read]
  | csv =>
      rw [Import.read, and_iff_right rfl]
      constructor
      · rintro ⟨failed, unreported⟩
        rcases ofCsv_cases clock text with table | ⟨other, stops⟩ | ⟨other, refuses, refused⟩
        · obtain ⟨entries, read⟩ := ofCsv_of_isTable clock table
          rw [read] at failed
          contradiction
        · obtain rfl := Except.error.inj (failed.symm.trans (ofCsv_of_stopsBy clock stops))
          exact stops
        · obtain rfl := Except.error.inj (failed.symm.trans refuses)
          exact absurd refused unreported
      · exact fun stops => ⟨ofCsv_of_stopsBy clock stops, stops.not_isRefusal⟩
  | json =>
      rw [Import.read]
      constructor
      · rintro ⟨failed, unreported⟩
        exact absurd (ofJson_refused failed) unreported
      · rintro ⟨isCsv, -⟩
        contradiction

end

end Import

/-! ## Data sets -/

namespace Session

variable {clock : Calendar.Clock} {s : Session} {fault : Fault}

/-- Why the session shows no data set, whatever the data set holds: the limit for samples is no number of samples, or the
order is not by a name. -/
def obstacle? (s : Session) : Option Fault :=
  match sampleCapacity s.registry.limit with
  | .error fault => some fault
  | .ok _ =>
    match s.sort.field with
    | .text _ => none
    | _ => some .noSuchPart

theorem obstacle?_with (s : Session) (assembler : Assembler) (entries : List Entry) :
    { s.startParse .log with assembler, entries }.obstacle? = s.obstacle? := rfl

theorem sorted_of_text {name : String} (byName : s.sort.field = .text name) : ∃ view, s.sorted = .ok view := by
  rw [sorted, SortOrder.rows, byName]
  exact ⟨_, rfl⟩

theorem settle_eq_error_iff : (s.settle clock).outcome = .error fault ↔ s.obstacle? = some fault := by
  unfold settle obstacle?
  dsimp only
  split
  · next other unknown =>
      have noCapacity : sampleCapacity s.registry.limit = .error other := Registry.capacity_of_rebuild unknown
      rw [noCapacity]
      simp
  · next registry known =>
      cases enough : sampleCapacity s.registry.limit with
      | error other =>
          have unknown : s.registry.rebuild clock s.entries = .error other := by
            rw [Registry.rebuild, enough, Outcome.error_bind]
          cases known.symm.trans unknown
      | ok capacity =>
          let settled := { s.trackNames (Entry.fieldNames s.entries) with registry }
          have sameSort : settled.sort.field = s.sort.field := rfl
          cases field : s.sort.field with
          | text name =>
              obtain ⟨view, sorted⟩ := sorted_of_text (sameSort.trans field)
              rw [sorted]
              simp
          | _ =>
              have unsorted : settled.sorted = .error .noSuchPart := by
                rw [sorted, SortOrder.rows, sameSort, field]
                rfl
              rw [unsorted]
              simp

/-! ## Files -/

variable {tree : FileTree} {bytes : String → List UInt8} {paths : List String} {chunkSize : Nat}

def fileChunks (chunkSize : Nat) (bytes : List UInt8) : List String :=
  let cs := Text.Utf8.decode bytes
  (chunksOf chunkSize cs.length cs).map String.ofList

theorem flatten_chunksOf (positive : 0 < chunkSize) {fuel : Nat} {cs : List Char} (enough : cs.length ≤ fuel) :
    (chunksOf chunkSize fuel cs).flatten = cs := by
  induction fuel generalizing cs with
  | zero =>
      obtain rfl := List.length_eq_zero_iff.mp (Nat.le_zero.mp enough)
      rfl
  | succ fuel ih =>
      cases cs with
      | nil => rfl
      | cons c rest =>
          have cut : chunksOf chunkSize (fuel + 1) (c :: rest) =
              (c :: rest).take chunkSize :: chunksOf chunkSize fuel ((c :: rest).drop chunkSize) := rfl
          have shorter : ((c :: rest).drop chunkSize).length ≤ fuel := by
            rw [List.length_drop]
            omega
          rw [cut, List.flatten_cons, ih shorter, List.take_append_drop]

theorem join_fileChunks (positive : 0 < chunkSize) (bytes : List UInt8) :
    String.join (fileChunks chunkSize bytes) = readText bytes := by
  have whole := flatten_chunksOf positive (Nat.le_refl (Text.Utf8.decode bytes).length)
  apply String.toList_inj.mp
  rw [String.toList_join, fileChunks, readText, List.flatMap_map]
  simp only [String.toList_ofList]
  rw [List.flatMap_id', whole]

theorem readChunks_eq_ok (positive : 0 < chunkSize) (bytes : List UInt8) :
    readChunks bytes chunkSize = .ok (fileChunks chunkSize bytes) := by
  rw [readChunks, if_neg (by omega)]
  rfl

theorem read_eq_ok {path : String} (readable : tree.file? path = some (bytes path)) :
    tree.read path = .ok (bytes path) := by
  rw [FileTree.read, readable]

theorem feedFile_eq_ok (positive : 0 < chunkSize) {path : String} (readable : tree.file? path = some (bytes path))
    (s : Session) : feedFile clock tree chunkSize s path =
      .ok (s.feedAll clock (fileChunks chunkSize (bytes path) ++ ["\n"])) := by
  rw [feedFile, read_eq_ok readable, Outcome.ok_bind, readChunks_eq_ok positive, Outcome.ok_bind]
  rfl

def joinedText (bytes : String → List UInt8) (paths : List String) : String :=
  String.join (paths.map fun path => readText (bytes path) ++ "\n")

theorem join_flatMap_fileChunks (positive : 0 < chunkSize) (bytes : String → List UInt8) (paths : List String) :
    String.join (paths.flatMap fun path => fileChunks chunkSize (bytes path) ++ ["\n"]) = joinedText bytes paths := by
  induction paths with
  | nil => rfl
  | cons path rest ih =>
      rw [List.flatMap_cons, String.join_append, String.join_append, join_fileChunks positive, ih]
      simp [joinedText]

theorem loadFiles_log (s : Session) (positive : 0 < chunkSize)
    (readable : ∀ path ∈ paths, tree.file? path = some (bytes path)) :
    let step := s.loadFiles clock tree .log chunkSize paths
    let whole := s.loadText clock (joinedText bytes paths) .log
    step.outcome = whole.outcome ∧ step.session.withoutPending = whole.session.withoutPending := by
  have fed : paths.foldlM (feedFile clock tree chunkSize) (s.startParse .log) =
      .ok ((s.startParse .log).feedAll clock (paths.flatMap fun path => fileChunks chunkSize (bytes path) ++ ["\n"])) := by
    rw [Outcome.foldlM_of_ok _ fun s path member => feedFile_eq_ok positive (readable path member) s, feedAll,
      List.foldl_flatMap]
    rfl
  rw [loadFiles]
  dsimp only
  rw [fed, ← join_flatMap_fileChunks positive]
  exact finishParse_feedAll clock s .log _

theorem entriesOfFiles_eq_bind (read : String → Outcome (List Entry))
    (readable : ∀ path ∈ paths, tree.file? path = some (bytes path)) :
    entriesOfFiles read tree paths = paths.mapM (fun path => read (readText (bytes path))) >>= fun found =>
      .ok (if paths.length > 1 then renumbered found.flatten else found.flatten) := by
  have reads : ∀ path ∈ paths, (tree.read path >>= fun bytes => read (readText bytes)) = read (readText (bytes path)) :=
    fun path member => by rw [read_eq_ok (readable path member), Outcome.ok_bind]
  rw [entriesOfFiles, Outcome.mapM_congr reads]
  rfl

theorem entriesOfFiles_eq_error_iff (read : String → Outcome (List Entry))
    (readable : ∀ path ∈ paths, tree.file? path = some (bytes path)) :
    entriesOfFiles read tree paths = .error fault ↔
      ∃ before path after, paths = before ++ path :: after ∧
        (∀ other ∈ before, ∃ entries, read (readText (bytes other)) = .ok entries) ∧
        read (readText (bytes path)) = .error fault := by
  rw [entriesOfFiles_eq_bind read readable, Outcome.bind_pure_eq_error, Outcome.mapM_eq_error_iff]

theorem exists_entriesOfFiles_iff (read : String → Outcome (List Entry))
    (readable : ∀ path ∈ paths, tree.file? path = some (bytes path)) :
    (∃ entries, entriesOfFiles read tree paths = .ok entries) ↔
      ∀ path ∈ paths, ∃ entries, read (readText (bytes path)) = .ok entries := by
  rw [entriesOfFiles_eq_bind read readable, ← Outcome.exists_mapM_iff]
  constructor
  · rintro ⟨entries, whole⟩
    obtain ⟨found, mapped, -⟩ := Outcome.bind_eq_ok.mp whole
    exact ⟨found, mapped⟩
  · rintro ⟨found, mapped⟩
    exact ⟨_, Outcome.bind_eq_ok.mpr ⟨found, mapped, rfl⟩⟩

theorem loadFiles_of_unread (s : Session) {format : DocumentFormat} (table : format ≠ .log)
    (failed : entriesOfFiles (Import.read clock · format) tree paths = .error fault) :
    (s.loadFiles clock tree format chunkSize paths).outcome = .error fault := by
  cases format with
  | log => exact absurd rfl table
  | csv =>
      have unread : entriesOfFiles (Import.ofCsv clock) tree paths = .error fault := failed
      rw [loadFiles, unread]
  | json =>
      have unread : entriesOfFiles (Import.ofJson clock) tree paths = .error fault := failed
      rw [loadFiles, unread]

theorem loadFiles_of_read (s : Session) {format : DocumentFormat} (table : format ≠ .log) {entries : List Entry}
    (found : entriesOfFiles (Import.read clock · format) tree paths = .ok entries) :
    s.loadFiles clock tree format chunkSize paths = s.loadEntries clock entries := by
  cases format with
  | log => exact absurd rfl table
  | csv =>
      have read : entriesOfFiles (Import.ofCsv clock) tree paths = .ok entries := found
      rw [loadFiles, read]
  | json =>
      have read : entriesOfFiles (Import.ofJson clock) tree paths = .ok entries := found
      rw [loadFiles, read]

theorem loadFiles_eq_error_iff (clock : Calendar.Clock) (s : Session) (format : DocumentFormat) (fault : Fault)
    (positive : 0 < chunkSize) (readable : ∀ path ∈ paths, tree.file? path = some (bytes path)) :
    (s.loadFiles clock tree format chunkSize paths).outcome = .error fault ↔
      (∃ before path after, paths = before ++ path :: after ∧
        (∀ other ∈ before, ∃ entries, Import.read clock (readText (bytes other)) format = .ok entries) ∧
        Import.read clock (readText (bytes path)) format = .error fault) ∨
      (∀ path ∈ paths, ∃ entries, Import.read clock (readText (bytes path)) format = .ok entries) ∧
        s.obstacle? = some fault := by
  by_cases log : format = .log
  · subst log
    have reads (text : String) : ∃ entries, Import.read clock text .log = .ok entries := ⟨_, rfl⟩
    have unread (text : String) : Import.read clock text .log ≠ .error fault := by simp [Import.read]
    rw [(loadFiles_log s positive readable).1, loadText_eq, finishParse_of_log, settle_eq_error_iff, obstacle?_with]
    simp [unread, reads]
  · rw [← entriesOfFiles_eq_error_iff (Import.read clock · format) readable,
      ← exists_entriesOfFiles_iff (Import.read clock · format) readable]
    cases whole : entriesOfFiles (Import.read clock · format) tree paths with
    | error other =>
        rw [loadFiles_of_unread s log whole]
        simp
    | ok entries =>
        rw [loadFiles_of_read s log whole, loadEntries, settle_eq_error_iff, obstacle?_with]
        simp

/-- A fault that the command line does not report comes of the first file that cannot be read, if it is a table in which the
reader stops, or of the session, if all files can be read. -/
theorem loadFiles_unreported_iff (clock : Calendar.Clock) (s : Session) (format : DocumentFormat) (fault : Fault)
    (positive : 0 < chunkSize) (readable : ∀ path ∈ paths, tree.file? path = some (bytes path)) :
    ((s.loadFiles clock tree format chunkSize paths).outcome = .error fault ∧ ¬fault.IsRefusal) ↔
      (format = .csv ∧ ∃ before path after, paths = before ++ path :: after ∧
        (∀ other ∈ before, Import.IsTable (readText (bytes other))) ∧ Import.StopsBy (readText (bytes path)) fault) ∨
      (∀ path ∈ paths, ∃ entries, Import.read clock (readText (bytes path)) format = .ok entries) ∧
        s.obstacle? = some fault ∧ ¬fault.IsRefusal := by
  rw [loadFiles_eq_error_iff clock s format fault positive readable, or_and_right, and_assoc]
  apply or_congr_left
  constructor
  · rintro ⟨⟨before, path, after, whole, earlier, failed⟩, unreported⟩
    obtain ⟨rfl, stops⟩ := Import.read_not_refused_iff.mp ⟨failed, unreported⟩
    have tables : ∀ other ∈ before, Import.IsTable (readText (bytes other)) :=
      fun other member => (Import.exists_ofCsv_iff clock).mp (earlier other member)
    exact ⟨rfl, before, path, after, whole, tables, stops⟩
  · rintro ⟨rfl, before, path, after, whole, tables, stops⟩
    obtain ⟨failed, unreported⟩ := Import.read_not_refused_iff.mpr ⟨rfl, stops⟩
    have earlier : ∀ other ∈ before, ∃ entries, Import.read clock (readText (bytes other)) .csv = .ok entries :=
      fun other member => (Import.exists_ofCsv_iff clock).mpr (tables other member)
    exact ⟨⟨before, path, after, whole, earlier, failed⟩, unreported⟩

def brokenTable : List UInt8 := "a\n1\r2\n".toUTF8.data.toList

theorem stopsBy_brokenTable : Import.StopsBy (readText brokenTable) .bareLineBreak := by
  have stops : (Csv.records (readText brokenTable)).2 = some .bareLineBreak := by decide +kernel
  have noRows : (Import.tableOf (readText brokenTable)).tail = [] := by decide +kernel
  refine ⟨stops, ?_⟩
  rw [Import.HasShortNumbers, noRows]
  exact fun _ member => absurd member List.not_mem_nil

end Session

end LogAnalysis
