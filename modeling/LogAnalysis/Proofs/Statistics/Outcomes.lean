import LogAnalysis.Proofs.Fields
import LogAnalysis.Proofs.Numbering
import LogAnalysis.Proofs.Run
import LogAnalysis.Proofs.Timestamps

/-!
# When statistics can be told

A summary needs the statistics of each field, and those of a date need all of its values. It fails where a value names an
instant in a year of fewer than four digits, as the text of such an instant cannot be read back.

* `Field.exists_ofView_iff` (one field) and `exists_summarize_iff` (all fields): just when statistics can be told.
* `Session.statistics_of_log`: of a log, only dates can be in the way of a summary, and no timestamp in a year of four digits
  is.
-/

namespace LogAnalysis

namespace Statistics

open Timestamp (HasFullYear)

variable {clock : Calendar.Clock}

namespace Field

theorem exists_summarizeNumbers {values : List Value} (noInts : ∀ v ∈ values, ∀ n, v.scalar ≠ .int n) :
    ∃ summary, summarizeNumbers values = .ok summary := by
  have each : ∀ v ∈ values, ∃ x, v.scalar.leadingNumber = .ok x := fun v member => by
    cases scalar : v.scalar with
    | int n => exact absurd scalar (noInts v member n)
    | _ => exact ⟨_, rfl⟩
  obtain ⟨numbers, mapped⟩ := Outcome.exists_mapM_iff.mpr each
  rw [summarizeNumbers, mapped, Outcome.ok_bind]
  split
  · exact ⟨_, rfl⟩
  · exact ⟨_, rfl⟩

theorem exists_summarizeDates_iff {values : List Value} :
    (∃ summary, summarizeDates clock values = .ok summary) ↔ ∀ v ∈ values, HasFullYear clock v.scalar.plain := by
  have each : (∃ dates, values.mapM (fun v => Timestamp.parse clock v.scalar.plain) = .ok dates) ↔
      ∀ v ∈ values, HasFullYear clock v.scalar.plain :=
    Outcome.exists_mapM_iff.trans (forall₂_congr fun _ _ => Timestamp.exists_parse_iff)
  rw [← each]
  constructor
  · rintro ⟨summary, done⟩
    obtain ⟨dates, mapped, -⟩ := Outcome.bind_eq_ok.mp done
    exact ⟨dates, mapped⟩
  · rintro ⟨dates, mapped⟩
    rw [summarizeDates, mapped, Outcome.ok_bind]
    dsimp only
    split
    · exact ⟨_, rfl⟩
    · exact ⟨_, rfl⟩

theorem hasFullYear_of_isEmpty {v : Value} (empty : v.isEmpty = true) : HasFullYear clock v.scalar.plain := by
  cases v with
  | null => exact Timestamp.hasFullYear_of_blank rfl
  | list items =>
      obtain rfl := List.isEmpty_iff.mp empty
      exact Timestamp.hasFullYear_of_blank rfl
  | _ => exact Timestamp.hasFullYear_of_blank empty

theorem exists_ofView_iff {view : List Entry} {name : String} {type : Option FieldType}
    (noInts : type = some .numeric → ∀ e ∈ view, ∀ n, (valueOf e name).scalar ≠ .int n) :
    (∃ field, ofView clock view name type = .ok field) ↔
      (type = some .date → ∀ e ∈ view, HasFullYear clock (valueOf e name).scalar.plain) := by
  let values := (view.map fun e => valueOf e name).filter (!·.isEmpty)
  have told (summary : Outcome Summary) (rest : Summary → Field) :
      (∃ field, (summary >>= fun s => pure (rest s)) = .ok field) ↔ ∃ s, summary = .ok s := by
    cases summary <;> simp
  cases type with
  | none => exact iff_of_true ⟨_, rfl⟩ fun isDate => nomatch isDate
  | some type =>
      cases type with
      | numeric =>
          refine iff_of_true ((told _ _).mpr (exists_summarizeNumbers fun v member n => ?_)) fun isDate => nomatch isDate
          obtain ⟨e, inView, rfl⟩ := List.mem_map.mp (List.mem_filter.mp member).1
          exact noInts rfl e inView n
      | date =>
          -- Values with nothing in them are left out, and name no instant.
          refine (told (summarizeDates clock values) _).trans (exists_summarizeDates_iff.trans ?_)
          constructor
          · intro full _ e inView
            cases empty : (valueOf e name).isEmpty with
            | true => exact hasFullYear_of_isEmpty empty
            | false => exact full _ (List.mem_filter.mpr ⟨List.mem_map_of_mem inView, by rw [empty]; rfl⟩)
          · intro full v member
            obtain ⟨e, inView, rfl⟩ := List.mem_map.mp (List.mem_filter.mp member).1
            exact full rfl e inView
      | text => exact iff_of_true ⟨_, rfl⟩ fun isDate => nomatch isDate
      | array => exact iff_of_true ⟨_, rfl⟩ fun isDate => nomatch isDate

end Field

/-- Of fields without whole numbers, only a date can be in the way of a summary: one of which a value names an instant in a
year of fewer than four digits. -/
theorem exists_summarize_iff {registry : Registry} {fieldNames : List String} {view : List Entry}
    (noInts : ∀ name ∈ summaryNames fieldNames, registry.type? name = some .numeric → ∀ e ∈ view, ∀ n,
      (Field.valueOf e name).scalar ≠ .int n) :
    (∃ fields, (summarize clock registry fieldNames view).outcome = .ok fields) ↔
      ∀ name ∈ summaryNames fieldNames, registry.type? name = some .date → ∀ e ∈ view,
        HasFullYear clock (Field.valueOf e name).scalar.plain := by
  have yields : (summarize clock registry fieldNames view).Yields
      ((summaryNames fieldNames).zipIdx.foldlM (fun done x =>
        Field.ofView clock view x.1 (registry.type? x.1) >>= fun field => .ok (Members.put done x.1 field)) []) :=
    Run.yields_foldlM (fun done x => ((Run.yields_lift _).bind fun _ => Run.yields_pure _).after_report _ _) _ _
  have each (done : Members Field) : ∀ x ∈ (summaryNames fieldNames).zipIdx,
      (∃ done', (Field.ofView clock view x.1 (registry.type? x.1) >>= fun field => .ok (Members.put done x.1 field)) =
        .ok done') ↔ (registry.type? x.1 = some .date → ∀ e ∈ view, HasFullYear clock (Field.valueOf e x.1).scalar.plain) := by
    intro x member
    rw [← Field.exists_ofView_iff (noInts x.1 (List.fst_mem_of_mem_zipIdx member))]
    constructor
    · rintro ⟨done', told⟩
      obtain ⟨field, isField, -⟩ := Outcome.bind_eq_ok.mp told
      exact ⟨field, isField⟩
    · rintro ⟨field, isField⟩
      exact ⟨_, Outcome.bind_eq_ok.mpr ⟨field, isField, rfl⟩⟩
  rw [yields.outcome_eq, Outcome.exists_foldlM_iff each]
  constructor
  · intro full name member
    rw [← List.zipIdx_map_fst 0 (summaryNames fieldNames)] at member
    obtain ⟨x, inNames, rfl⟩ := List.mem_map.mp member
    exact full x inNames
  · exact fun full x member => full x.1 (List.fst_mem_of_mem_zipIdx member)

end Statistics

/-! ## Logs -/

namespace Entry

structure IsLogged (clock : Calendar.Clock) (e : Entry) : Prop where
  fields : e.fields = []
  timestamp : ∃ line rest, e.raw = line ++ rest ∧ e.timestamp = Line.timestamp clock line

theorem parseText_isLogged (clock : Calendar.Clock) (text : String) : ∀ e ∈ parseText clock text, e.IsLogged clock := by
  refine Assembler.parseText_forall clock (fun id line _ => ?_) (fun e line logged => ?_) text
  · exact ⟨rfl, line, "", String.append_empty.symm, rfl⟩
  · obtain ⟨first, rest, raw, timestamp⟩ := logged.timestamp
    refine ⟨logged.fields, first, rest ++ "\n" ++ line, ?_, timestamp⟩
    show e.raw ++ "\n" ++ line = first ++ (rest ++ "\n" ++ line)
    rw [raw, String.append_assoc, String.append_assoc, String.append_assoc]

theorem fieldNames_of_nil {entries : List Entry} (none : ∀ e ∈ entries, e.fields = []) : fieldNames entries = [] := by
  have names : entries.flatMap (fun e => Members.names e.fields) = [] :=
    List.flatMap_eq_nil_iff.mpr fun e member => by rw [none e member]; rfl
  rw [fieldNames, names]
  rfl

/-- The timestamp of a log is missing, or it is the text of an instant, which every clock reads back if the year has four
digits. -/
theorem IsLogged.readsBack {clock : Calendar.Clock} {e : Entry} (logged : e.IsLogged clock) :
    e.timestamp = "" ∨ ∃ i line rest, e.raw = line ++ rest ∧ Timestamp.detect? clock line.toList = some i ∧
      e.timestamp = i.text ∧ (1000 ≤ i.date.year → ∀ other, Timestamp.read? other e.timestamp = some i) := by
  obtain ⟨line, rest, raw, timestamp⟩ := logged.timestamp
  unfold Line.timestamp at timestamp
  cases found : Timestamp.detect? clock line.toList with
  | none => exact .inl (by rw [timestamp, found]; rfl)
  | some i =>
      have isText : e.timestamp = i.text := by rw [timestamp, found]; rfl
      refine .inr ⟨i, line, rest, raw, found, isText, fun large other => ?_⟩
      rw [isText]
      exact Timestamp.read?_text (Timestamp.detect?_inCalendar found) large other

end Entry

namespace Session

variable {clock : Calendar.Clock} {s : Session}

theorem settle_namesIn :
    (s.settle clock).session.registry.NamesIn (Registry.standardNames ++ Entry.fieldNames s.entries) := by
  unfold settle
  dsimp only
  split
  · exact fun _ member => nomatch member
  · next rebuilt =>
      split
      · exact Registry.namesIn_rebuild rebuilt
      · exact Registry.namesIn_rebuild rebuilt

theorem loadText_namesIn (clock : Calendar.Clock) (s : Session) (text : String) :
    (s.loadText clock text .log).session.registry.NamesIn Registry.standardNames := by
  have whole : String.join [text] = text := by rw [String.join_cons, String.join_nil, String.append_empty]
  have given := @settle_namesIn clock { s.startParse .log with
    assembler := (Assembler.start.finish clock text).1, entries := parseText clock text }
  rw [Entry.fieldNames_of_nil fun e member => (Entry.parseText_isLogged clock text e member).fields,
    List.append_nil] at given
  rw [loadText_eq, finishParse_of_log, whole]
  exact given

/-- Where only the parts that all entries have are registered, a summary fails just for a value of a date that names an instant
in a year of fewer than four digits. -/
theorem exists_summary_iff (namesIn : s.registry.NamesIn Registry.standardNames) :
    (∃ fields, (s.summary clock).outcome = .ok fields) ↔
      ∀ name ∈ Registry.standardNames, s.registry.type? name = some .date → ∀ e ∈ s.viewEntries,
        Timestamp.HasFullYear clock (e.get name).plain := by
  have isText (e : Entry) : ∀ name ∈ Registry.standardNames, Statistics.Field.valueOf e name = .text (e.get name).plain := by
    simp only [Registry.standardNames, List.forall_mem_cons]
    exact ⟨rfl, rfl, rfl, fun _ member => nomatch member⟩
  refine (Statistics.exists_summarize_iff fun name _ known e _ n => ?_).trans ⟨fun full name standard known e inView => ?_,
    fun full name _ known e inView => ?_⟩
  · rw [isText e name (namesIn.mem_of_type? known)]
    exact fun isInt => nomatch isInt
  · have inSummary : name ∈ Statistics.summaryNames s.fieldNames := by
      have reserved : ∀ name ∈ Registry.standardNames, name ∈ Entry.reservedNames := by decide
      exact List.mem_append_left _ (reserved name standard)
    have given := full name inSummary known e inView
    rwa [isText e name standard] at given
  · have standard := namesIn.mem_of_type? known
    rw [isText e name standard]
    exact full name standard known e inView

theorem exists_respond_summary : (∃ result, (Request.summary.respond clock s).outcome = .ok result) ↔
    ∃ fields, (s.summary clock).outcome = .ok fields := by
  have told : (Request.summary.respond clock s).outcome = (s.summary clock).outcome.map .summary := rfl
  rw [told]
  constructor
  · rintro ⟨result, mapped⟩
    obtain ⟨fields, outcome, -⟩ := Outcome.map_eq_ok.mp mapped
    exact ⟨fields, outcome⟩
  · rintro ⟨fields, outcome⟩
    exact ⟨.summary fields, Outcome.map_eq_ok.mpr ⟨fields, outcome, rfl⟩⟩

end Session

end LogAnalysis
