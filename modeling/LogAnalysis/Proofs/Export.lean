import LogAnalysis.Export
import LogAnalysis.Import
import LogAnalysis.Proofs.Json.Lines
import LogAnalysis.Proofs.Json.Refusals

/-!
# Export and import

Entries that are exported as JSON come back as they were when the text is loaded, up to the usual forms of timestamps
and levels (`Import.ofJson_json`).
-/

namespace LogAnalysis

namespace Entry

/-- The entry can be exported without loss: there is raw text, the fields are texts under distinct names that no part of
an entry has, and the number has no more digits than are read. -/
structure IsExportable (e : Entry) : Prop where
  raw : e.raw ≠ ""
  fields : AreFields e.fields
  distinct : (Members.names e.fields).Nodup
  id : e.id.natAbs < 10 ^ Numeral.maxDigits

theorem IsExportable.isExact {e : Entry} (exportable : e.IsExportable) : e.toValue.IsExact := by
  have fields : Value.IsExact (.object e.fields) := by
    refine .object exportable.distinct fun f member => ?_
    obtain ⟨-, texts, value⟩ := exportable.fields f member
    rw [value]
    refine .list fun v inTexts => ?_
    obtain ⟨s, -, rfl⟩ := List.mem_map.mp inTexts
    exact .text s
  refine .object (by simp [Members.names]) ?_
  simp only [List.forall_mem_cons, List.not_mem_nil, false_imp_iff, implies_true, and_true]
  exact ⟨.int (Numeral.length_digits_le_iff.mpr exportable.id), .text _, .text _, .text _, .text _, fields⟩

def reimported (clock : Calendar.Clock) (e : Entry) : Entry :=
  let normalized := Timestamp.normalize clock e.timestamp
  make e.id (if normalized = "" then e.timestamp else normalized) (canonicalLevel e.level) e.message e.raw e.fields

end Entry

namespace Import

open Entry (AreFields)

variable {clock : Calendar.Clock}

theorem canonicalLevel_empty : canonicalLevel "" = "" := by decide

theorem fieldOf_texts (texts : List String) : fieldOf (.list (texts.map .text)) = .list (texts.map .text) := by
  rw [fieldOf, List.map_map]
  rfl

theorem addFields_areFields {given : Members Value} (sound : AreFields given) (fields : Members Value)
    (distinct : (Members.names (fields ++ given)).Nodup) : addFields [] given fields = fields ++ given := by
  rw [← Members.putAll_of_new fields given distinct, Members.putAll, addFields]
  clear distinct
  induction given generalizing fields with
  | nil => rfl
  | cons f rest ih =>
      obtain ⟨⟨name, texts, value⟩, others⟩ := List.forall_mem_cons.mp sound
      obtain ⟨n, v⟩ := f
      obtain rfl : v = _ := value
      rw [List.foldl_cons, List.foldl_cons, ih others]
      simp only [name, fieldOf_texts, List.contains_nil, Bool.not_true, Bool.or_self, Bool.false_eq_true, if_false]

/-- A text is read where it stands under the first of several names, also the empty one if that is read as such. -/
theorem elim_firstPresent (read : Value → String) (empty : read (.text "") = "") {members : Members Value}
    (name : String) {names : List String} {s : String} (first : Members.get? members name = some (.text s))
    (others : ∀ n ∈ names, Members.get? members n = none) :
    (firstPresent members (name :: names)).elim "" read = read (.text s) := by
  have absent : firstPresent members names = none := by
    refine List.findSome?_eq_none_iff.mpr fun n member => ?_
    rw [others n member]
  by_cases isEmpty : s = ""
  · subst isEmpty
    rw [firstPresent, List.findSome?_cons, first, empty]
    exact congrArg (fun found => Option.elim found "" read) absent
  · simp [firstPresent, first, isEmpty]

theorem objectEntry_toValue (clock : Calendar.Clock) {e : Entry} (exportable : e.IsExportable) (next : Nat)
    {members : Members Value} (whole : e.toValue = .object members) :
    objectEntry clock next members = (e.reimported clock, next) := by
  have whole := (Value.object.inj whole).symm
  have absent {names : List String} (new : ∀ n ∈ names, n ∉ ["id", "ts", "level", "message", "raw", "fields"]) :
      ∀ n ∈ names, Members.get? members n = none :=
    fun n member => Members.get?_eq_none_iff.mpr (whole ▸ new n member)
  have timestamp := elim_firstPresent (timestampText clock) rfl "ts" (s := e.timestamp)
    (whole ▸ rfl) (absent (by decide : ∀ n ∈ ["timestamp", "time", "date"], _))
  have level := elim_firstPresent canonicalLevelOf canonicalLevel_empty "level" (s := e.level)
    (whole ▸ rfl) (absent (by decide : ∀ n ∈ ["severity", "loglevel"], _))
  have message := elim_firstPresent Value.display rfl "message" (s := e.message)
    (whole ▸ rfl) (absent (by decide : ∀ n ∈ ["msg", "text", "description"], _))
  have id : Members.get? members "id" = some (.int e.id) := whole ▸ rfl
  have idText : entryId? (.int e.id) = some e.id := by
    have short := Numeral.length_digits_le_iff.mpr exportable.id
    exact congrArg Except.toOption (Numeral.integer_toString short)
  have raw : Members.get? members "raw" = some (.text e.raw) := whole ▸ rfl
  have isTruthy : Value.isTruthy (.text e.raw) = true := bne_iff_ne.mpr exportable.raw
  have nested : Members.get? members "fields" = some (.object e.fields) := whole ▸ rfl
  -- The parts themselves are no fields; all fields come from the nested object.
  have noField : addFields standardNames members [] = [] := by
    rw [whole]
    simp [addFields, standardNames, timestampNames, levelNames, messageNames]
  have fields : addFields [] e.fields [] = e.fields := addFields_areFields exportable.fields [] exportable.distinct
  rw [objectEntry, timestampNames, levelNames, messageNames, timestamp, level, message]
  simp only [id, idText, raw, isTruthy, nested, noField, fields, Value.ofOption, Option.getD_some, if_true]
  rfl

theorem valueEntries_toValue {entries : List Entry} (exportable : ∀ e ∈ entries, e.IsExportable) (next : Nat) :
    valueEntries clock next (entries.map Entry.toValue) = entries.map (Entry.reimported clock) := by
  induction entries with
  | nil => rfl
  | cons e rest ih =>
      obtain ⟨first, others⟩ := List.forall_mem_cons.mp exportable
      rw [List.map_cons, List.map_cons, ← ih others]
      have isFirst := objectEntry_toValue clock first next rfl
      rw [Entry.toValue, valueEntries, isFirst]

def quoting : Entry :=
  .make (-7) "2024-01-02T03:04:05Z" "warn" "said \"hé 😀\"" "a\tb\n" [("user", .list [.text "bob", .text ""])]

theorem ofJson_json_refused (clock : Calendar.Clock) {e : Entry} (large : 10 ^ Numeral.maxDigits ≤ e.id.natAbs)
    (rest : List Entry) : ∃ fault, ofJson clock (Export.json (e :: rest)) = .error fault := by
  have long : Numeral.maxDigits < (Nat.toDigits 10 e.id.natAbs).length :=
    Nat.lt_of_not_le fun short => Nat.not_lt.mpr large (Numeral.length_digits_le_iff.mp short)
  have entry : Json.IsRefused Json.indented e.toValue :=
    Json.isRefused_object Json.indented_separates (m := ("id", .int e.id)) (Json.isRefused_int long) _
  obtain ⟨fault, refused⟩ :=
    Json.parse_refused (Json.isRefused_list Json.indented_separates entry (rest.map Entry.toValue))
  exact ⟨_, by rw [ofJson, Export.json, List.map_cons, refused]; rfl⟩

def oversized : Entry := .make (10 ^ Numeral.maxDigits : Nat) "" "" "" "x" []

end Import

end LogAnalysis
