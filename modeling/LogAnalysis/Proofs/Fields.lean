import LogAnalysis.Proofs.Merging
import LogAnalysis.Proofs.Requests
import LogAnalysis.Proofs.Soundness

/-!
# The fields of a data set

What a session knows about the fields of its entries is kept by two mechanisms: the list of names grows with what loads and
extraction report, and the registry is built again from the entries.

* `Extraction.runValues_fieldsIn`: a pass reports every field that it adds to an entry.
* `respond_named` (one request) and `after_named` (whole runs): the list names every field of every entry once.
* `Session.fields_of_requests`: after a load or an extraction the registry is that of the entries, as long as the client
  only filters and looks.
-/

namespace LogAnalysis

/-! ## Names of fields -/

namespace Entry

variable {known names : List String}

def FieldsIn (e : Entry) (names : List String) : Prop := ∀ name ∈ Members.names e.fields, name ∈ names

theorem FieldsIn.mono {e : Entry} (fieldsIn : e.FieldsIn known) (more : known ⊆ names) : e.FieldsIn names :=
  fun name member => more (fieldsIn name member)

theorem fieldsIn_of_nil {e : Entry} (none : e.fields = []) (names : List String) : e.FieldsIn names := by
  rw [FieldsIn, none]
  exact fun _ member => nomatch member

theorem fieldsIn_fieldNames {entries : List Entry} {e : Entry} (member : e ∈ entries) :
    e.FieldsIn (fieldNames entries) := fun _ inFields =>
  mem_foldl_addName.mpr (.inr (List.mem_flatMap.mpr ⟨e, member, inFields⟩))

end Entry

/-! ## Fields that extraction adds -/

namespace Extraction

variable {clock : Calendar.Clock} {strategy : MergeStrategy} {known : List String}

theorem runAll_fieldsIn {extractors : List Extractor} {entries : List Entry} {result : Result}
    (fieldsIn : ∀ e ∈ entries, e.FieldsIn known)
    (done : (runAll clock strategy extractors entries).outcome = .ok result) :
    ∀ e ∈ (runAll clock strategy extractors entries).entries, e.FieldsIn (known ++ result.fieldNames) := by
  obtain ⟨ordered, -, after, -, names⟩ := runAll_eq_ok done
  rw [after]
  refine List.forall_mem_map.mpr fun e member name present => List.mem_append.mpr ?_
  refine (mem_names_changedByAll present).imp (fieldsIn e member name) ?_
  rintro ⟨isName, x, isChosen, captured⟩
  exact (names name).mpr ⟨isName, e, member, x, isChosen, captured⟩

theorem runValues_fieldsIn {strategy extractors : Value} {entries : List Entry} {result : Result}
    (fieldsIn : ∀ e ∈ entries, e.FieldsIn known)
    (done : (runValues clock strategy extractors entries).outcome = .ok result) :
    ∀ e ∈ (runValues clock strategy extractors entries).entries, e.FieldsIn (known ++ result.fieldNames) := by
  unfold runValues at done ⊢
  dsimp only at done ⊢
  split at done
  · exact runAll_fieldsIn fieldsIn done
  · exact nomatch done

end Extraction

/-! ## The registry of a data set -/

namespace Descriptor

variable (clock : Calendar.Clock) (d : Descriptor)

theorem addSample_keeps (v : Value) : (d.addSample v).name = d.name ∧ (d.addSample v).others = d.others := by
  cases v <;> exact ⟨rfl, rfl⟩

theorem exists_inferred : ∃ type isArray isNumeric isDate,
    inferred clock d = { d with type, isArray, isNumeric, isDate } := by
  unfold inferred
  dsimp only
  split
  · exact ⟨d.type, d.isArray, d.isNumeric, d.isDate, rfl⟩
  · split
    · exact ⟨_, _, d.isNumeric, d.isDate, rfl⟩
    · split
      · exact ⟨_, _, _, d.isDate, rfl⟩
      · exact ⟨_, _, _, _, rfl⟩

theorem addSamples_keeps (capacity : Nat) (samples : List Value) :
    (d.addSamples clock capacity samples).name = d.name ∧ (d.addSamples clock capacity samples).others = d.others := by
  have folded : (samples.foldl addSample d).name = d.name ∧ (samples.foldl addSample d).others = d.others :=
    List.foldlRecOn (motive := fun d' : Descriptor => d'.name = d.name ∧ d'.others = d.others) samples _ ⟨rfl, rfl⟩
      fun d' same v _ => ⟨(d'.addSample_keeps v).1.trans same.1, (d'.addSample_keeps v).2.trans same.2⟩
  obtain ⟨type, isArray, isNumeric, isDate, inferred⟩ := exists_inferred clock { samples.foldl addSample d with
    samples := latest capacity (samples.foldl addSample d).samples }
  rw [addSamples, inferred]
  exact folded

end Descriptor

namespace Registry

variable {clock : Calendar.Clock} {r r' : Registry}

def HoldsTexts (r : Registry) : Prop := ∀ f ∈ r.fields, f.2.others = []

theorem HoldsTexts.register (texts : r.HoldsTexts) {name : String} {samples : List Value}
    (done : r.register clock name samples = .ok r') : r'.HoldsTexts := by
  obtain ⟨capacity, -, whole⟩ := Outcome.bind_eq_ok.mp done
  obtain rfl := Except.ok.inj whole
  intro f member
  rcases Members.mem_put member with before | rfl
  · exact texts f before
  · rw [(Descriptor.addSamples_keeps ..).2]
    cases known : r.get? name with
    | none => rfl
    | some d => exact texts _ (Members.mem_of_get? known)

theorem holdsTexts_rebuild {entries : List Entry} (done : r.rebuild clock entries = .ok r') : r'.HoldsTexts :=
  rebuild_keeps (fun _ _ _ _ _ texts => texts.register) (fun _ member => nomatch member) done

theorem HoldsTexts.snapshot_eq (texts : r.HoldsTexts) : r.snapshot = .ok r.toValue := by
  have each : ∀ f ∈ r.fields, f.2.snapshot = .ok f.2.toValue := fun f member => by
    simp [Descriptor.snapshot, Descriptor.hasOrder, texts f member]
  rw [snapshot, Outcome.mapM_of_ok each]
  rfl

def NamesIn (r : Registry) (names : List String) : Prop := ∀ f ∈ r.fields, f.1 ∈ names ∧ f.2.name ∈ names

theorem NamesIn.register {names : List String} (namesIn : r.NamesIn names) {name : String} (isOne : name ∈ names)
    {samples : List Value} (done : r.register clock name samples = .ok r') : r'.NamesIn names := by
  obtain ⟨capacity, -, whole⟩ := Outcome.bind_eq_ok.mp done
  obtain rfl := Except.ok.inj whole
  have named : ((r.get? name).getD { name }).name ∈ names := by
    cases known : r.get? name with
    | none => exact isOne
    | some d => exact (namesIn _ (Members.mem_of_get? known)).2
  rw [← (Descriptor.addSamples_keeps clock ..).1] at named
  intro f member
  rcases Members.mem_put member with before | rfl
  · exact namesIn f before
  · exact ⟨named, named⟩

theorem namesIn_rebuild {entries : List Entry} (done : r.rebuild clock entries = .ok r') :
    r'.NamesIn (standardNames ++ Entry.fieldNames entries) :=
  rebuild_keeps (P := fun r => r.NamesIn (standardNames ++ Entry.fieldNames entries))
    (fun _ _ isOne _ _ namesIn => namesIn.register isOne) (fun _ member => nomatch member) done

theorem NamesIn.mem_of_type? {names : List String} (namesIn : r.NamesIn names) {name : String} {type : FieldType}
    (known : r.type? name = some type) : name ∈ names := by
  obtain ⟨d, found, -⟩ := Option.map_eq_some_iff.mp known
  exact (namesIn _ (Members.mem_of_get? found)).1

theorem rebuild_of_limit (same : r.limit = r'.limit) (entries : List Entry) :
    r.rebuild clock entries = r'.rebuild clock entries := by
  simp only [rebuild, cleared, same]

theorem rebuild_again {entries : List Entry} (done : r.rebuild clock entries = .ok r') :
    r'.rebuild clock entries = .ok r' := (rebuild_of_limit (limit_rebuild done) entries).trans done

end Registry

/-! ## Sessions -/

namespace Session

/-- The list of names has every field of every entry, and each name once. The entry of a log that is still open has no
fields. -/
structure FieldsNamed (s : Session) : Prop where
  distinct : s.fieldNames.Nodup
  named : ∀ e ∈ s.entries, e.FieldsIn s.fieldNames
  opened : ∀ e ∈ s.assembler.opened, e.fields = []

def IsRegistered (clock : Calendar.Clock) (s : Session) : Prop :=
  s.registry.rebuild clock s.entries = .ok s.registry

variable {clock : Calendar.Clock} {s : Session}

theorem fieldsNamed_of_nil (names : s.fieldNames = []) (entries : s.entries = []) (opened : s.assembler.opened = none) :
    s.FieldsNamed where
  distinct := names ▸ List.nodup_nil
  named := by simp [entries]
  opened := by simp [opened]

theorem feed_named (named : s.FieldsNamed) (chunk : String) : (s.feed clock chunk).1.FieldsNamed := by
  unfold feed
  dsimp only
  split
  · exact ⟨named.distinct, named.named, named.opened⟩
  · exact ⟨named.distinct, named.named, named.opened⟩
  · obtain ⟨opened, completed⟩ := Assembler.feed_forall clock (P := fun e => e.fields = []) (fun _ _ _ => rfl)
      (fun _ _ same => same) named.opened chunk
    refine ⟨named.distinct, List.forall_mem_append.mpr ⟨named.named, fun e member => ?_⟩, opened⟩
    exact Entry.fieldsIn_of_nil (completed e member) _

theorem feedValue_named (named : s.FieldsNamed) (chunk : Value) : (s.feedValue clock chunk).1.FieldsNamed := by
  unfold feedValue
  split
  · exact feed_named named _
  · exact named
  · exact ⟨named.distinct, named.named, named.opened⟩

theorem settle_named (distinct : s.fieldNames.Nodup) (opened : ∀ e ∈ s.assembler.opened, e.fields = []) :
    (s.settle clock).session.FieldsNamed := by
  have known : (s.trackNames (Entry.fieldNames s.entries)).FieldsNamed :=
    ⟨Entry.nodup_foldl_addName distinct, fun e member =>
      (Entry.fieldsIn_fieldNames member).mono fun name inNames => Entry.mem_foldl_addName.mpr (.inr inNames), opened⟩
  unfold settle
  dsimp only
  split
  · exact ⟨known.distinct, known.named, known.opened⟩
  · split
    · exact ⟨known.distinct, known.named, known.opened⟩
    · exact ⟨known.distinct, known.named, known.opened⟩

theorem settle_registered {loaded : Loaded} (done : (s.settle clock).outcome = .ok loaded) :
    (s.settle clock).session.IsRegistered clock := by
  unfold settle at done ⊢
  dsimp only at done ⊢
  split at done
  · exact nomatch done
  · next r rebuilt =>
      split at done
      · exact nomatch done
      · exact Registry.rebuild_again rebuilt

theorem finishParse_named (named : s.FieldsNamed) : (s.finishParse clock).session.FieldsNamed := by
  rcases finishParse_cases clock s with ⟨fault, unread⟩ | ⟨assembler, entries, isAssembler, settled⟩
  · rw [unread]
    exact named
  · rw [settled]
    refine settle_named named.distinct ?_
    rcases isAssembler with rfl | rfl
    · exact named.opened
    · exact (Assembler.finish_forall clock (P := fun e => e.fields = []) (fun _ _ _ => rfl) (fun _ _ same => same)
        named.opened "").1

theorem finishParse_registered {loaded : Loaded} (done : (s.finishParse clock).outcome = .ok loaded) :
    (s.finishParse clock).session.IsRegistered clock := by
  rcases finishParse_cases clock s with ⟨fault, unread⟩ | ⟨assembler, entries, -, settled⟩
  · rw [unread] at done
    exact nomatch done
  · rw [settled] at done ⊢
    exact settle_registered done

/-- Extraction that returns leaves the entries with the fields that the pass reports, and the registry of these entries. -/
theorem runExtractors_eq_ok {extractors strategy : Value} {onlyView : Bool} {extracted : Extracted}
    (named : s.FieldsNamed) (done : (s.runExtractors clock extractors onlyView strategy).outcome = .ok extracted) :
    (s.runExtractors clock extractors onlyView strategy).session.FieldsNamed ∧
      (s.runExtractors clock extractors onlyView strategy).session.IsRegistered clock := by
  unfold runExtractors at done ⊢
  rcases extract_cases clock s onlyView (Extraction.runValues clock strategy extractors) with
    ⟨fault, -, ended⟩ | ⟨result, finished, ⟨fault, -, ended⟩ | ⟨registry, rebuilt, ended⟩⟩
  · rw [ended] at done
    exact nomatch done
  · rw [ended] at done
    exact nomatch done
  · rw [ended]
    -- Entries in scope have the fields that the pass reports, the others those that were named before.
    have areMade := Extraction.runValues_fieldsIn (rowsAt_forall named.named (s.scopePositions onlyView)) finished
    have more : s.fieldNames ++ result.fieldNames ⊆ result.fieldNames.foldl Entry.addName s.fieldNames :=
      fun name member => Entry.mem_foldl_addName.mpr (List.mem_append.mp member)
    refine ⟨⟨Entry.nodup_foldl_addName named.distinct, ?_, named.opened⟩, Registry.rebuild_again rebuilt⟩
    refine replace_forall (fun e member => (named.named e member).mono fun name inNames =>
      Entry.mem_foldl_addName.mpr (.inl inNames)) fun c member => ?_
    exact (areMade c.2 (List.of_mem_zip member).2).mono more

/-! ### Requests -/

/-- The request brings a document to its end, or extracts from it. -/
def Request.registers : Request → Bool
  | finishParse | load .. | loadEntries _ | call (.runExtractors ..) => true
  | _ => false

theorem respond_named {r : Request} {result : Worker.Result} (named : s.FieldsNamed)
    (done : (r.respond clock s).outcome = .ok result) : (r.respond clock s).session.FieldsNamed := by
  by_cases looks : r.looks = true
  · obtain ⟨filter, search, order, view, left⟩ := respond_session_of_looks clock s looks
    rw [left]
    exact ⟨named.distinct, named.named, named.opened⟩
  have started (format : DocumentFormat) : (s.startParse format).FieldsNamed := fieldsNamed_of_nil rfl rfl rfl
  cases r with
  | startParse format => exact started format
  | feed chunk => exact feedValue_named named chunk
  | finishParse => exact finishParse_named named
  | load document format =>
      have fed : ((s.startParse format).feedValue clock document).1.FieldsNamed := feedValue_named (started format) document
      simp only [Request.respond, Step.map, loadValue]
      split
      · exact finishParse_named fed
      · exact fed
  | loadEntries entries => exact settle_named List.nodup_nil fun _ member => absurd member (Option.not_mem_none _)
  | call c =>
      cases c with
      | runExtractors extractors onlyView strategy =>
          simp only [Request.respond, Call.respond, Step.map] at done ⊢
          obtain ⟨extracted, done, -⟩ := Outcome.map_eq_ok.mp done
          exact (runExtractors_eq_ok named done).1
      | _ => exact absurd rfl looks
  | _ => exact absurd rfl looks

theorem respond_registered {r : Request} {result : Worker.Result} (named : s.FieldsNamed) (registers : r.registers = true)
    (done : (r.respond clock s).outcome = .ok result) : (r.respond clock s).session.IsRegistered clock := by
  cases r with
  | finishParse =>
      obtain ⟨loaded, done, -⟩ := Outcome.map_eq_ok.mp done
      exact finishParse_registered done
  | load document format =>
      obtain ⟨loaded, done, -⟩ := Outcome.map_eq_ok.mp done
      simp only [Request.respond, Step.map, loadValue] at done ⊢
      split at done
      · exact finishParse_registered done
      · cases done
  | loadEntries entries =>
      obtain ⟨loaded, done, -⟩ := Outcome.map_eq_ok.mp done
      exact settle_registered done
  | call c =>
      cases c with
      | runExtractors extractors onlyView strategy =>
          simp only [Request.respond, Call.respond, Step.map] at done ⊢
          obtain ⟨extracted, done, -⟩ := Outcome.map_eq_ok.mp done
          exact (runExtractors_eq_ok named done).2
      | _ => exact absurd registers Bool.false_ne_true
  | _ => exact absurd registers Bool.false_ne_true

theorem after_named {requests : List (Calendar.Clock × Request)} (returns : s.returns requests = true)
    (named : s.FieldsNamed) : (s.after requests).FieldsNamed :=
  after_keeps (fun _ _ _ _ named done => respond_named named done) returns named

/-- At any point after a load or an extraction that only filtering, paging and counting followed, where all requests so far
returned: what the session tells of its registry is what the registry of its entries tells, and the list of names has each
name once and the fields of all entries. -/
theorem fields_of_requests (limit : Int) (before later : List (Calendar.Clock × Request)) (clock : Calendar.Clock)
    (r : Request) (returns : (new limit).returns (before ++ (clock, r) :: later) = true) (registers : r.registers = true)
    (looks : ∀ x ∈ later, x.2.looks = true) :
    let s := (new limit).after (before ++ (clock, r) :: later)
    (∃ fresh data, ({ limit } : Registry).rebuild clock s.entries = .ok fresh ∧ fresh.snapshot = .ok data ∧
        s.registry.snapshot = .ok data) ∧
      s.fieldNames.Nodup ∧ ∀ e ∈ s.entries, ∀ name ∈ Members.names e.fields, name ∈ s.fieldNames := by
  intro s
  have start : (new limit).FieldsNamed := fieldsNamed_of_nil rfl rfl rfl
  have named : s.FieldsNamed := after_named returns start
  rw [returns_append, Bool.and_eq_true, Session.returns, Bool.and_eq_true] at returns
  obtain ⟨earlier, last, -⟩ := returns
  obtain ⟨result, done⟩ := isOk_iff.mp last
  have registered := respond_registered (after_named earlier start) registers done
  obtain ⟨sameRegistry, sameEntries⟩ := after_of_looks (s := (r.respond clock ((new limit).after before)).session) looks
  have whole : s = (r.respond clock ((new limit).after before)).session.after later := after_append _ _ _
  rw [IsRegistered, ← sameRegistry, ← sameEntries, ← whole] at registered
  have limited : s.registry.limit = limit := limit_after _ _
  refine ⟨⟨s.registry, s.registry.toValue, ?_, ?_, ?_⟩, named.distinct, named.named⟩
  · exact (Registry.rebuild_of_limit limited.symm s.entries).trans registered
  · exact (Registry.holdsTexts_rebuild registered).snapshot_eq
  · exact (Registry.holdsTexts_rebuild registered).snapshot_eq

def loadUser : List (Calendar.Clock × Request) := [(.ofSeconds 0 0, .load (.text "user=bob") .log)]

/-- A search that finds nothing, and the statistics of the empty view. -/
def lookForDisk : List (Calendar.Clock × Request) :=
  [(.ofSeconds 5 0, .call (.applyFilters none (some diskSearch) none)), (.ofSeconds 9 0, .summary)]

theorem fields_of_requests_user :
    let requests := loadUser ++ (.ofSeconds 1 0, .call userExtraction) :: lookForDisk
    let s := (new 100).after requests
    (new 100).returns requests = true ∧ (Request.call userExtraction).registers = true ∧
      (∀ x ∈ lookForDisk, x.2.looks = true) ∧ s.entries.map (Members.names ·.fields) = [["user"]] ∧
      (∃ fresh data, ({ limit := 100 } : Registry).rebuild (.ofSeconds 1 0) s.entries = .ok fresh ∧
        fresh.snapshot = .ok data ∧ s.registry.snapshot = .ok data) ∧
      s.fieldNames.Nodup ∧ ∀ e ∈ s.entries, ∀ name ∈ Members.names e.fields, name ∈ s.fieldNames := by
  intro requests s
  have returns : (new 100).returns requests = true := by decide +kernel
  have looks : ∀ x ∈ lookForDisk, x.2.looks = true := by decide
  exact ⟨returns, rfl, looks, by decide +kernel, fields_of_requests 100 loadUser lookForDisk _ _ returns rfl looks⟩

end Session

end LogAnalysis
