import LogAnalysis.Proofs.Extraction
import LogAnalysis.Proofs.View
import LogAnalysis.Worker

/-!
# Calls that fail

A call asks for a view, for a page of it, or for extraction. Reading what a call is given comes before anything else, so
that a call with a malformed query, filter or extractor leaves a session as it is. What is asked for is noted before
the view is built, though: a view that cannot be built stays what it was, but the session has taken note
(`Session.perform_failed`).
-/

namespace LogAnalysis

/-! ## The fields of a data set -/

namespace Registry

variable (clock : Calendar.Clock) {r : Registry} {capacity : Nat}

theorem register_eq_ok (enough : sampleCapacity r.limit = .ok capacity) (name : String) (samples : List Value) :
    ∃ r', r.register clock name samples = .ok r' ∧ r'.limit = r.limit := by
  rw [register, enough, Outcome.ok_bind]
  exact ⟨_, rfl, rfl⟩

theorem foldlM_register_eq_ok (enough : sampleCapacity r.limit = .ok capacity) (names : List String)
    (samples : String → List Value) :
    ∃ r', names.foldlM (fun r name => r.register clock name (samples name)) r = .ok r' ∧ r'.limit = r.limit := by
  induction names generalizing r with
  | nil => exact ⟨r, rfl, rfl⟩
  | cons name rest ih =>
      obtain ⟨next, registered, same⟩ := register_eq_ok clock enough name (samples name)
      obtain ⟨last, others, limit⟩ := ih (same ▸ enough)
      exact ⟨last, by rw [List.foldlM_cons, registered, Outcome.ok_bind, others], limit.trans same⟩

theorem capacity_of_rebuild {clock : Calendar.Clock} {entries : List Entry} {fault : Fault}
    (failed : r.rebuild clock entries = .error fault) : sampleCapacity r.limit = .error fault := by
  rw [rebuild] at failed
  cases enough : sampleCapacity r.limit with
  | error other =>
      rw [enough, Outcome.error_bind] at failed
      exact congrArg _ (Except.error.inj failed)
  | ok capacity =>
      obtain ⟨standard, registered, same⟩ := foldlM_register_eq_ok clock (r := r.cleared) enough standardNames
        (standardSamples entries)
      obtain ⟨whole, others, -⟩ := foldlM_register_eq_ok clock (r := standard) (same ▸ enough)
        (Entry.fieldNames entries) (fieldSamples capacity entries)
      rw [enough, Outcome.ok_bind, registered, Outcome.ok_bind, others] at failed
      contradiction

end Registry

/-! ## Extractors that cannot be run -/

namespace Extraction

variable {clock : Calendar.Clock} {entries : List Entry} {fault : Fault}

theorem runAll_failed {strategy : MergeStrategy} {extractors : List Extractor}
    (failed : (runAll clock strategy extractors entries).outcome = .error fault) :
    (runAll clock strategy extractors entries).entries = entries ∨
      ∃ e ∈ extractors, e.enabled = true ∧ e.stop? = some fault := by
  unfold runAll at failed ⊢
  cases order : Extractor.ordered extractors with
  | error other => exact .inl rfl
  | ok ordered =>
      rw [order] at failed
      dsimp only at failed
      rw [(runFrom_eq _ _ _ _ _).2] at failed
      split at failed
      · next other stops =>
          obtain rfl := Except.error.inj failed
          obtain ⟨e, chosen, stop⟩ := List.exists_of_findSome?_eq_some stops
          obtain ⟨inOrder, enabled⟩ := List.mem_filter.mp chosen
          exact .inr ⟨e, Extractor.mem_of_mem_ordered order inOrder, enabled, stop⟩
      · contradiction

/-- The extractors that a value describes, and the strategy that another one names. -/
def described (strategy extractors : Value) : Outcome (MergeStrategy × List Extractor) := do
  let strategy ← MergeStrategy.ofValue strategy
  return (strategy, ← (← extractors.parts).mapM Extractor.ofValue)

def CannotRun (strategy extractors : Value) (fault : Fault) : Prop :=
  ∃ m es, described strategy extractors = .ok (m, es) ∧ ∃ e ∈ es, e.enabled = true ∧ e.stop? = some fault

theorem runValues_failed {strategy extractors : Value}
    (failed : (runValues clock strategy extractors entries).outcome = .error fault) :
    (runValues clock strategy extractors entries).entries = entries ∨ CannotRun strategy extractors fault := by
  unfold runValues at failed ⊢
  dsimp only at failed ⊢
  split at failed
  · next m es read => exact (runAll_failed failed).imp_right fun stops => ⟨m, es, read, stops⟩
  · exact .inl rfl

end Extraction

namespace Session

/-! ## Entries in their places -/

theorem foldl_setIfInBounds_of_same {α : Type} {table : Array α} {changes : List (Nat × α)}
    (same : ∀ c ∈ changes, table[c.1]? = some c.2) :
    changes.foldl (fun table (i, e) => table.setIfInBounds i e) table = table := by
  induction changes with
  | nil => rfl
  | cons c rest ih =>
      obtain ⟨i, x⟩ := c
      have here : table[i]? = some x := same (i, x) List.mem_cons_self
      have unchanged : table.setIfInBounds i x = table := by
        obtain ⟨inBounds, isItem⟩ := Array.getElem?_eq_some_iff.mp here
        rw [Array.setIfInBounds, dif_pos inBounds, ← isItem, Array.set_getElem_self]
      rw [List.foldl_cons]
      dsimp only
      rw [unchanged]
      exact ih fun c member => same c (List.mem_cons_of_mem _ member)

theorem mem_rowsAt {s : Session} {positions : List Nat} {row : Entry × Nat} (member : row ∈ s.rowsAt positions) :
    s.entries[row.2]? = some row.1 := by
  obtain ⟨i, -, found⟩ := List.mem_filterMap.mp member
  rw [List.getElem?_toArray] at found
  obtain ⟨e, isEntry, rfl⟩ := Option.map_eq_some_iff.mp found
  exact isEntry

theorem replace_rowsAt (s : Session) (positions : List Nat) :
    let rows := s.rowsAt positions
    replace s.entries ((rows.map (·.2)).zip (rows.map (·.1))) = s.entries := by
  intro rows
  have swapped : (rows.map (·.2)).zip (rows.map (·.1)) = rows.map fun row => (row.2, row.1) := List.zip_map'
  have same : ∀ c ∈ rows.map (fun row => (row.2, row.1)), s.entries.toArray[c.1]? = some c.2 := by
    intro c member
    obtain ⟨row, inRows, rfl⟩ := List.mem_map.mp member
    rw [List.getElem?_toArray]
    exact mem_rowsAt inRows
  rw [replace, swapped, foldl_setIfInBounds_of_same same]

/-! ## Extraction -/

def inScope (s : Session) (onlyView : Bool) : List Entry := (s.rowsAt (s.scopePositions onlyView)).map (·.1)

def withPass (s : Session) (onlyView : Bool) (pass : Extraction.Pass) : Session :=
  { s with entries := replace s.entries (((s.rowsAt (s.scopePositions onlyView)).map (·.2)).zip pass.entries) }

theorem withPass_of_same {s : Session} {onlyView : Bool} {pass : Extraction.Pass}
    (same : pass.entries = s.inScope onlyView) : s.withPass onlyView pass = s := by
  rw [withPass, same, inScope, replace_rowsAt]

def afterPass (clock : Calendar.Clock) (s : Session) (pass : Extraction.Pass) : Step Extracted :=
  match pass.outcome with
  | .error fault => ⟨s, .error fault, pass.reports⟩
  | .ok result =>
    let s := s.trackNames result.fieldNames
    match s.registry.rebuild clock s.entries with
    | .error fault => ⟨{ s with registry := s.registry.cleared }, .error fault, pass.reports⟩
    | .ok registry => ⟨{ s with registry }, .ok ⟨result, s.fieldNames, registry⟩, pass.reports⟩

theorem afterPass_cases (clock : Calendar.Clock) (s : Session) (pass : Extraction.Pass) :
    (∃ fault, pass.outcome = .error fault ∧ afterPass clock s pass = ⟨s, .error fault, pass.reports⟩) ∨
      ∃ result, pass.outcome = .ok result ∧
        ((∃ fault, s.registry.rebuild clock s.entries = .error fault ∧ afterPass clock s pass =
            ⟨{ s.trackNames result.fieldNames with registry := s.registry.cleared }, .error fault, pass.reports⟩) ∨
          ∃ registry, s.registry.rebuild clock s.entries = .ok registry ∧ afterPass clock s pass =
            ⟨{ s.trackNames result.fieldNames with registry },
              .ok ⟨result, result.fieldNames.foldl Entry.addName s.fieldNames, registry⟩, pass.reports⟩) := by
  unfold afterPass
  cases pass.outcome with
  | error fault => exact .inl ⟨fault, rfl, rfl⟩
  | ok result =>
      have same : (s.trackNames result.fieldNames).registry.rebuild clock (s.trackNames result.fieldNames).entries =
        s.registry.rebuild clock s.entries := rfl
      refine .inr ⟨result, rfl, ?_⟩
      dsimp only
      rw [same]
      cases s.registry.rebuild clock s.entries with
      | error fault => exact .inl ⟨fault, rfl, rfl⟩
      | ok registry => exact .inr ⟨registry, rfl, rfl⟩

theorem extract_eq (clock : Calendar.Clock) (s : Session) (onlyView : Bool) (extraction : List Entry → Extraction.Pass) :
    s.extract clock onlyView extraction =
      afterPass clock (s.withPass onlyView (extraction (s.inScope onlyView))) (extraction (s.inScope onlyView)) := rfl

/-- A call for extraction ends in one of three ways: the pass stops, the fields of the new entries cannot be told, or there is
a result. -/
theorem extract_cases (clock : Calendar.Clock) (s : Session) (onlyView : Bool) (extraction : List Entry → Extraction.Pass) :
    let pass := extraction (s.inScope onlyView)
    let made := s.withPass onlyView pass
    (∃ fault, pass.outcome = .error fault ∧
        s.extract clock onlyView extraction = ⟨made, .error fault, pass.reports⟩) ∨
      ∃ result, pass.outcome = .ok result ∧
        ((∃ fault, made.registry.rebuild clock made.entries = .error fault ∧ s.extract clock onlyView extraction =
            ⟨{ made.trackNames result.fieldNames with registry := s.registry.cleared }, .error fault, pass.reports⟩) ∨
          ∃ registry, made.registry.rebuild clock made.entries = .ok registry ∧ s.extract clock onlyView extraction =
            ⟨{ made.trackNames result.fieldNames with registry },
              .ok ⟨result, result.fieldNames.foldl Entry.addName s.fieldNames, registry⟩, pass.reports⟩) :=
  afterPass_cases clock _ _

/-! ## Calls -/

/-- A call on the document of a session. A filter may be given as it is, or be described by a value. -/
inductive Call
  | applyFilters (filter : Option Filter) (search : Option Search) (order : Option SortOrder)
  | applyDescribed (structured : Value) (search : Option Search) (order : Option SortOrder)
  | applyQueryText (text : String) (order : Option SortOrder)
  | runExtractors (extractors : Value) (onlyView : Bool) (strategy : Value)
  | page (number perPage : Value)

def Step.ended {α : Type} (step : Step α) : Session × Outcome Unit := (step.session, step.outcome.map fun _ => ())

def Call.perform (clock : Calendar.Clock) (s : Session) : Call → Session × Outcome Unit
  | applyFilters filter search order => (s.applyFilters clock filter search order).ended
  | applyDescribed structured search order =>
    match Filter.ofRequest structured with
    | .ok filter => (s.applyFilters clock filter search order).ended
    | .error fault => (s, .error fault)
  | applyQueryText text order => (s.applyQueryText clock text order).ended
  | runExtractors extractors onlyView strategy => (s.runExtractors clock extractors onlyView strategy).ended
  | page number perPage => (s, (Worker.pageOf s number perPage).map fun _ => ())

def asked (s : Session) (filter : Option Filter) (search : Option Search) (order : Option SortOrder) : Session :=
  { s with appliedFilter := filter, appliedSearch := search, sort := order.getD s.sort }

def extractedOnly (clock : Calendar.Clock) (s : Session) (extractors : Value) (onlyView : Bool) (strategy : Value)
    (fieldNames : List String) : Session :=
  let rows := s.rowsAt (s.scopePositions onlyView)
  let pass := Extraction.runValues clock strategy extractors (rows.map (·.1))
  { s with
    entries := replace s.entries ((rows.map (·.2)).zip pass.entries)
    fieldNames := fieldNames.foldl Entry.addName s.fieldNames
    registry := s.registry.cleared }

/-- What a call that fails leaves. Of a pass that one of the extractors stops nothing is said. -/
def Call.Leaves (clock : Calendar.Clock) (s after : Session) (fault : Fault) : Call → Prop
  | applyFilters filter search order => after = s.asked filter search order
  | applyDescribed structured search order =>
    match Filter.ofRequest structured with
    | .ok filter => after = s.asked filter search order
    | .error _ => after = s
  | applyQueryText text order =>
    match Search.ofText text with
    | .ok search => after = s.asked s.appliedFilter search order
    | .error _ => after = s
  | runExtractors extractors onlyView strategy =>
    after = s ∨ Extraction.CannotRun strategy extractors fault ∨
      (sampleCapacity s.registry.limit = .error fault ∧
        ∃ names, after = s.extractedOnly clock extractors onlyView strategy names)
  | page _ _ => after = s

variable {clock : Calendar.Clock} {s : Session} {fault : Fault}

theorem ended_fst {α : Type} (step : Step α) : step.ended.1 = step.session := rfl

theorem ended_eq_error {α : Type} {step : Step α} : step.ended.2 = .error fault ↔ step.outcome = .error fault := by
  unfold Step.ended
  cases step.outcome <;> simp [Except.map]

theorem applyFilters_failed {filter : Option Filter} {search : Option Search} {order : Option SortOrder}
    (failed : (s.applyFilters clock filter search order).outcome = .error fault) :
    (s.applyFilters clock filter search order).session = s.asked filter search order := by
  unfold applyFilters at failed ⊢
  dsimp only at failed ⊢
  split at failed
  · rfl
  · contradiction

theorem extract_failed {onlyView : Bool} {extraction : List Entry → Extraction.Pass}
    (failed : (s.extract clock onlyView extraction).outcome = .error fault) :
    let rows := s.rowsAt (s.scopePositions onlyView)
    let pass := extraction (rows.map (·.1))
    let made := { s with entries := replace s.entries ((rows.map (·.2)).zip pass.entries) }
    let after := (s.extract clock onlyView extraction).session
    pass.outcome = .error fault ∧ after = made ∨
      ∃ result, pass.outcome = .ok result ∧ sampleCapacity s.registry.limit = .error fault ∧
        after = { made.trackNames result.fieldNames with registry := s.registry.cleared } := by
  rcases extract_cases clock s onlyView extraction with
    ⟨other, stopped, ended⟩ | ⟨result, finished, ⟨other, noRegistry, ended⟩ | ⟨registry, -, ended⟩⟩
  · rw [ended] at failed ⊢
    obtain rfl := Except.error.inj failed
    exact .inl ⟨stopped, rfl⟩
  · rw [ended] at failed ⊢
    obtain rfl := Except.error.inj failed
    exact .inr ⟨result, finished, Registry.capacity_of_rebuild noRegistry, rfl⟩
  · rw [ended] at failed
    contradiction

theorem runExtractors_failed {extractors : Value} {onlyView : Bool} {strategy : Value}
    (failed : (s.runExtractors clock extractors onlyView strategy).outcome = .error fault) :
    (Call.runExtractors extractors onlyView strategy).Leaves clock s
      (s.runExtractors clock extractors onlyView strategy).session fault := by
  rcases extract_failed failed with ⟨stopped, after⟩ | ⟨result, -, noCapacity, after⟩
  · rcases Extraction.runValues_failed stopped with same | cannotRun
    · refine .inl ?_
      rw [runExtractors, after, same, replace_rowsAt]
    · exact .inr (.inl cannotRun)
  · exact .inr (.inr ⟨noCapacity, result.fieldNames, after⟩)

def withLine (limit : Int) (line : String) : Session := ((new limit).loadText (.ofSeconds 0 0) line .log).session

/-- A search for the word `disk`, in an order by something that is no name. -/
def unordered : Call := .applyFilters none (some diskSearch) (some ⟨.int 5, .text "desc"⟩)

def userExtraction : Call :=
  .runExtractors (.list [.object [("pattern", .text "user=(?<user>\\w+)")]]) false (.text "merge")

end Session

end LogAnalysis
