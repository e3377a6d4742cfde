import LogAnalysis.Proofs.Calls

/-!
# Requests on a session

Everything that a client can ask of a session, with what comes of it. Runs of requests start from any session
(`Session.after`), each request at a time of its own; `Session.returns` tells of a run whether all of its requests return.
-/

namespace LogAnalysis

/-! ## Registries -/

namespace Registry

variable {clock : Calendar.Clock} {r r' : Registry} {entries : List Entry}

theorem limit_register {name : String} {samples : List Value} (done : r.register clock name samples = .ok r') :
    r'.limit = r.limit := by
  obtain ⟨capacity, -, whole⟩ := Outcome.bind_eq_ok.mp done
  obtain rfl := Except.ok.inj whole
  rfl

/-- What registering samples of the fields of some entries keeps, the registry of these entries has if it holds without any
field. -/
theorem rebuild_keeps {P : Registry → Prop}
    (step : ∀ r, ∀ name ∈ standardNames ++ Entry.fieldNames entries, ∀ samples r', P r →
      r.register clock name samples = .ok r' → P r') (holds : P r.cleared)
    (done : r.rebuild clock entries = .ok r') : P r' := by
  obtain ⟨capacity, -, done⟩ := Outcome.bind_eq_ok.mp done
  obtain ⟨standard, registered, done⟩ := Outcome.bind_eq_ok.mp done
  -- The parts of entries are registered first, and their fields after them.
  have standardHolds := Outcome.foldlM_keeps
    (fun r name member r' => step r name (List.mem_append_left _ member) _ r') holds registered
  exact Outcome.foldlM_keeps (fun r name member r' => step r name (List.mem_append_right _ member) _ r') standardHolds done

theorem limit_rebuild (done : r.rebuild clock entries = .ok r') : r'.limit = r.limit := by
  exact rebuild_keeps (P := fun r' => r'.limit = r.limit)
    (fun _ _ _ _ _ same registered => (limit_register registered).trans same) rfl done

end Registry

namespace Session

/-! ## Requests -/

/-- What can be asked of a session: a document in parts or as a whole, what a call asks for, and what there is to tell about
the view. -/
inductive Request
  | startParse (format : DocumentFormat)
  | feed (chunk : Value)
  | finishParse
  | load (document : Value) (format : DocumentFormat)
  | loadEntries (entries : List Entry)
  | call (c : Call)
  | fullView
  | viewStatistics
  | summary

def Step.map {α β : Type} (f : α → β) (step : Step α) : Step β := ⟨step.session, step.outcome.map f, step.reports⟩

def Call.respond (clock : Calendar.Clock) (s : Session) : Call → Step Worker.Result
  | applyFilters filter search order => (s.applyFilters clock filter search order).map .found
  | applyDescribed structured search order =>
    match Filter.ofRequest structured with
    | .ok filter => (s.applyFilters clock filter search order).map .found
    | .error fault => ⟨s, .error fault, []⟩
  | applyQueryText text order => (s.applyQueryText clock text order).map .found
  | runExtractors extractors onlyView strategy => (s.runExtractors clock extractors onlyView strategy).map .extracted
  | page number perPage => ⟨s, (Worker.pageOf s number perPage).map .page, []⟩

def Request.respond (clock : Calendar.Clock) (s : Session) : Request → Step Worker.Result
  | startParse format => ⟨s.startParse format, .ok .nothing, []⟩
  | feed chunk => ⟨(s.feedValue clock chunk).1, (s.feedValue clock chunk).2.map .count, []⟩
  | finishParse => (s.finishParse clock).map .loaded
  | load document format => (s.loadValue clock document format).map .loaded
  | loadEntries entries => (s.loadEntries clock entries).map .loaded
  | call c => c.respond clock s
  | fullView => ⟨s, .ok (.rows s.viewEntries), []⟩
  | viewStatistics => ⟨s, .ok (.statistics s.viewStatistics), []⟩
  | summary => ⟨s, (s.summary clock).finish.1.map .summary, (s.summary clock).finish.2⟩

def after (s : Session) : List (Calendar.Clock × Request) → Session
  | [] => s
  | r :: rest => after (r.2.respond r.1 s).session rest

def returns (s : Session) : List (Calendar.Clock × Request) → Bool
  | [] => true
  | r :: rest => (r.2.respond r.1 s).outcome.isOk && returns (r.2.respond r.1 s).session rest

variable {clock : Calendar.Clock} {s : Session}

theorem after_append (s : Session) (first second : List (Calendar.Clock × Request)) :
    s.after (first ++ second) = (s.after first).after second := by
  induction first generalizing s with
  | nil => rfl
  | cons r rest ih => exact ih _

theorem returns_append (s : Session) (first second : List (Calendar.Clock × Request)) :
    s.returns (first ++ second) = (s.returns first && (s.after first).returns second) := by
  induction first generalizing s with
  | nil => rfl
  | cons r rest ih => rw [List.cons_append, returns, ih, returns, after, Bool.and_assoc]

theorem isOk_iff {α : Type} {o : Outcome α} : o.isOk = true ↔ ∃ a, o = .ok a := by
  cases o <;> simp [Except.isOk, Except.toBool]

theorem after_keeps {P : Session → Prop}
    (step : ∀ s clock (r : Request) result, P s → (r.respond clock s).outcome = .ok result →
      P (r.respond clock s).session)
    {requests : List (Calendar.Clock × Request)} (returns : s.returns requests = true) (holds : P s) :
    P (s.after requests) := by
  induction requests generalizing s with
  | nil => exact holds
  | cons r rest ih =>
      obtain ⟨first, others⟩ := Bool.and_eq_true_iff.mp returns
      obtain ⟨result, done⟩ := isOk_iff.mp first
      exact ih others (step s r.1 r.2 result holds done)

/-! ## What a request leaves -/

/-- The request filters, pages or counts: it neither brings a document nor extracts from it. -/
def Request.looks : Request → Bool
  | call (.runExtractors ..) => false
  | call _ | fullView | viewStatistics | summary => true
  | _ => false

theorem applyFilters_session (filter : Option Filter) (search : Option Search) (order : Option SortOrder) :
    ∃ view, (s.applyFilters clock filter search order).session = { s.asked filter search order with view } := by
  unfold applyFilters
  dsimp only
  split
  · exact ⟨s.view, rfl⟩
  · exact ⟨_, rfl⟩

theorem respond_session_of_looks (clock : Calendar.Clock) (s : Session) {r : Request} (looks : r.looks = true) :
    ∃ filter search order view, (r.respond clock s).session = { s.asked filter search order with view } := by
  have unchanged : s = { s.asked s.appliedFilter s.appliedSearch none with view := s.view } := rfl
  cases r with
  | call c =>
      cases c with
      | applyFilters filter search order => exact ⟨filter, search, order, applyFilters_session filter search order⟩
      | applyDescribed structured search order =>
          simp only [Request.respond, Call.respond]
          cases Filter.ofRequest structured with
          | ok filter => exact ⟨filter, search, order, applyFilters_session filter search order⟩
          | error fault => exact ⟨_, _, _, _, unchanged⟩
      | applyQueryText text order =>
          simp only [Request.respond, Call.respond, applyQueryText]
          cases Search.ofText text with
          | ok search => exact ⟨_, search, order, applyFilters_session _ search order⟩
          | error fault => exact ⟨_, _, _, _, unchanged⟩
      | runExtractors extractors onlyView strategy => exact absurd looks Bool.false_ne_true
      | page number perPage => exact ⟨_, _, _, _, unchanged⟩
  | fullView | viewStatistics | summary => exact ⟨_, _, _, _, unchanged⟩
  | _ => exact absurd looks Bool.false_ne_true

theorem after_of_looks {requests : List (Calendar.Clock × Request)} (looks : ∀ x ∈ requests, x.2.looks = true) :
    (s.after requests).registry = s.registry ∧ (s.after requests).entries = s.entries := by
  induction requests generalizing s with
  | nil => exact ⟨rfl, rfl⟩
  | cons r rest ih =>
      obtain ⟨first, others⟩ := List.forall_mem_cons.mp looks
      obtain ⟨filter, search, order, view, left⟩ := respond_session_of_looks r.1 s first
      obtain ⟨registry, entries⟩ := ih (s := (r.2.respond r.1 s).session) others
      rw [left] at registry entries
      rw [after, left]
      exact ⟨registry, entries⟩

theorem registry_feedValue (chunk : Value) : (s.feedValue clock chunk).1.registry = s.registry := by
  unfold feedValue
  split
  · unfold feed
    dsimp only
    split <;> rfl
  · rfl
  · rfl

theorem limit_settle : (s.settle clock).session.registry.limit = s.registry.limit := by
  unfold settle
  dsimp only
  split
  · rfl
  · next rebuilt =>
      split
      · exact Registry.limit_rebuild rebuilt
      · exact Registry.limit_rebuild rebuilt

theorem finishParse_cases (clock : Calendar.Clock) (s : Session) :
    (∃ fault, s.finishParse clock = ⟨s, .error fault, []⟩) ∨
      ∃ assembler entries, (assembler = s.assembler ∨ assembler = (s.assembler.flush clock).1) ∧
        s.finishParse clock = settle clock { s with assembler, entries, pending := [] } := by
  unfold finishParse
  dsimp only
  split
  · split
    · exact .inl ⟨_, rfl⟩
    · split
      · exact .inl ⟨_, rfl⟩
      · exact .inr ⟨s.assembler, _, .inl rfl, rfl⟩
  · split
    · exact .inl ⟨_, rfl⟩
    · split
      · exact .inl ⟨_, rfl⟩
      · exact .inr ⟨s.assembler, _, .inl rfl, rfl⟩
  · exact .inr ⟨_, _, .inr rfl, rfl⟩

theorem limit_finishParse : (s.finishParse clock).session.registry.limit = s.registry.limit := by
  rcases finishParse_cases clock s with ⟨fault, unread⟩ | ⟨assembler, entries, -, settled⟩
  · rw [unread]
  · rw [settled]
    exact limit_settle

theorem limit_respond (r : Request) : (r.respond clock s).session.registry.limit = s.registry.limit := by
  by_cases looks : r.looks = true
  · obtain ⟨filter, search, order, view, left⟩ := respond_session_of_looks clock s looks
    rw [left]
    rfl
  cases r with
  | startParse format => rfl
  | feed chunk => exact congrArg _ (registry_feedValue chunk)
  | finishParse => exact limit_finishParse
  | load document format =>
      have fed : ((s.startParse format).feedValue clock document).1.registry.limit = s.registry.limit := by
        rw [registry_feedValue]
        rfl
      simp only [Request.respond, Step.map, loadValue]
      split
      · exact limit_finishParse.trans fed
      · exact fed
  | loadEntries entries => exact limit_settle
  | call c =>
      cases c with
      | runExtractors extractors onlyView strategy =>
          simp only [Request.respond, Call.respond, Step.map, runExtractors]
          rcases extract_cases clock s onlyView (Extraction.runValues clock strategy extractors) with
            ⟨fault, -, ended⟩ | ⟨result, -, ⟨fault, -, ended⟩ | ⟨registry, rebuilt, ended⟩⟩
          · rw [ended]
            rfl
          · rw [ended]
            rfl
          · rw [ended]
            exact Registry.limit_rebuild rebuilt
      | _ => exact absurd rfl looks
  | _ => exact absurd rfl looks

theorem limit_after (s : Session) (requests : List (Calendar.Clock × Request)) :
    (s.after requests).registry.limit = s.registry.limit := by
  induction requests generalizing s with
  | nil => rfl
  | cons r rest ih => exact (ih _).trans (limit_respond r.2)

end Session

end LogAnalysis
