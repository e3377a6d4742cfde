import LogAnalysis.Proofs.Numbering
import LogAnalysis.Proofs.Requests

/-!
# What a new document makes of a session

A client who starts a new document sees the same from then on whatever the session went through before, but for the sort
order, which stays.

* `SortOrder.rows_congr`: two orders that put lists of entries in the same order do so with rows of any kind.
* `Session.SameButOrder.respond` (one request) and `Session.SameButOrder.replies` (whole runs): sessions that differ in
  nothing but such orders answer alike.
* `Session.replies_iff_sameOrder`: after any two histories, all runs that start a new document show the same just if the
  sort orders put all entries in the same order.
-/

namespace LogAnalysis

/-! ## Orders that cannot be told apart -/

namespace SortOrder

variable {α : Type} {o o' : SortOrder} {name : String}

/-- The first entry may stand before the second in the order by a name. -/
def allows (o : SortOrder) (name : String) (a b : Entry) : Bool :=
  if o.isDescending then (Key.ofName name).ascending b a else (Key.ofName name).ascending a b

theorem allows_self (o : SortOrder) (name : String) (e : Entry) : o.allows name e e = true := by
  have inOrder : (Key.ofName name).ascending e e = true := by simpa using Key.ascending_total (Key.ofName name) e e
  rw [allows, inOrder, ite_self]

theorem rows_of_name (isName : o.field = .text name) (entryOf : α → Entry) (xs : List α) :
    o.rows entryOf xs = .ok (xs.mergeSort fun x y => o.allows name (entryOf x) (entryOf y)) := by
  rw [rows, isName]
  rfl

theorem rows_of_no_name (noName : ∀ name, o.field ≠ .text name) (entryOf : α → Entry) (xs : List α) :
    o.rows entryOf xs = .error .noSuchPart := by
  unfold rows
  split
  · next name isName => exact absurd isName (noName name)
  · rfl

theorem allows_congr {name' : String} (alike : ∀ entries, o.rows id entries = o'.rows id entries)
    (isName : o.field = .text name) (isName' : o'.field = .text name') (a b : Entry) :
    o.allows name a b = o'.allows name' a b := by
  have pairs := alike [a, b]
  rw [rows_of_name isName, rows_of_name isName', Except.ok.injEq, mergeSort_pair, mergeSort_pair] at pairs
  simp only [id_eq] at pairs
  by_cases equal : a = b
  · rw [equal, allows_self, allows_self]
  · cases first : o.allows name a b <;> cases second : o'.allows name' a b
    · rfl
    · simp [first, second, Ne.symm equal] at pairs
    · simp [first, second, equal] at pairs
    · rfl

theorem rows_congr (alike : ∀ entries, o.rows id entries = o'.rows id entries) (entryOf : α → Entry) (xs : List α) :
    o.rows entryOf xs = o'.rows entryOf xs := by
  -- Whether an order can be followed at all shows with an empty list already.
  have empty := alike []
  by_cases isName : ∃ name, o.field = .text name
  · obtain ⟨name, isName⟩ := isName
    by_cases isName' : ∃ name, o'.field = .text name
    · obtain ⟨name', isName'⟩ := isName'
      rw [rows_of_name isName, rows_of_name isName']
      simp only [allows_congr alike isName isName']
    · rw [rows_of_name isName, rows_of_no_name (not_exists.mp isName')] at empty
      contradiction
  · by_cases isName' : ∃ name, o'.field = .text name
    · obtain ⟨name', isName'⟩ := isName'
      rw [rows_of_name isName', rows_of_no_name (not_exists.mp isName)] at empty
      contradiction
    · rw [rows_of_no_name (not_exists.mp isName), rows_of_no_name (not_exists.mp isName')]

theorem map_rows (o : SortOrder) (entryOf : α → Entry) (xs : List α) :
    (o.rows entryOf xs).map (List.map entryOf) = o.rows id (xs.map entryOf) := by
  unfold rows
  split
  · exact congrArg Except.ok (List.map_mergeSort fun _ _ _ _ => rfl)
  · rfl

end SortOrder

namespace Session

variable {clock : Calendar.Clock} {s t : Session}

/-! ## Sessions that differ in nothing but their orders -/

def SameButOrder (s t : Session) : Prop :=
  ∃ sort, t = { s with sort } ∧ ∀ entries, s.sort.rows id entries = sort.rows id entries

/-- Two steps have the same outcome and the same reports, and leave sessions that differ in nothing but their orders. -/
structure Step.Same {α : Type} (step other : Step α) : Prop where
  outcome : step.outcome = other.outcome
  reports : step.reports = other.reports
  session : step.session.SameButOrder other.session

theorem Step.Same.map {α β : Type} {step other : Step α} (same : step.Same other) (f : α → β) :
    (step.map f).Same (other.map f) :=
  ⟨congrArg (Except.map f) same.outcome, same.reports, same.session⟩

theorem SameButOrder.refl (s : Session) : s.SameButOrder s := ⟨s.sort, rfl, fun _ => rfl⟩

theorem SameButOrder.startParse (same : s.SameButOrder t) (format : DocumentFormat) :
    (s.startParse format).SameButOrder (t.startParse format) := by
  obtain ⟨sort, rfl, alike⟩ := same
  exact ⟨sort, rfl, alike⟩

theorem SameButOrder.feedValue (same : s.SameButOrder t) (clock : Calendar.Clock) (chunk : Value) :
    (s.feedValue clock chunk).1.SameButOrder (t.feedValue clock chunk).1 ∧
      (s.feedValue clock chunk).2 = (t.feedValue clock chunk).2 := by
  obtain ⟨sort, rfl, alike⟩ := same
  obtain ⟨registry, assembler, entries, view, fieldNames, appliedFilter, appliedSearch, order, format, pending, spoiled⟩ := s
  cases chunk <;> cases format <;> exact ⟨⟨sort, rfl, alike⟩, rfl⟩

theorem SameButOrder.settle (same : s.SameButOrder t) : (s.settle clock).Same (t.settle clock) := by
  obtain ⟨sort, rfl, alike⟩ := same
  have sorted (fieldNames : List String) (registry : Registry) :
      ({ s with fieldNames, registry, sort } : Session).sorted = ({ s with fieldNames, registry } : Session).sorted := by
    rw [Session.sorted, Session.sorted, ← SortOrder.rows_congr alike]
  simp only [Session.settle, trackNames]
  cases s.registry.rebuild clock s.entries with
  | error fault => exact ⟨rfl, rfl, sort, rfl, alike⟩
  | ok registry =>
      simp only [sorted]
      split
      · exact ⟨rfl, rfl, sort, rfl, alike⟩
      · exact ⟨rfl, rfl, sort, rfl, alike⟩

theorem SameButOrder.finishParse (same : s.SameButOrder t) : (s.finishParse clock).Same (t.finishParse clock) := by
  have settled (assembler : Assembler) (entries : List Entry) :
      (Session.settle clock { s with assembler, entries, pending := [] }).Same
        (Session.settle clock { t with assembler, entries, pending := [] }) := by
    refine SameButOrder.settle ?_
    obtain ⟨sort, rfl, alike⟩ := same
    exact ⟨sort, rfl, alike⟩
  obtain ⟨sort, rfl, alike⟩ := same
  have failed (fault : Fault) : Step.Same (α := Loaded) ⟨s, .error fault, []⟩ ⟨{ s with sort }, .error fault, []⟩ :=
    ⟨rfl, rfl, sort, rfl, alike⟩
  simp only [Session.finishParse]
  split
  · split
    · exact failed _
    · split
      · exact failed _
      · exact settled _ _
  · split
    · exact failed _
    · split
      · exact failed _
      · exact settled _ _
  · exact settled _ _

theorem SameButOrder.loadValue (same : s.SameButOrder t) (document : Value) (format : DocumentFormat) :
    (s.loadValue clock document format).Same (t.loadValue clock document format) := by
  obtain ⟨fed, outcome⟩ := (same.startParse format).feedValue clock document
  simp only [Session.loadValue]
  rw [← outcome]
  split
  · exact fed.finishParse
  · exact ⟨rfl, rfl, fed⟩

theorem SameButOrder.applyFilters (same : s.SameButOrder t) (filter : Option Filter) (search : Option Search)
    (order : Option SortOrder) :
    (s.applyFilters clock filter search order).Same (t.applyFilters clock filter search order) := by
  obtain ⟨sort, rfl, alike⟩ := same
  have asked : ∀ entries, (order.getD s.sort).rows id entries = (order.getD sort).rows id entries := by
    cases order with
    | none => exact alike
    | some order => exact fun _ => rfl
  have chosen : chosenRows clock s.registry (order.getD sort) filter search s.entries.zipIdx =
      chosenRows clock s.registry (order.getD s.sort) filter search s.entries.zipIdx := by
    simp only [chosenRows, SortOrder.rows_congr asked]
  simp only [Session.applyFilters, chosen]
  split
  · exact ⟨rfl, rfl, _, rfl, asked⟩
  · exact ⟨rfl, rfl, _, rfl, asked⟩

theorem SameButOrder.runExtractors (same : s.SameButOrder t) (extractors : Value) (onlyView : Bool) (strategy : Value) :
    (s.runExtractors clock extractors onlyView strategy).Same (t.runExtractors clock extractors onlyView strategy) := by
  obtain ⟨sort, rfl, alike⟩ := same
  have rows (positions : List Nat) : ({ s with sort } : Session).rowsAt positions = s.rowsAt positions := rfl
  have scope : ({ s with sort } : Session).scopePositions onlyView = s.scopePositions onlyView := rfl
  simp only [Session.runExtractors, extract, rows, scope, trackNames]
  split
  · exact ⟨rfl, rfl, sort, rfl, alike⟩
  · split
    · exact ⟨rfl, rfl, sort, rfl, alike⟩
    · exact ⟨rfl, rfl, sort, rfl, alike⟩

/-- What comes of a request and what it leaves does not depend on more of a sort order than where it puts entries. -/
theorem SameButOrder.respond (same : s.SameButOrder t) (clock : Calendar.Clock) (r : Request) :
    (r.respond clock s).Same (r.respond clock t) := by
  cases r with
  | startParse format => exact ⟨rfl, rfl, same.startParse format⟩
  | feed chunk =>
      obtain ⟨fed, outcome⟩ := same.feedValue clock chunk
      exact ⟨congrArg (Except.map Worker.Result.count) outcome, rfl, fed⟩
  | finishParse => exact same.finishParse.map _
  | load document format => exact (same.loadValue document format).map _
  | loadEntries entries =>
      have started : ({ s.startParse .log with entries } : Session).SameButOrder { t.startParse .log with entries } := by
        obtain ⟨sort, rfl, alike⟩ := same
        exact ⟨sort, rfl, alike⟩
      exact started.settle.map _
  | call c =>
      cases c with
      | applyFilters filter search order => exact (same.applyFilters filter search order).map _
      | applyDescribed structured search order =>
          simp only [Request.respond, Call.respond]
          split
          · exact (same.applyFilters _ search order).map _
          · exact ⟨rfl, rfl, same⟩
      | applyQueryText text order =>
          have applied : s.appliedFilter = t.appliedFilter := by
            obtain ⟨sort, rfl, -⟩ := same
            rfl
          simp only [Request.respond, Call.respond, applyQueryText]
          split
          · exact ⟨rfl, rfl, same⟩
          · rw [← applied]
            exact (same.applyFilters _ _ order).map _
      | runExtractors extractors onlyView strategy => exact (same.runExtractors extractors onlyView strategy).map _
      | page number perPage =>
          obtain ⟨sort, rfl, alike⟩ := same
          exact ⟨rfl, rfl, sort, rfl, alike⟩
  | fullView | viewStatistics | summary =>
      obtain ⟨sort, rfl, alike⟩ := same
      exact ⟨rfl, rfl, sort, rfl, alike⟩

/-! ## Runs that show the same -/

structure Reply where
  outcome : Outcome Worker.Result
  reports : List Progress
  entries : List Entry
  view : List Entry

def replies (s : Session) : List (Calendar.Clock × Request) → List Reply
  | [] => []
  | r :: rest =>
    let step := r.2.respond r.1 s
    ⟨step.outcome, step.reports, step.session.entries, step.session.viewEntries⟩ :: replies step.session rest

theorem SameButOrder.replies (same : s.SameButOrder t) (requests : List (Calendar.Clock × Request)) :
    s.replies requests = t.replies requests := by
  induction requests generalizing s t with
  | nil => rfl
  | cons r rest ih =>
      have answered := same.respond r.1 r.2
      have shown : (r.2.respond r.1 s).session.entries = (r.2.respond r.1 t).session.entries ∧
          (r.2.respond r.1 s).session.viewEntries = (r.2.respond r.1 t).session.viewEntries := by
        obtain ⟨sort, left, -⟩ := answered.session
        rw [left]
        exact ⟨rfl, rfl⟩
      rw [Session.replies, Session.replies, answered.outcome, answered.reports, shown.1, shown.2, ih answered.session]

theorem settle_sort : (s.settle clock).session.sort = s.sort := by
  unfold settle
  dsimp only
  split
  · rfl
  · split <;> rfl

theorem rowsAt_map_snd {rows : List (Entry × Nat)} (placed : ∀ x ∈ rows, s.entries[x.2]? = some x.1) :
    s.rowsAt (rows.map (·.2)) = rows := by
  have each : ∀ x ∈ rows, (s.entries.toArray[x.2]?.map fun e => (e, x.2)) = some x := fun x member => by
    rw [List.getElem?_toArray, placed x member]
    rfl
  rw [rowsAt, List.filterMap_map]
  exact (List.filterMap_congr each).trans List.filterMap_some

theorem applyFilters_all (clock : Calendar.Clock) (s : Session) :
    let step := s.applyFilters clock none none none
    (step.outcome.map fun _ => step.session.viewEntries) = s.sort.rows id s.entries := by
  have whole := SortOrder.map_rows s.sort (·.1) s.entries.zipIdx
  rw [List.zipIdx_map_fst] at whole
  have chosen : (chosenRows clock s.registry s.sort none none s.entries.zipIdx).finish.1 =
      s.sort.rows (·.1) s.entries.zipIdx := yields_chosenRows.outcome_eq
  unfold applyFilters
  dsimp only [Option.getD_none]
  generalize (chosenRows clock s.registry s.sort none none s.entries.zipIdx).finish = result at chosen ⊢
  obtain ⟨outcome, reports⟩ := result
  obtain rfl : outcome = s.sort.rows (·.1) s.entries.zipIdx := chosen
  rw [← whole]
  cases sorted : s.sort.rows (·.1) s.entries.zipIdx with
  | error fault => rfl
  | ok rows =>
      obtain ⟨-, -, perm, -⟩ := SortOrder.rows_eq_ok sorted (pairwise_zipIdx s.entries)
      have placed : ∀ x ∈ rows, s.entries[x.2]? = some x.1 := fun x member =>
        List.mem_zipIdx_iff_getElem?.mp (perm.mem_iff.mp member)
      have shown : (s.rowsAt (rows.map (·.2))).map (·.1) = rows.map (·.1) := by rw [rowsAt_map_snd placed]
      exact congrArg Except.ok shown

theorem applyFilters_loadEntries (clock : Calendar.Clock) (s : Session) (entries : List Entry) :
    let step := (s.loadEntries clock entries).session.applyFilters clock none none none
    (step.outcome.map fun _ => step.session.viewEntries) = s.sort.rows id entries := by
  have whole := applyFilters_all clock (s.loadEntries clock entries).session
  rwa [loadEntries, settle_sort, settle_entries] at whole

/-- After any two histories with the same limit for samples: every run of requests that starts a new document shows the same
outcomes, reports, entries and views just if the orders that the histories left put all lists of entries in the same
order. Nothing else that came before can show. -/
theorem replies_iff_sameOrder (limit : Int) (before before' : List (Calendar.Clock × Request)) :
    let s := (new limit).after before
    let t := (new limit).after before'
    (∀ clock format requests,
      s.replies ((clock, .startParse format) :: requests) = t.replies ((clock, .startParse format) :: requests)) ↔
        ∀ entries, s.sort.rows id entries = t.sort.rows id entries := by
  intro s t
  constructor
  -- The run that loads the entries and asks for all of them shows their order.
  · intro same entries
    let clock := Calendar.Clock.ofSeconds 0 0
    have run := same clock .log [(clock, .loadEntries entries), (clock, .call (.applyFilters none none none))]
    simp only [replies, Request.respond, Call.respond, Step.map, List.cons.injEq, Reply.mk.injEq] at run
    obtain ⟨-, -, ⟨outcome, -, -, view⟩, -⟩ := run
    have first := applyFilters_loadEntries clock (s.startParse .log) entries
    have second := applyFilters_loadEntries clock (t.startParse .log) entries
    have shown := congrArg (Except.map fun _ =>
      (((t.startParse .log).loadEntries clock entries).session.applyFilters clock none none none).session.viewEntries)
      outcome
    rw [Outcome.map_map, Outcome.map_map] at shown
    dsimp only at first
    rw [view] at first
    exact first.symm.trans (shown.trans second)
  -- Of what a start leaves, only the limit for samples is older, and no request changes it.
  · intro alike clock format requests
    have limits : s.registry.limit = t.registry.limit := (limit_after _ before).trans (limit_after _ before').symm
    have started : (s.startParse format).SameButOrder (t.startParse format) := by
      refine ⟨t.sort, ?_, alike⟩
      simp only [startParse, Registry.cleared, limits]
    exact congrArg (List.cons _) (started.replies requests)

/-- A line is loaded, and the view shows lines from the first one on. -/
def showAscending : List (Calendar.Clock × Request) :=
  [(.ofSeconds 0 0, .load (.text "a") .log),
    (.ofSeconds 0 0, .call (.applyFilters none none (some ⟨.text "id", .text "asc"⟩)))]

def showTwoEntries : List (Calendar.Clock × Request) :=
  [(.ofSeconds 0 0, .startParse .log), (.ofSeconds 0 0, .loadEntries twoEntries.entries),
    (.ofSeconds 0 0, .call (.applyFilters none none none))]

/-- The order in which a document was shown tells itself by the view of the next one. -/
theorem replies_after_ascending :
    let s := (new 100).after []
    let t := (new 100).after showAscending
    (new 100).returns showAscending = true ∧
      (s.replies showTwoEntries).getLast?.map (fun reply => reply.view.map (·.id)) = some [2, 1] ∧
      (t.replies showTwoEntries).getLast?.map (fun reply => reply.view.map (·.id)) = some [1, 2] ∧
      s.replies showTwoEntries ≠ t.replies showTwoEntries := by
  intro s t
  have last (u : Session) {shown : List Entry} (rows : u.sort.rows id twoEntries.entries = .ok shown) :
      (u.replies showTwoEntries).getLast?.map (fun reply => reply.view.map (·.id)) = some (shown.map (·.id)) := by
    have whole := applyFilters_loadEntries (.ofSeconds 0 0) (u.startParse .log) twoEntries.entries
    obtain ⟨found, -, view⟩ := Outcome.map_eq_ok.mp (whole.trans rows)
    exact congrArg (fun view => some (List.map (fun e : Entry => e.id) view)) view
  have descending : s.sort.rows id twoEntries.entries = .ok twoEntries.entries.reverse := by
    rw [SortOrder.rows_of_name (show s.sort.field = .text "id" from rfl)]
    exact congrArg _ (mergeSort_pair _ _ _)
  have ascending : t.sort.rows id twoEntries.entries = .ok twoEntries.entries := by
    obtain ⟨view, asked⟩ := @applyFilters_session (.ofSeconds 0 0) (withLine 100 "a") none none
      (some ⟨.text "id", .text "asc"⟩)
    have sort : t.sort = ⟨.text "id", .text "asc"⟩ := congrArg Session.sort asked
    rw [sort, SortOrder.rows_of_name rfl]
    exact congrArg _ (mergeSort_pair _ _ _)
  refine ⟨by decide +kernel, last s descending, last t ascending, fun same => ?_⟩
  have both := last t ascending
  rw [← same, last s descending] at both
  exact absurd both (by decide)

end Session

end LogAnalysis
