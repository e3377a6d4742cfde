import LogAnalysis.Proofs.Search
import LogAnalysis.Proofs.SortOrder
import LogAnalysis.Session

/-!
# What a view shows

A view is built from the whole data set: earlier views, filters and searches leave no trace in it.
`Session.applyFilters_view` says which entries it shows, in which order, and what else stays as it was.
-/

namespace LogAnalysis.Session

variable {clock : Calendar.Clock} {registry : Registry} {sort : SortOrder} {filter : Option Filter}
  {search : Option Search} {rows chosen : List (Entry × Nat)}

/-- The rows that a filter keeps, where there is one that asks for something. -/
def filtered (clock : Calendar.Clock) (registry : Registry) (filter : Option Filter) (rows : List (Entry × Nat)) :
    Outcome (List (Entry × Nat)) :=
  match filter with
  | none => .ok rows
  | some f => do if !(← f.isEmpty) then (f.keep clock (some registry) (·.1) rows).outcome else return rows

def searched (clock : Calendar.Clock) (registry : Registry) (search : Option Search) (rows : List (Entry × Nat)) :
    Outcome (List (Entry × Nat)) :=
  match search with
  | none => .ok rows
  | some search => (search.keep clock (some registry) (·.1) rows).outcome

theorem yields_sorted (sort : SortOrder) (rows : List (Entry × Nat)) : Run.Yields (do
    Run.report 70 "Sorting results..."
    let chosen ← (sort.rows (·.1) rows : Outcome (List (Entry × Nat)))
    Run.report 100 "Filtering complete"
    return chosen) (sort.rows (·.1) rows) := by
  have last := (Run.yields_lift (sort.rows (·.1) rows)).bind fun chosen =>
    (Run.yields_pure chosen).after_report 100 "Filtering complete"
  rw [Outcome.bind_ok] at last
  exact last.after_report 70 "Sorting results..."

section Stages

variable (clock registry filter search rows) {β : Type} {next : List (Entry × Nat) → Run β}
  {after : List (Entry × Nat) → Outcome β} (rest : ∀ rows, (next rows).Yields (after rows))

include rest

theorem yields_searched : Run.Yields
    (match search with
      | some search => do next (← search.keep clock (some registry) (·.1) rows)
      | none => next rows) (searched clock registry search rows >>= after) := by
  cases search with
  | none => exact rest rows
  | some search => exact (Search.yields_keep search).bind rest

theorem yields_filtered : Run.Yields
    (match filter with
      | some f => do
        if !(← (f.isEmpty : Outcome Bool)) then next (← f.keep clock (some registry) (·.1) rows)
        else next rows
      | none => next rows) (filtered clock registry filter rows >>= after) := by
  cases filter with
  | none => exact rest rows
  | some f =>
      have step : ∀ asksNothing : Bool, Run.Yields
          (if !asksNothing then do next (← f.keep clock (some registry) (·.1) rows) else next rows)
          ((if !asksNothing then (f.keep clock (some registry) (·.1) rows).outcome else .ok rows) >>= after) := by
        intro asksNothing
        cases asksNothing with
        | false =>
            have kept := Filter.yields_keep clock (some registry) (fun x : Entry × Nat => x.1) f rows
            exact kept.outcome.bind rest
        | true => exact rest rows
      have whole := (Run.yields_lift f.isEmpty).bind step
      rw [← bind_assoc] at whole
      exact whole

end Stages

theorem yields_chosenRows : (chosenRows clock registry sort filter search rows).Yields
    (filtered clock registry filter rows >>= fun rows => searched clock registry search rows >>= fun rows =>
      sort.rows (·.1) rows) := by
  have whole := yields_filtered clock registry filter rows fun rows =>
    yields_searched clock registry search rows (yields_sorted sort)
  cases filter <;> cases search <;> exact whole

/-! ## Rows of a view -/

/-- Filter and search let a row through, each asked about no other one. A filter that is not there or asks for nothing
lets every row through, and so does a search that is not there. -/
def Admits (clock : Calendar.Clock) (registry : Registry) (filter : Option Filter) (search : Option Search)
    (x : Entry × Nat) : Prop :=
  (∀ f ∈ filter, f.isEmpty = .ok true ∨ (f.keep clock (some registry) (·.1) [x]).outcome = .ok [x]) ∧
    ∀ q ∈ search, q.Admits clock (some registry) (·.1) x

theorem filtered_eq_ok {kept : List (Entry × Nat)} (done : filtered clock registry filter rows = .ok kept) :
    kept.Sublist rows ∧ ∀ x ∈ rows, x ∈ kept ↔
      ∀ f ∈ filter, f.isEmpty = .ok true ∨ (f.keep clock (some registry) (·.1) [x]).outcome = .ok [x] := by
  cases filter with
  | none =>
      obtain rfl := Except.ok.inj done
      exact ⟨.refl _, fun x member => by simpa using member⟩
  | some f =>
      obtain ⟨asksNothing, answer, done⟩ := Outcome.bind_eq_ok.mp done
      simp only [Option.mem_some_iff, forall_eq', answer, Except.ok.injEq]
      cases asksNothing with
      | true =>
          obtain rfl := Except.ok.inj done
          exact ⟨.refl _, fun x member => by simpa using member⟩
      | false =>
          have same := Filter.keep_eq_ok done
          refine ⟨same ▸ List.filter_sublist, fun x member => ?_⟩
          rw [Filter.keep_single done member, same, List.mem_filter, Except.ok.injEq, List.filter_eq_self]
          simp [member]

theorem searched_eq_ok {kept : List (Entry × Nat)} (done : searched clock registry search rows = .ok kept) :
    kept.Sublist rows ∧ ∀ x ∈ rows, x ∈ kept ↔ ∀ q ∈ search, q.Admits clock (some registry) (·.1) x := by
  cases search with
  | none =>
      obtain rfl := Except.ok.inj done
      exact ⟨.refl _, fun x member => by simpa using member⟩
  | some search =>
      have same := Search.keep_eq_ok done
      refine ⟨same ▸ List.filter_sublist, fun x member => ?_⟩
      simp only [Option.mem_some_iff, forall_eq', ← Search.accepts_iff_admits done member]
      rw [same, List.mem_filter, and_iff_right member]

theorem chosenRows_eq_ok (places : rows.Pairwise (·.2 < ·.2))
    (done : (chosenRows clock registry sort filter search rows).outcome = .ok chosen) :
    (∀ x, x ∈ chosen ↔ x ∈ rows ∧ Admits clock registry filter search x) ∧ (chosen.map (·.2)).Nodup ∧
      ∃ name, sort.field = .text name ∧ chosen.Pairwise (sort.InOrder (.ofName name)) := by
  rw [yields_chosenRows.outcome_eq] at done
  obtain ⟨kept, filterDone, done⟩ := Outcome.bind_eq_ok.mp done
  obtain ⟨found, searchDone, done⟩ := Outcome.bind_eq_ok.mp done
  obtain ⟨keptRows, inKept⟩ := filtered_eq_ok filterDone
  obtain ⟨foundRows, inFound⟩ := searched_eq_ok searchDone
  have subset := foundRows.trans keptRows
  obtain ⟨name, isText, perm, ordered⟩ := SortOrder.rows_eq_ok done (places.sublist subset)
  refine ⟨fun x => ?_, ?_, name, isText, ordered⟩
  · rw [perm.mem_iff]
    constructor
    · intro member
      have inRows := subset.subset member
      exact ⟨inRows, (inKept x inRows).mp (foundRows.subset member), (inFound x (foundRows.subset member)).mp member⟩
    · rintro ⟨inRows, byFilter, bySearch⟩
      exact (inFound x ((inKept x inRows).mpr byFilter)).mpr bySearch
  · have distinct : (found.map (·.2)).Nodup :=
      List.pairwise_map.mpr ((places.sublist subset).imp fun before => Nat.ne_of_lt before)
    exact (perm.map _).nodup_iff.mpr distinct

theorem pairwise_zipIdx {α : Type} (xs : List α) : xs.zipIdx.Pairwise (·.2 < ·.2) := by
  have places : (xs.zipIdx.map (·.2)).Pairwise (· < ·) := by
    rw [List.zipIdx_map_snd]
    exact List.pairwise_lt_range'
  exact List.pairwise_map.mp places

/-! ## Sessions -/

variable {s : Session} {order : Option SortOrder} {found : Found}

theorem applyFilters_eq_ok (done : (s.applyFilters clock filter search order).outcome = .ok found) :
    ∃ rows, (chosenRows clock s.registry (order.getD s.sort) filter search s.entries.zipIdx).outcome = .ok rows ∧
      found.matched = rows.length ∧ (s.applyFilters clock filter search order).session =
        { s with
          appliedFilter := filter, appliedSearch := search, sort := order.getD s.sort, view := rows.map (·.2) } := by
  unfold applyFilters at done ⊢
  dsimp only at done ⊢
  generalize finished :
    (chosenRows clock s.registry (order.getD s.sort) filter search s.entries.zipIdx).finish = result at done ⊢
  obtain ⟨outcome, reports⟩ := result
  cases outcome with
  | error fault => contradiction
  | ok rows =>
      obtain rfl := Except.ok.inj done
      exact ⟨rows, congrArg Prod.fst finished, rfl, rfl⟩

theorem map_rowsAt (s : Session) {positions : List Nat} (valid : ∀ i ∈ positions, ∃ e, s.entries[i]? = some e) :
    (s.rowsAt positions).map (fun row => some row.1) = positions.map (s.entries[·]?) := by
  induction positions with
  | nil => rfl
  | cons i positions ih =>
      obtain ⟨e, isEntry⟩ := valid i List.mem_cons_self
      have rest := ih fun j member => valid j (List.mem_cons_of_mem i member)
      simp only [rowsAt, List.getElem?_toArray] at rest ⊢
      rw [List.filterMap_cons_some (by rw [isEntry]; rfl), List.map_cons, List.map_cons, rest, isEntry]

/-- What a filter call that returns makes of a session. A query that is read from a text is asked together with the
filter that was applied last. -/
theorem applyFilters_view (clock : Calendar.Clock) (s : Session) :
    (∀ filter search order found, (s.applyFilters clock filter search order).outcome = .ok found →
      let after := (s.applyFilters clock filter search order).session
      (∀ i, i ∈ after.view ↔ ∃ e, s.entries[i]? = some e ∧ Admits clock s.registry filter search (e, i)) ∧
        after.view.Nodup ∧
        (∃ name, (order.getD s.sort).field = .text name ∧ after.view.Pairwise fun i j =>
          ∃ a b, s.entries[i]? = some a ∧ s.entries[j]? = some b ∧
            (order.getD s.sort).InOrder (.ofName name) (a, i) (b, j)) ∧
        after.viewEntries.map some = after.view.map (s.entries[·]?) ∧ found.matched = after.view.length ∧
        after.entries = s.entries ∧ after.registry = s.registry ∧ after.fieldNames = s.fieldNames ∧
        after.appliedFilter = filter) ∧
      ∀ text query order, Search.ofText text = .ok query →
        s.applyQueryText clock text order = s.applyFilters clock s.appliedFilter query order := by
  refine ⟨fun filter search order found done => ?_, fun text query order parsed => by rw [applyQueryText, parsed]⟩
  obtain ⟨rows, chosen, matched, session⟩ := applyFilters_eq_ok done
  obtain ⟨admitted, distinct, name, isText, ordered⟩ := chosenRows_eq_ok (pairwise_zipIdx s.entries) chosen
  have atPlace : ∀ x ∈ rows, s.entries[x.2]? = some x.1 := fun x member =>
    List.mem_zipIdx_iff_getElem?.mp ((admitted x).mp member).1
  rw [session]
  refine ⟨fun i => ?_, distinct, ⟨name, isText, ?_⟩, ?_, by simp [matched], rfl, rfl, rfl, rfl⟩
  · constructor
    · intro member
      obtain ⟨x, inRows, rfl⟩ := List.mem_map.mp member
      exact ⟨x.1, atPlace x inRows, ((admitted x).mp inRows).2⟩
    · rintro ⟨e, isEntry, admits⟩
      exact List.mem_map.mpr ⟨(e, i), (admitted (e, i)).mpr ⟨List.mem_zipIdx_iff_getElem?.mpr isEntry, admits⟩, rfl⟩
  · refine List.pairwise_map.mpr (ordered.imp_of_mem fun {x y} inRows inRows' inOrder => ?_)
    exact ⟨x.1, y.1, atPlace x inRows, atPlace y inRows', inOrder⟩
  · rw [viewEntries, List.map_map]
    refine map_rowsAt _ fun i member => ?_
    obtain ⟨x, inRows, rfl⟩ := List.mem_map.mp member
    exact ⟨x.1, atPlace x inRows⟩

def twoEntries : Session where
  registry := { limit := 100 }
  entries := [.make 1 "" "ERROR" "disk full" "disk full" [], .make 2 "" "INFO" "started" "started" []]
  view := [1]

def diskSearch : Search := .query (.rule ⟨.text "raw", .text "contains", .text "disk"⟩)

theorem applyFilters_view_disk :
    ∃ found, (twoEntries.applyFilters (.ofSeconds 0 0) none (some diskSearch) none).outcome = .ok found ∧
      Search.ofText "disk" = .ok (some diskSearch) ∧
      let after := (twoEntries.applyFilters (.ofSeconds 0 0) none (some diskSearch) none).session
      (∀ i, i ∈ after.view ↔ ∃ e, twoEntries.entries[i]? = some e ∧
        Admits (.ofSeconds 0 0) twoEntries.registry none (some diskSearch) (e, i)) ∧
      found.matched = after.view.length ∧
      twoEntries.applyQueryText (.ofSeconds 0 0) "disk" none =
        twoEntries.applyFilters (.ofSeconds 0 0) none (some diskSearch) none := by
  have done : (twoEntries.applyFilters (.ofSeconds 0 0) none (some diskSearch) none).outcome =
      .ok ⟨1, .ofEntries [.make 1 "" "ERROR" "disk full" "disk full" []]⟩ := by
    with_unfolding_all rfl
  have parsed : Search.ofText "disk" = .ok (some diskSearch) := by with_unfolding_all rfl
  obtain ⟨calls, queries⟩ := applyFilters_view (.ofSeconds 0 0) twoEntries
  obtain ⟨shown, -, -, -, matched, -⟩ := calls none (some diskSearch) none _ done
  exact ⟨_, done, parsed, shown, matched, queries "disk" _ none parsed⟩

end LogAnalysis.Session
