import LogAnalysis.Proofs.Fields

/-!
# Extraction again

A pass of extraction that is done again changes nothing. No pass changes a raw text, so that the second one captures what the
first one did. The parts of an entry are given the values that they have by then, and so are the fields, which have
their places (`Members.putAll_again`). What is reported depends on the raw texts alone.

* `Extraction.changedByAll_again` (one entry) and `Extraction.runAll_again` (a pass over entries).
* `Session.extract_again`: the session and the answer after two calls are those after one.
-/

namespace LogAnalysis

theorem foldl_again {α β : Type} {f : β → α → β} (steady : ∀ a, (∀ b, f b a = b) ∨ ∃ c, ∀ b, f b a = c) (xs : List α)
    (b : β) : xs.foldl f (xs.foldl f b) = xs.foldl f b := by
  induction xs using List.reverseRecOn generalizing b with
  | nil => rfl
  | append_singleton xs a ih =>
      simp only [List.foldl_append, List.foldl_cons, List.foldl_nil]
      rcases steady a with same | ⟨c, constant⟩
      · rw [same, same, ih]
      · rw [constant, constant]

/-! ## Entries -/

namespace Extraction

variable {clock : Calendar.Clock} {strategy : MergeStrategy}

theorem foldl_timestampAfter_again (captured : Members (List String)) (timestamp : String) :
    captured.foldl (timestampAfter clock) (captured.foldl (timestampAfter clock) timestamp) =
      captured.foldl (timestampAfter clock) timestamp := by
  refine foldl_again (fun capture => ?_) captured timestamp
  by_cases isTime : Entry.resolveName capture.1 = "ts"
  · by_cases unread : Timestamp.normalize clock (capture.2.headD "") = ""
    · exact .inl fun before => (if_pos isTime).trans (if_pos unread)
    · exact .inr ⟨_, fun before => (if_pos isTime).trans (if_neg unread)⟩
  · exact .inl fun before => if_neg isTime

theorem foldl_levelAfter_again (captured : Members (List String)) (level : String) :
    captured.foldl levelAfter (captured.foldl levelAfter level) = captured.foldl levelAfter level := by
  refine foldl_again (fun capture => ?_) captured level
  by_cases isLevel : capture.1 = "level"
  · exact .inr ⟨_, fun before => if_pos isLevel⟩
  · exact .inl fun before => if_neg isLevel

theorem foldl_messageAfter_again (captured : Members (List String)) (message : String) :
    captured.foldl messageAfter (captured.foldl messageAfter message) = captured.foldl messageAfter message := by
  refine foldl_again (fun capture => ?_) captured message
  by_cases isMessage : capture.1 = "message"
  · exact .inr ⟨_, fun before => if_pos isMessage⟩
  · exact .inl fun before => if_neg isMessage

def fieldPairs (captured : Members (List String)) : Members Value :=
  (captured.filter fun capture => Entry.isFieldName capture.1).map fun capture => (capture.1, .list (capture.2.map .text))

theorem foldl_fieldsAfter_eq (notFirst : strategy ≠ .firstWins) (captured : Members (List String)) (fields : Members Value) :
    captured.foldl (fieldsAfter strategy) fields = Members.putAll fields (fieldPairs captured) := by
  unfold fieldPairs Members.putAll
  induction captured generalizing fields with
  | nil => rfl
  | cons capture rest ih =>
      rw [List.foldl_cons, ih]
      cases isName : Entry.isFieldName capture.1 <;> simp [fieldsAfter, isName, notFirst]

theorem mem_names_fieldsAfter {fields : Members Value} {capture : String × List String} {name : String}
    (there : name ∈ Members.names fields ∨ name = capture.1 ∧ Entry.isFieldName name = true) :
    name ∈ Members.names (fieldsAfter strategy fields capture) := by
  unfold fieldsAfter
  rcases there with before | ⟨rfl, isName⟩
  · split
    · split
      · exact before
      · exact (Members.mem_names_put _).mpr (.inr before)
    · exact before
  · rw [if_pos isName]
    split
    · next both => exact List.contains_iff_mem.mp (Bool.and_eq_true_iff.mp both).2
    · exact (Members.mem_names_put _).mpr (.inl rfl)

theorem mem_names_foldl_fieldsAfter {fields : Members Value} {captured : Members (List String)} {name : String}
    (there : name ∈ Members.names fields ∨ name ∈ Members.names captured ∧ Entry.isFieldName name = true) :
    name ∈ Members.names (captured.foldl (fieldsAfter strategy) fields) := by
  induction captured generalizing fields with
  | nil => exact there.resolve_right fun both => nomatch both.1
  | cons capture rest ih =>
      apply ih
      rcases there with before | ⟨inCaptured, isName⟩
      · exact .inl (mem_names_fieldsAfter (.inl before))
      · rcases List.mem_cons.mp inCaptured with here | later
        · exact .inl (mem_names_fieldsAfter (.inr ⟨here, isName⟩))
        · exact .inr ⟨later, isName⟩

theorem foldl_fieldsAfter_of_present {fields : Members Value} {captured : Members (List String)}
    (present : ∀ capture ∈ captured, Entry.isFieldName capture.1 = true → capture.1 ∈ Members.names fields) :
    captured.foldl (fieldsAfter .firstWins) fields = fields := by
  induction captured with
  | nil => rfl
  | cons capture rest ih =>
      obtain ⟨here, later⟩ := List.forall_mem_cons.mp present
      have unchanged : fieldsAfter .firstWins fields capture = fields := by
        unfold fieldsAfter
        split
        · next isName => simp [here isName]
        · rfl
      rw [List.foldl_cons, unchanged, ih later]

theorem foldl_fieldsAfter_again (captured : Members (List String)) (fields : Members Value) :
    captured.foldl (fieldsAfter strategy) (captured.foldl (fieldsAfter strategy) fields) =
      captured.foldl (fieldsAfter strategy) fields := by
  by_cases isFirst : strategy = .firstWins
  · subst isFirst
    apply foldl_fieldsAfter_of_present
    intro capture member isName
    exact mem_names_foldl_fieldsAfter (.inr ⟨List.mem_map_of_mem member, isName⟩)
  · rw [foldl_fieldsAfter_eq isFirst, foldl_fieldsAfter_eq isFirst]
    exact Members.putAll_again fields _

theorem foldl_applyCapture_again (captured : Members (List String)) (e : Entry) :
    captured.foldl (applyCapture clock strategy) (captured.foldl (applyCapture clock strategy) e) =
      captured.foldl (applyCapture clock strategy) e := by
  rw [foldl_applyCapture, foldl_applyCapture]
  simp only [foldl_timestampAfter_again, foldl_levelAfter_again, foldl_messageAfter_again, foldl_fieldsAfter_again]

-- The index that the first captures leave is not looked at by the others.
theorem applyCaptures_append (captured more : Members (List String)) (e : Entry) :
    applyCaptures clock strategy e (captured ++ more) =
      applyCaptures clock strategy (applyCaptures clock strategy e captured) more := by
  unfold applyCaptures
  rw [List.foldl_append, foldl_applyCapture more, foldl_applyCapture more]
  rfl

variable {found : String → Members (List String)} {e : Entry}

theorem changed_of_nothing (nothing : found e.raw = []) : changed clock strategy found e = e := if_pos nothing

theorem changed_of_captures (captures : found e.raw ≠ []) :
    changed clock strategy found e = applyCaptures clock strategy e (found e.raw) := if_neg captures

-- Without captures the entry keeps its index, right or wrong, so that the cases cannot be told by `applyCaptures_append` alone.
theorem changed_changed (found more : String → Members (List String)) (e : Entry) :
    changed clock strategy more (changed clock strategy found e) =
      changed clock strategy (fun raw => found raw ++ more raw) e := by
  by_cases nothing : found e.raw = []
  · rw [changed_of_nothing nothing]
    simp only [changed, nothing, List.nil_append]
  · have both : changed clock strategy (fun raw => found raw ++ more raw) e =
        applyCaptures clock strategy e (found e.raw ++ more e.raw) :=
      changed_of_captures (List.append_ne_nil_of_left_ne_nil nothing _)
    rw [both]
    by_cases noMore : more e.raw = []
    · have still : more (changed clock strategy found e).raw = [] := by rwa [changed_raw]
      rw [changed_of_nothing still, changed_of_captures nothing, noMore, List.append_nil]
    · have still : more (changed clock strategy found e).raw ≠ [] := by rwa [changed_raw]
      rw [changed_of_captures still, changed_raw, changed_of_captures nothing, applyCaptures_append]

theorem changed_again (found : String → Members (List String)) (e : Entry) :
    changed clock strategy found (changed clock strategy found e) = changed clock strategy found e := by
  by_cases nothing : found e.raw = []
  · rw [changed_of_nothing nothing, changed_of_nothing nothing]
  · have still : found (changed clock strategy found e).raw ≠ [] := by rwa [changed_raw]
    rw [changed_of_captures still, changed_raw, changed_of_captures nothing, ← applyCaptures_append]
    unfold applyCaptures
    rw [List.foldl_append, foldl_applyCapture_again]

theorem changedByAll_eq (extractors : List Extractor) (e : Entry) :
    changedByAll clock strategy extractors e =
      changed clock strategy (fun raw => extractors.flatMap (·.found raw)) e := by
  induction extractors generalizing e with
  | nil => rfl
  | cons x rest ih =>
      have step : changedByAll clock strategy (x :: rest) e =
        changedByAll clock strategy rest (changed clock strategy x.found e) := rfl
      rw [step, ih, changed_changed]
      rfl

theorem changedByAll_again (extractors : List Extractor) (e : Entry) :
    changedByAll clock strategy extractors (changedByAll clock strategy extractors e) =
      changedByAll clock strategy extractors e := by
  simp only [changedByAll_eq]
  exact changed_again _ e

/-! ## Passes -/

theorem reports_runFrom (count index : Nat) (done done' : Result) (entries entries' : List Entry)
    (extractors : List Extractor) : (runFrom clock strategy count index done entries extractors).reports =
      (runFrom clock strategy count index done' entries' extractors).reports := by
  induction extractors generalizing index done done' entries entries' with
  | nil => rfl
  | cons x rest ih =>
      have run := Extractor.run_eq clock strategy x entries
      have run' := Extractor.run_eq clock strategy x entries'
      cases stops : x.stop? with
      | some fault =>
          rw [stops] at run run'
          simp [runFrom, run, run']
      | none =>
          rw [stops] at run run'
          simp only [runFrom, run, run']
          exact congrArg _ (ih ..)

attribute [ext] Pass

theorem runFrom_again (count index : Nat) (done : Result) (entries : List Entry) (extractors : List Extractor) :
    runFrom clock strategy count index done (runFrom clock strategy count index done entries extractors).entries
        extractors = runFrom clock strategy count index done entries extractors := by
  let first := runFrom clock strategy count index done entries extractors
  -- Which extractors run is a matter of their patterns, and what they report one of the raw texts.
  obtain ⟨after, outcome⟩ := @runFrom_eq clock strategy count index done entries extractors
  obtain ⟨again, outcome'⟩ := @runFrom_eq clock strategy count index done first.entries extractors
  rw [applyAll_eq] at after again
  have raws : first.entries.map (·.raw) = entries.map (·.raw) := by
    rw [after, List.map_map]
    exact List.map_congr_left fun e _ => changedByAll_raw _ e
  refine Pass.ext ?_ ?_ (reports_runFrom ..)
  · rw [again, after, List.map_map]
    exact List.map_congr_left fun e _ => changedByAll_again _ e
  · rw [outcome, outcome', applyAll_eq, applyAll_eq, raws]

/-- A pass that is done again leads to the same entries, the same answer and the same reports, also where it stops. -/
theorem runAll_again (clock : Calendar.Clock) (strategy : MergeStrategy) (extractors : List Extractor)
    (entries : List Entry) : runAll clock strategy extractors (runAll clock strategy extractors entries).entries =
      runAll clock strategy extractors entries := by
  unfold runAll
  cases Extractor.ordered extractors with
  | error fault => rfl
  | ok ordered => exact runFrom_again ..

theorem runValues_of_described (clock : Calendar.Clock) {strategy : MergeStrategy} {extractors : List Extractor}
    {given wanted : Value} (described : described wanted given = .ok (strategy, extractors)) :
    runValues clock wanted given = runAll clock strategy extractors := by
  funext entries
  unfold Extraction.described at described
  unfold runValues
  dsimp only
  rw [described]

end Extraction

/-! ## Other times of the day -/

def Calendar.Clock.atMidnight (clock : Calendar.Clock) : Calendar.Clock :=
  { clock with now := ⟨clock.now.date, 0, 0, 0, 0⟩ }

namespace Extraction

-- The day completes what a timestamp leaves out. No timestamp depends on the time of the day.
theorem runPattern_atMidnight (clock : Calendar.Clock) : runPattern clock = runPattern clock.atMidnight := by
  funext strategy p entries tally
  rw [runPattern_eq, runPattern_eq]
  rfl

theorem runFrom_atMidnight (clock : Calendar.Clock) (count index : Nat) (done : Result) (entries : List Entry)
    (extractors : List Extractor) : runFrom clock strategy count index done entries extractors =
      runFrom clock.atMidnight strategy count index done entries extractors := by
  have run_atMidnight : run clock = run clock.atMidnight := by
    unfold run
    rw [runPattern_atMidnight clock]
  induction extractors generalizing index done entries with
  | nil => rfl
  | cons x rest ih => simp only [runFrom, run_atMidnight, ih]

theorem runAll_atMidnight (clock : Calendar.Clock) : runAll clock = runAll clock.atMidnight := by
  funext strategy extractors entries
  unfold runAll
  simp only [runFrom_atMidnight clock]

end Extraction

/-! ## Sessions -/

namespace Session

variable {clock : Calendar.Clock} {s t : Session}

/-! ### Entries in their places -/

theorem getElem?_foldl_setIfInBounds {α : Type} {table : Array α} {changes : List (Nat × α)} {i : Nat} {x : α}
    (inBounds : i < table.size) (only : ∀ c ∈ changes, c.1 = i → c.2 = x)
    (there : (i, x) ∈ changes ∨ table[i]? = some x) :
    (changes.foldl (fun table (k, y) => table.setIfInBounds k y) table)[i]? = some x := by
  -- A place may come several times, but it is always given the same.
  induction changes generalizing table with
  | nil => exact there.resolve_left List.not_mem_nil
  | cons c rest ih =>
      obtain ⟨k, y⟩ := c
      obtain ⟨here, later⟩ := List.forall_mem_cons.mp only
      rw [List.foldl_cons]
      refine ih (Array.size_setIfInBounds.symm ▸ inBounds) later ?_
      by_cases same : k = i
      · obtain rfl := here same
        subst same
        exact .inr (by simp [inBounds])
      · refine there.imp (fun member => ?_) (Array.getElem?_setIfInBounds_ne same).trans
        exact (List.mem_cons.mp member).resolve_left fun equal => same (congrArg Prod.fst equal).symm

theorem getElem?_replace {entries : List Entry} {changes : List (Nat × Entry)} {i : Nat} {e : Entry}
    (inBounds : i < entries.length) (only : ∀ c ∈ changes, c.1 = i → c.2 = e) (there : (i, e) ∈ changes) :
    (replace entries changes)[i]? = some e := by
  rw [replace, Array.getElem?_toList]
  exact getElem?_foldl_setIfInBounds inBounds only (.inl there)

theorem rowsAt_of_replace {positions : List Nat} (f : Entry → Entry)
    (made : t.entries = replace s.entries (((s.rowsAt positions).map (·.2)).zip (((s.rowsAt positions).map (·.1)).map f))) :
    t.rowsAt positions = (s.rowsAt positions).map fun row => (f row.1, row.2) := by
  have changes : ((s.rowsAt positions).map (·.2)).zip (((s.rowsAt positions).map (·.1)).map f) =
      (s.rowsAt positions).map fun row => (row.2, f row.1) := by
    rw [List.map_map]
    exact List.zip_map'
  rw [changes] at made
  unfold rowsAt
  rw [List.map_filterMap]
  refine List.filterMap_congr fun i inPositions => ?_
  rw [List.getElem?_toArray, List.getElem?_toArray]
  cases place : s.entries[i]? with
  | none =>
      have outside : t.entries.length ≤ i := by
        rw [made, length_replace]
        exact List.getElem?_eq_none_iff.mp place
      rw [List.getElem?_eq_none outside]
      rfl
  | some e =>
      obtain ⟨inBounds, -⟩ := List.getElem?_eq_some_iff.mp place
      have isRow : (e, i) ∈ s.rowsAt positions := by
        refine List.mem_filterMap.mpr ⟨i, inPositions, ?_⟩
        rw [List.getElem?_toArray, place]
        rfl
      have changed : t.entries[i]? = some (f e) := by
        rw [made]
        refine getElem?_replace inBounds ?_ (List.mem_map.mpr ⟨(e, i), isRow, rfl⟩)
        intro c member here
        obtain ⟨row, inRows, rfl⟩ := List.mem_map.mp member
        have isEntry : s.entries[i]? = some row.1 := here ▸ mem_rowsAt inRows
        exact congrArg f (Option.some.inj (isEntry.symm.trans place))
      rw [changed]
      rfl

/-! ### Calls -/

theorem afterPass_keeps (s : Session) (pass : Extraction.Pass) :
    (afterPass clock s pass).session.entries = s.entries ∧ (afterPass clock s pass).session.view = s.view := by
  rcases afterPass_cases clock s pass with ⟨fault, -, ended⟩ | ⟨result, -, ⟨fault, -, ended⟩ | ⟨registry, -, ended⟩⟩
  · rw [ended]
    exact ⟨rfl, rfl⟩
  · rw [ended]
    exact ⟨rfl, rfl⟩
  · rw [ended]
    exact ⟨rfl, rfl⟩

theorem trackNames_again (s : Session) (names : List String) :
    (s.trackNames names).trackNames names = s.trackNames names := by
  have known : names.foldl Entry.addName (names.foldl Entry.addName s.fieldNames) =
      names.foldl Entry.addName s.fieldNames := by
    refine List.foldlRecOn (motive := fun given => given = names.foldl Entry.addName s.fieldNames) names _ rfl
      fun given same name member => ?_
    rw [same]
    exact if_pos (List.contains_iff_mem.mpr (Entry.mem_foldl_addName.mpr (.inr member)))
  exact congrArg (fun fieldNames => { s with fieldNames }) known

theorem afterPass_again (s : Session) (pass : Extraction.Pass) :
    afterPass clock (afterPass clock s pass).session pass = afterPass clock s pass := by
  cases outcome : pass.outcome with
  | error fault => simp only [afterPass, outcome]
  | ok result =>
      have names := congrArg fieldNames (trackNames_again s result.fieldNames)
      have entries : (s.trackNames result.fieldNames).entries = s.entries := rfl
      have registry : (s.trackNames result.fieldNames).registry = s.registry := rfl
      -- The registry that is left has the same limit for samples, also where it is cleared.
      cases rebuilt : s.registry.rebuild clock s.entries with
      | error fault =>
          have again : s.registry.cleared.rebuild clock s.entries = .error fault :=
            (Registry.rebuild_of_limit rfl s.entries).trans rebuilt
          simp only [afterPass, outcome, entries, registry, rebuilt]
          simp only [trackNames] at names ⊢
          simp only [names, again]
          rfl
      | ok registry' =>
          have again := Registry.rebuild_again rebuilt
          simp only [afterPass, outcome, entries, registry, rebuilt]
          simp only [trackNames] at names ⊢
          simp only [names, again]

/-- An extraction that changes entries one by one, and does nothing else when it is done again, leaves the session and its
answer when it is called again. -/
theorem extract_extract {extraction : List Entry → Extraction.Pass}
    (oneByOne : ∀ entries, ∃ f : Entry → Entry, (extraction entries).entries = entries.map f)
    (again : ∀ entries, extraction (extraction entries).entries = extraction entries) (s : Session) (onlyView : Bool) :
    (s.extract clock onlyView extraction).session.extract clock onlyView extraction =
      s.extract clock onlyView extraction := by
  let pass := extraction (s.inScope onlyView)
  let made := s.withPass onlyView pass
  let after := (afterPass clock made pass).session
  obtain ⟨entries, view⟩ := @afterPass_keeps clock made pass
  have scope : after.scopePositions onlyView = s.scopePositions onlyView := by
    have length : made.entries.length = s.entries.length := length_replace _ _
    unfold scopePositions
    rw [view, entries, length]
    rfl
  -- The second pass starts with the entries that the first one made.
  obtain ⟨f, mapped⟩ := oneByOne (s.inScope onlyView)
  have rows : after.rowsAt (after.scopePositions onlyView) =
      (s.rowsAt (s.scopePositions onlyView)).map fun row => (f row.1, row.2) := by
    rw [scope]
    exact rowsAt_of_replace f (entries.trans (congrArg (fun made => replace s.entries (List.zip _ made)) mapped))
  have first : after.inScope onlyView = pass.entries := by
    rw [inScope, rows, mapped, inScope, List.map_map, List.map_map]
    rfl
  have inPlace : after.withPass onlyView pass = after := withPass_of_same first.symm
  have second : after.extract clock onlyView extraction = afterPass clock after pass := by
    rw [extract_eq, first, again, inPlace]
  exact second.trans (afterPass_again made pass)

theorem exists_afterPass {pass : Extraction.Pass} {result : Extraction.Result} (done : pass.outcome = .ok result) :
    (∃ extracted, (afterPass clock s pass).outcome = .ok extracted) ↔
      ∃ capacity, sampleCapacity s.registry.limit = .ok capacity := by
  simp only [afterPass, done]
  have registry : (s.trackNames result.fieldNames).registry.rebuild clock (s.trackNames result.fieldNames).entries =
    s.registry.rebuild clock s.entries := rfl
  rw [registry]
  cases rebuilt : s.registry.rebuild clock s.entries with
  | error fault => simp [Registry.capacity_of_rebuild rebuilt]
  | ok r =>
      obtain ⟨capacity, enough, -⟩ := Outcome.bind_eq_ok.mp rebuilt
      simp [enough]

theorem extract_sameDay {later : Calendar.Clock} (day : later.now.date = clock.now.date) (zone : later.ahead = clock.ahead)
    (s : Session) (onlyView : Bool) (strategy : MergeStrategy) (extractors : List Extractor) :
    s.extract later onlyView (Extraction.runAll later strategy extractors) =
      s.extract clock onlyView (Extraction.runAll clock strategy extractors) := by
  have same : later.atMidnight = clock.atMidnight := by
    rw [Calendar.Clock.atMidnight, Calendar.Clock.atMidnight, day, zone]
  have atMidnight (clock : Calendar.Clock) : s.extract clock = s.extract clock.atMidnight := rfl
  rw [Extraction.runAll_atMidnight later, Extraction.runAll_atMidnight clock, atMidnight later, atMidnight clock, same]

def userExtractor : Value := .list [.object [("pattern", .text "user=(?<user>\\w+)"), ("id", .text "u")]]

end Session

end LogAnalysis
