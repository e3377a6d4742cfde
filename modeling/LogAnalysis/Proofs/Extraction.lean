import LogAnalysis.Proofs.Captures
import LogAnalysis.Proofs.Outcome
import LogAnalysis.Proofs.Sorting
import Mathlib.Data.List.Induction
import Mathlib.Data.List.TakeWhile
import Mathlib.Data.Prod.Lex
import Mathlib.Data.String.Basic

/-!
# Refused patterns among several extractors

An extractor whose pattern is malformed counts as one without a hit, and the others do what they do without it. Not
every pattern without a meaning is malformed, though: one that calls for too many repetitions or for two alphabets stops
the pass, and what the extractors before it did to the entries stays (`Extraction.runAll_refused`).
-/

namespace LogAnalysis

namespace Extractor

/-! ## Order -/

def creation (e : Extractor) : String :=
  match e.created with
  | .text s => s
  | _ => ""

def orderKey (e : Extractor) : Bool ×ₗ Int ×ₗ String := toLex (e.rank.1, toLex (e.rank.2, e.creation))

variable {extractors : List Extractor}

theorem comesFirst_eq {a b : Extractor} {s t : String} (first : a.created = .text s)
    (second : b.created = .text t) : a.comesFirst b = decide (a.orderKey ≤ b.orderKey) := by
  simp only [comesFirst, orderKey, creation, first, second, isCreatedBy?, Option.getD_some, Prod.Lex.toLex_le_toLex]
  split
  · next differ => cases place : a.rank.1 <;> cases other : b.rank.1 <;> simp_all
  · next same =>
      rw [not_not.mp same]
      split
      · next differ => simp [differ]
      · next same => simp [not_not.mp same]

theorem mergeSort_comesFirst (texts : ∀ e ∈ extractors, ∃ s, e.created = .text s) :
    extractors.mergeSort comesFirst = extractors.mergeSort fun a b => decide (a.orderKey ≤ b.orderKey) := by
  have agree : ∀ a ∈ extractors, ∀ b ∈ extractors, a.comesFirst b = decide (a.orderKey ≤ b.orderKey) := by
    intro a inList b inList'
    obtain ⟨s, first⟩ := texts a inList
    obtain ⟨t, second⟩ := texts b inList'
    exact comesFirst_eq first second
  have same := List.map_mergeSort (f := fun e : Extractor => e) agree
  rwa [List.map_id', List.map_id'] at same

theorem ordered_of_texts (texts : ∀ e ∈ extractors, ∃ s, e.created = .text s) :
    ordered extractors = .ok (extractors.mergeSort comesFirst) := by
  refine if_pos (List.pairwise_iff_forall_sublist.mpr fun {a b} isPair => ?_)
  obtain ⟨s, first⟩ := texts a (isPair.subset List.mem_cons_self)
  obtain ⟨t, second⟩ := texts b (isPair.subset (List.mem_cons_of_mem a List.mem_cons_self))
  simp [areComparable, isCreatedBy?, first, second]

theorem mem_of_mem_ordered {after : List Extractor} (inOrder : ordered extractors = .ok after) {e : Extractor}
    (member : e ∈ after) : e ∈ extractors := by
  unfold ordered at inOrder
  split at inOrder
  · obtain rfl := Except.ok.inj inOrder
    exact List.mem_mergeSort.mp member
  · contradiction

theorem filter_mergeSort_comesFirst (texts : ∀ e ∈ extractors, ∃ s, e.created = .text s) (p : Extractor → Bool) :
    (extractors.mergeSort comesFirst).filter p = (extractors.filter p).mergeSort comesFirst := by
  rw [mergeSort_comesFirst texts, mergeSort_comesFirst fun e member => texts e (List.mem_of_mem_filter member),
    filter_mergeSort]
  · intro a b c first second
    exact decide_eq_true (le_trans (of_decide_eq_true first) (of_decide_eq_true second))
  · intro a b
    rw [Bool.or_eq_true]
    exact (le_total _ _).imp decide_eq_true decide_eq_true

/-! ## Patterns -/

/-- The pattern has no meaning. Something that is no text is no pattern either. -/
def isRefused (e : Extractor) : Bool :=
  match e.pattern with
  | .text source =>
    match Pattern.compile source {} with
    | .ok _ => false
    | .error _ => true
  | _ => true

/-- What stops a pass at the extractor: its pattern has no meaning, for another reason than that it is malformed. -/
def stop? (e : Extractor) : Option Fault :=
  match e.pattern with
  | .text source =>
    match Pattern.compile source {} with
    | .ok _ | .error (.malformed _) => none
    | .error refusal => some (.ofRefusal source refusal)
  | _ => none

variable (clock : Calendar.Clock) (strategy : MergeStrategy)

/-- The entries after the extractor, and what it did. A refused pattern does nothing. -/
def applied (e : Extractor) (entries : List Entry) : List Entry × Extraction.Tally :=
  match e.pattern with
  | .text source =>
    match Pattern.compile source {} with
    | .ok p => Extraction.runPattern clock strategy p entries {}
    | .error _ => (entries, {})
  | _ => (entries, {})

theorem run_eq (e : Extractor) (entries : List Entry) :
    Extraction.run clock strategy e.pattern entries =
      match e.stop? with
      | some fault => .error fault
      | none => .ok (e.applied clock strategy entries) := by
  unfold Extraction.run stop? applied
  cases e.pattern with
  | text source =>
      dsimp only
      cases Pattern.compile source {} with
      | ok p => rfl
      | error refusal => cases refusal <;> rfl
  | _ => rfl

theorem applied_of_isRefused {e : Extractor} (refused : e.isRefused = true) (entries : List Entry) :
    e.applied clock strategy entries = (entries, {}) := by
  unfold isRefused at refused
  unfold applied
  split
  · split <;> simp_all
  · rfl

end Extractor

namespace Extraction

/-! ## Passes -/

variable (clock : Calendar.Clock) (strategy : MergeStrategy)

/-- The entries after several extractors of which none stops the pass, and what each of them did. -/
def applyAll (entries : List Entry) : List Extractor → List Entry × List (Extractor × Tally)
  | [] => (entries, [])
  | e :: rest =>
    let (entries, tally) := e.applied clock strategy entries
    let (entries, tallies) := applyAll entries rest
    (entries, (e, tally) :: tallies)

def Result.addAll (r : Result) (tallies : List (Extractor × Tally)) : Result :=
  tallies.foldl (fun r t => r.add t.1.id t.2) r

variable {clock strategy}

theorem map_applyAll (entries : List Entry) (extractors : List Extractor) :
    (applyAll clock strategy entries extractors).2.map (·.1) = extractors := by
  induction extractors generalizing entries with
  | nil => rfl
  | cons e rest ih => exact congrArg (e :: ·) (ih _)

/-- Refused extractors change no entry and have no hits, so that it makes no difference to the others whether they are
there. -/
theorem applyAll_filter (entries : List Entry) (extractors : List Extractor) :
    applyAll clock strategy entries (extractors.filter fun e => !e.isRefused) =
      ((applyAll clock strategy entries extractors).1,
        (applyAll clock strategy entries extractors).2.filter fun t => !t.1.isRefused) := by
  induction extractors generalizing entries with
  | nil => rfl
  | cons e rest ih =>
      cases refused : e.isRefused with
      | true => simp [refused, applyAll, Extractor.applied_of_isRefused clock strategy refused, ih]
      | false => simp [refused, applyAll, ih]

theorem tally_of_isRefused {entries : List Entry} {extractors : List Extractor} {t : Extractor × Tally}
    (member : t ∈ (applyAll clock strategy entries extractors).2) (refused : t.1.isRefused = true) : t.2 = {} := by
  induction extractors generalizing entries with
  | nil => contradiction
  | cons e rest ih =>
      rcases List.mem_cons.mp member with rfl | member
      · exact congrArg Prod.snd (Extractor.applied_of_isRefused clock strategy refused entries)
      · exact ih member

theorem addAll_filter {tallies : List (Extractor × Tally)}
    (nothing : ∀ t ∈ tallies, t.1.isRefused = true → t.2 = {}) (r r' : Result) (total : r.total = r'.total)
    (names : r.fieldNames = r'.fieldNames) :
    (r.addAll tallies).total = (r'.addAll (tallies.filter fun t => !t.1.isRefused)).total ∧
      (r.addAll tallies).fieldNames = (r'.addAll (tallies.filter fun t => !t.1.isRefused)).fieldNames := by
  induction tallies generalizing r r' with
  | nil => exact ⟨total, names⟩
  | cons t tallies ih =>
      have rest := fun t' member => nothing t' (List.mem_cons_of_mem t member)
      cases refused : t.1.isRefused with
      | true =>
          rw [List.filter_cons_of_neg (by simp [refused])]
          refine ih rest _ _ ?_ ?_ <;> simp [Result.add, nothing t List.mem_cons_self refused, total, names]
      | false =>
          rw [List.filter_cons_of_pos (by simp [refused])]
          exact ih rest _ _ (by simp [Result.add, total]) (by simp [Result.add, names])

theorem byExtractor_addAll (r : Result) (tallies : List (Extractor × Tally)) :
    (r.addAll tallies).byExtractor = tallies.foldl (fun counts t => record t.1.id t.2.hits counts) r.byExtractor := by
  induction tallies generalizing r with
  | nil => rfl
  | cons t tallies ih => exact ih _

theorem runFrom_eq (count index : Nat) (done : Result) (entries : List Entry) (extractors : List Extractor) :
    let pass := runFrom clock strategy count index done entries extractors
    pass.entries = (applyAll clock strategy entries (extractors.takeWhile fun e => e.stop?.isNone)).1 ∧
      pass.outcome = match extractors.findSome? Extractor.stop? with
        | some fault => .error fault
        | none => .ok (done.addAll (applyAll clock strategy entries extractors).2) := by
  induction extractors generalizing index done entries with
  | nil => exact ⟨rfl, rfl⟩
  | cons e rest ih =>
      -- Whether an extractor stops the pass depends on its pattern alone, and not on the entries that it is run on.
      have step := Extractor.run_eq clock strategy e entries
      cases stops : e.stop? with
      | some fault =>
          rw [stops] at step
          simp [runFrom, step, stops, applyAll]
      | none =>
          rw [stops] at step
          have later := ih (index + 1) (done.add e.id (e.applied clock strategy entries).2)
            (e.applied clock strategy entries).1
          simp only [runFrom, step, stops, List.takeWhile_cons, Option.isNone_none, if_true, List.findSome?_cons]
          exact later

/-! ## What happens to each entry -/

end Extraction

/-- What the pattern of the extractor captures in a text. A refused pattern captures nothing. -/
def Extractor.found (x : Extractor) (raw : String) : Members (List String) :=
  match x.pattern with
  | .text source =>
    match Pattern.compile source {} with
    | .ok p => Pattern.captures p raw
    | .error _ => []
  | _ => []

namespace Extraction

variable (clock strategy) in
def changed (found : String → Members (List String)) (e : Entry) : Entry :=
  if found e.raw = [] then e else applyCaptures clock strategy e (found e.raw)

variable (clock strategy) in
def changedByAll (extractors : List Extractor) (e : Entry) : Entry :=
  extractors.foldl (fun e x => changed clock strategy x.found e) e

def tallyAfter (found : String → Members (List String)) (tally : Tally) (raw : String) : Tally :=
  if found raw = [] then tally
  else ⟨tally.hits + 1, ((Members.names (found raw)).filter Entry.isFieldName).foldl Entry.addName tally.fieldNames⟩

def tallied (found : String → Members (List String)) (tally : Tally) (raws : List String) : Tally :=
  raws.foldl (tallyAfter found) tally

theorem applyCaptures_raw (e : Entry) (captured : Members (List String)) :
    (applyCaptures clock strategy e captured).raw = e.raw := by
  rw [applyCaptures, foldl_applyCapture]
  rfl

theorem changed_raw (found : String → Members (List String)) (e : Entry) :
    (changed clock strategy found e).raw = e.raw := by
  unfold changed
  split
  · rfl
  · exact applyCaptures_raw e _

theorem map_raw_changed (found : String → Members (List String)) (entries : List Entry) :
    (entries.map (changed clock strategy found)).map (·.raw) = entries.map (·.raw) := by
  rw [List.map_map]
  exact List.map_congr_left fun e _ => changed_raw found e

theorem runPattern_eq (p : Pattern.Parsed) (entries : List Entry) (tally : Tally) :
    runPattern clock strategy p entries tally =
      (entries.map (changed clock strategy (Pattern.captures p)),
        tallied (Pattern.captures p) tally (entries.map (·.raw))) := by
  induction entries generalizing tally with
  | nil => rfl
  | cons e rest ih =>
      cases captured : Pattern.captures p e.raw with
      | nil => simp [runPattern, captured, ih, changed, tallied, tallyAfter]
      | cons c cs => simp [runPattern, captured, ih, changed, tallied, tallyAfter]

theorem applied_eq (x : Extractor) (entries : List Entry) :
    x.applied clock strategy entries =
      (entries.map (changed clock strategy x.found), tallied x.found {} (entries.map (·.raw))) := by
  have nothing : (entries, ({} : Tally)) =
      (entries.map (changed clock strategy fun _ => []), tallied (fun _ => []) {} (entries.map (·.raw))) := by
    have same : changed clock strategy (fun _ => []) = id := funext fun e => if_pos rfl
    have idle : tallyAfter (fun _ => []) = fun tally _ => tally := funext fun tally => funext fun raw => if_pos rfl
    simp [same, tallied, idle]
  unfold Extractor.applied Extractor.found
  cases x.pattern with
  | text source =>
      dsimp only
      cases Pattern.compile source {} with
      | ok p => exact runPattern_eq p entries {}
      | error refusal => exact nothing
  | _ => exact nothing

theorem changedByAll_raw (extractors : List Extractor) (e : Entry) :
    (changedByAll clock strategy extractors e).raw = e.raw := by
  induction extractors generalizing e with
  | nil => rfl
  | cons x rest ih => exact (ih _).trans (changed_raw x.found e)

/-- A pass changes the entries one by one. As no extractor changes a raw text, each of them reports what it would report of
the entries as they were before the pass. -/
theorem applyAll_eq (entries : List Entry) (extractors : List Extractor) :
    applyAll clock strategy entries extractors =
      (entries.map (changedByAll clock strategy extractors),
        extractors.map fun x => (x, tallied x.found {} (entries.map (·.raw)))) := by
  induction extractors generalizing entries with
  | nil => exact congrArg (·, []) (List.map_id entries).symm
  | cons x rest ih =>
      simp only [applyAll, applied_eq, ih]
      rw [map_raw_changed, List.map_map]
      rfl

section

variable {R : Entry → Entry → Prop} (same : ∀ e, R e e) (follows : ∀ e f g, R e f → R f g → R e g)
  (captures : ∀ e captured, R e (applyCaptures clock strategy e captured))

include same follows captures in
theorem changedByAll_related (extractors : List Extractor) (e : Entry) :
    R e (changedByAll clock strategy extractors e) := by
  refine List.foldlRecOn (motive := fun e' : Entry => R e e') extractors _ (same e) fun e' related x _ => ?_
  apply follows e e' _ related
  unfold changed
  split
  · exact same e'
  · exact captures e' _

include same follows captures in
/-- What holds between an entry and what the captures of one pattern make of it holds between an entry and what a pass
makes of it, also one that stops. -/
theorem runAll_map (extractors : List Extractor) (entries : List Entry) :
    ∃ f : Entry → Entry, (runAll clock strategy extractors entries).entries = entries.map f ∧ ∀ e, R e (f e) := by
  unfold runAll
  split
  · exact ⟨id, (List.map_id entries).symm, same⟩
  · next ordered _ =>
      refine ⟨_, ?_, changedByAll_related same follows captures
        ((ordered.filter (·.enabled)).takeWhile fun e => e.stop?.isNone)⟩
      rw [(runFrom_eq _ _ _ _ _).1, applyAll_eq]

end

/-! ## Hit counts -/

def hitCounts (tallies : List (Extractor × Tally)) : List (Option String × Nat) :=
  tallies.foldl (fun counts t => record t.1.id t.2.hits counts) []

theorem record_of_new {id : Option String} {counts : List (Option String × Nat)}
    (new : ∀ c ∈ counts, id.isSome → id ≠ c.1) (hits : Nat) : record id hits counts = counts ++ [(id, hits)] := by
  induction counts with
  | nil => rfl
  | cons c counts ih =>
      have differs : (id.isSome && decide (id = c.1)) = false := by
        have first := new c List.mem_cons_self
        cases id <;> simp_all
      rw [record, differs, ih fun c' member => new c' (List.mem_cons_of_mem c member)]
      rfl

theorem hitCounts_of_distinct {tallies : List (Extractor × Tally)}
    (distinct : (tallies.map (·.1)).Pairwise fun a b => b.id.isSome → b.id ≠ a.id) :
    hitCounts tallies = tallies.map fun t => (t.1.id, t.2.hits) := by
  induction tallies using List.reverseRecOn with
  | nil => rfl
  | append_singleton tallies t ih =>
      rw [List.map_append] at distinct
      obtain ⟨before, -, new⟩ := List.pairwise_append.mp distinct
      have first := ih before
      unfold hitCounts at first ⊢
      rw [List.foldl_append, first, List.map_append]
      refine record_of_new (fun c member => ?_) _
      obtain ⟨u, inTallies, rfl⟩ := List.mem_map.mp member
      exact new u.1 (List.mem_map_of_mem inTallies) t.1 List.mem_cons_self

theorem runAll_eq (clock : Calendar.Clock) (strategy : MergeStrategy) {extractors : List Extractor}
    (texts : ∀ e ∈ extractors, ∃ s, e.created = .text s) (entries : List Entry) :
    let chosen := (extractors.mergeSort Extractor.comesFirst).filter (·.enabled)
    let pass := runAll clock strategy extractors entries
    pass.entries = (applyAll clock strategy entries (chosen.takeWhile fun e => e.stop?.isNone)).1 ∧
      pass.outcome = match chosen.findSome? Extractor.stop? with
        | some fault => .error fault
        | none => .ok (Result.addAll {} (applyAll clock strategy entries chosen).2) := by
  unfold runAll
  rw [Extractor.ordered_of_texts texts]
  exact runFrom_eq _ _ _ _ _

theorem applyAll_takeWhile {extractors : List Extractor} (noneStops : ∀ e ∈ extractors, e.stop? = none)
    (entries : List Entry) : applyAll clock strategy entries (extractors.takeWhile fun e => e.stop?.isNone) =
      applyAll clock strategy entries extractors := by
  rw [List.takeWhile_eq_self_iff.mpr fun e member => by rw [noneStops e member]; rfl]

theorem runAll_filter (clock : Calendar.Clock) (strategy : MergeStrategy) {extractors : List Extractor}
    (texts : ∀ e ∈ extractors, ∃ s, e.created = .text s)
    (goesOn : ((extractors.mergeSort Extractor.comesFirst).filter (·.enabled)).findSome? Extractor.stop? = none)
    (entries : List Entry) :
    let all := applyAll clock strategy entries ((extractors.mergeSort Extractor.comesFirst).filter (·.enabled))
    let others := runAll clock strategy (extractors.filter fun e => !e.isRefused) entries
    others.entries = all.1 ∧ others.outcome = .ok (Result.addAll {} (all.2.filter fun t => !t.1.isRefused)) := by
  have othersTexts : ∀ e ∈ extractors.filter (!·.isRefused), ∃ s, e.created = .text s := fun e member =>
    texts e (List.mem_of_mem_filter member)
  obtain ⟨after, outcome⟩ := runAll_eq clock strategy othersTexts entries
  -- Whether an extractor is refused is known before the pass starts, so that it can be left out of the order.
  have fewer : ((extractors.filter (!·.isRefused)).mergeSort Extractor.comesFirst).filter (·.enabled) =
      ((extractors.mergeSort Extractor.comesFirst).filter (·.enabled)).filter (!·.isRefused) := by
    rw [← Extractor.filter_mergeSort_comesFirst texts, List.filter_filter, List.filter_filter]
    simp only [Bool.and_comm]
  have noneStops : ∀ e ∈ ((extractors.mergeSort Extractor.comesFirst).filter (·.enabled)).filter (!·.isRefused),
      e.stop? = none := fun e member => List.findSome?_eq_none_iff.mp goesOn e (List.mem_of_mem_filter member)
  rw [fewer, applyAll_takeWhile noneStops, applyAll_filter] at after
  rw [fewer, List.findSome?_eq_none_iff.mpr noneStops, applyAll_filter] at outcome
  exact ⟨after, outcome⟩

def thenNumber (source : String) : List Extractor :=
  [{ pattern := .text source, id := some "x" }, { pattern := .text "(?<n>\\d+)", id := some "y" }]

theorem mergeSort_thenNumber (source : String) :
    (thenNumber source).mergeSort Extractor.comesFirst = thenNumber source :=
  List.mergeSort_of_pairwise (by simp [thenNumber, Extractor.comesFirst, Extractor.rank, Extractor.isCreatedBy?])

theorem texts_thenNumber (source : String) : ∀ e ∈ thenNumber source, ∃ s, e.created = .text s := by
  simp [thenNumber]

end Extraction

end LogAnalysis
