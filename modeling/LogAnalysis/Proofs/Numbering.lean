import LogAnalysis.Proofs.Chunks
import LogAnalysis.Proofs.Outcome
import Mathlib.Data.List.ReduceOption
import Mathlib.Data.List.Nodup

/-!
# Numbers of loaded entries

The entries of a log are counted. Entries of tables and of JSON data keep the numbers that they are given, and only those
without one are counted, so that numbers stay distinct just where the given ones are and the count does not meet them
(`Session.loadText_ids`).
-/

namespace LogAnalysis

/-! ## Given numbers and counted ones -/

/-- Numbers for items of which some have one of their own. The others are counted. -/
def numbered (next : Nat) : List (Option Int) → List Int
  | [] => []
  | some n :: rest => n :: numbered next rest
  | none :: rest => next :: numbered (next + 1) rest

theorem numbered_replicate (next count : Nat) :
    numbered next (List.replicate count none) = (List.range' next count).map Int.ofNat := by
  induction count generalizing next with
  | zero => rfl
  | succ count ih => rw [List.replicate_succ, List.range'_succ, List.map_cons, ← ih]; rfl

theorem numbered_perm (next : Nat) (given : List (Option Int)) :
    (numbered next given).Perm (given.reduceOption ++ (List.range' next (given.count none)).map Int.ofNat) := by
  induction given generalizing next with
  | nil => exact .refl _
  | cons g rest ih =>
      cases g with
      | some n =>
          rw [List.reduceOption_cons_of_some, List.count_cons_of_ne (by simp)]
          exact (ih next).cons n
      | none =>
          rw [List.reduceOption_cons_of_none, List.count_cons_self, List.range'_succ, List.map_cons]
          exact ((ih (next + 1)).cons _).trans List.perm_middle.symm

theorem nodup_numbered_iff (next : Nat) (given : List (Option Int)) :
    (numbered next given).Nodup ↔
      given.reduceOption.Nodup ∧ ∀ n ∈ given.reduceOption, n < next ∨ next + given.count none ≤ n := by
  have counted : ((List.range' next (given.count none)).map Int.ofNat).Nodup :=
    List.Nodup.map (fun a b => Int.ofNat.inj) List.nodup_range'
  have outside (n : Int) : n ∉ (List.range' next (given.count none)).map Int.ofNat ↔
      n < next ∨ next + given.count none ≤ n := by
    simp only [List.mem_map, List.mem_range'_1, not_exists, not_and]
    constructor
    · intro apart
      by_contra inside
      exact apart n.toNat (by omega) (by simp; omega)
    · rintro apart m between rfl
      simp only [Int.ofNat_eq_natCast] at apart
      omega
  rw [(numbered_perm next given).nodup_iff, List.nodup_append']
  simp only [counted, true_and, List.Disjoint]
  refine and_congr_right fun _ => forall₂_congr fun n _ => ?_
  exact outside n

/-! ## Logs -/

namespace Assembler

variable (clock : Calendar.Clock)

/-- The completed entries and the open one are counted from one on, up to the next number. -/
def Counts (a : Assembler) (completed : List Entry) : Prop :=
  ∃ count, a.nextId = count + 1 ∧
    (completed ++ a.opened.toList).map (·.id) = numbered 1 (List.replicate count none)

theorem counts_start : start.Counts [] := ⟨0, rfl, rfl⟩

theorem takeLine_counts {a : Assembler} {completed : List Entry} (counts : a.Counts completed) (line : String) :
    (a.takeLine clock line).1.Counts (completed ++ (a.takeLine clock line).2) := by
  obtain ⟨count, next, ids⟩ := counts
  unfold takeLine
  split
  · exact ⟨count, next, by rwa [List.append_nil]⟩
  · split
    · -- The open entry takes the line and keeps its number.
      next e isOpen continues =>
        refine ⟨count, next, ?_⟩
        rw [isOpen] at ids
        rw [List.append_nil, ← ids, List.map_append, List.map_append]
        rfl
    · refine ⟨count + 1, congrArg (· + 1) next, ?_⟩
      rw [numbered_replicate] at ids ⊢
      rw [List.range'_concat, List.map_append (f := Int.ofNat), ← ids, List.map_append, List.map_append, next]
      simp [startEntry, Entry.make, Nat.add_comm]

theorem takeLines_counts {a : Assembler} {completed : List Entry} (counts : a.Counts completed) (ls : List String) :
    (a.takeLines clock ls).1.Counts (completed ++ (a.takeLines clock ls).2) := by
  induction ls generalizing a completed with
  | nil => rwa [takeLines, List.append_nil]
  | cons line rest ih =>
      have first := ih (takeLine_counts clock counts line)
      rwa [List.append_assoc] at first

end Assembler

theorem parseText_ids (clock : Calendar.Clock) (text : String) :
    (parseText clock text).map (·.id) = numbered 1 (List.replicate (parseText clock text).length none) := by
  obtain ⟨count, -, ids⟩ := Assembler.takeLines_counts clock Assembler.counts_start
    ((Assembler.lines text.toList).map String.ofList)
  have taken : parseText clock text = (Assembler.start.takeText clock text.toList).2 ++
      (Assembler.start.takeText clock text.toList).1.opened.toList := by
    rw [parseText, Assembler.finish_eq]
    rfl
  rw [List.nil_append, ← Assembler.takeText, ← taken] at ids
  have length := congrArg List.length ids
  rw [numbered_replicate, List.length_map, List.length_map, List.length_range'] at length
  rw [length]
  exact ids

/-! ## Tables and JSON data -/

namespace Import

def Columns.carriedId (c : Columns) (cells : List String) : Option (Option Int) :=
  if cellAt cells c.id = "" then some none else (entryId? (.text (cellAt cells c.id))).map some

def memberId (members : Members Value) : Option (Option Int) :=
  match Value.ofOption (Members.get? members "id") with
  | .null => some none
  | v => (entryId? v).map some

def dataRows (rows : List (List String)) : List (List String) :=
  (rows.map (·.map Text.trimmed)).filter (!isBlankRow ·)

def objects (values : List Value) : List (Members Value) :=
  values.filterMap fun
    | .object members => some members
    | _ => none

def takeId (next : Nat) : Option Int → Int × Nat
  | some n => (n, next)
  | none => (next, next + 1)

theorem numbered_cons (next : Nat) (g : Option Int) (rest : List (Option Int)) :
    numbered next (g :: rest) = (takeId next g).1 :: numbered (takeId next g).2 rest := by
  cases g <;> rfl

variable {clock : Calendar.Clock}

theorem rowEntry_id {columns : Columns} {next after : Nat} {cells : List String} {e : Entry} {g : Option Int}
    (read : rowEntry clock columns next cells = .ok (e, after)) (carried : columns.carriedId cells = some g) :
    (e.id, after) = takeId next g := by
  unfold Columns.carriedId at carried
  unfold rowEntry at read
  split at carried
  · next empty =>
      obtain rfl := Option.some.inj carried
      simp only [empty, if_true] at read
      obtain ⟨fields, -, whole⟩ := Outcome.bind_eq_ok.mp read
      obtain ⟨rfl, rfl⟩ := Prod.mk.inj (Except.ok.inj whole)
      rfl
  · next present =>
      obtain ⟨n, isId, rfl⟩ := Option.map_eq_some_iff.mp carried
      simp only [present, if_false, isId] at read
      obtain ⟨fields, -, whole⟩ := Outcome.bind_eq_ok.mp read
      obtain ⟨rfl, rfl⟩ := Prod.mk.inj (Except.ok.inj whole)
      rfl

theorem rowEntries_ids {columns : Columns} {fault : Option Fault} {next : Nat} {rows : List (List String)}
    {entries : List Entry} {given : List (Option Int)} (read : rowEntries clock columns fault next rows = .ok entries)
    (carried : (dataRows rows).map columns.carriedId = given.map some) : entries.map (·.id) = numbered next given := by
  induction rows generalizing next entries given with
  | nil =>
      obtain rfl := List.map_eq_nil_iff.mp carried.symm
      cases fault with
      | some fault => contradiction
      | none =>
          obtain rfl := Except.ok.inj read
          rfl
  | cons row rest ih =>
      rw [rowEntries] at read
      unfold dataRows at carried ih
      rw [List.map_cons] at carried
      split at read
      · -- A blank row makes no entry, and it is none of those that may carry a number.
        next blank =>
          rw [List.filter_cons_of_neg (by simpa using blank)] at carried
          exact ih read carried
      · next notBlank =>
          rw [List.filter_cons_of_pos (by simpa using notBlank)] at carried
          obtain ⟨⟨e, after⟩, isEntry, read⟩ := Outcome.bind_eq_ok.mp read
          obtain ⟨others, isRest, whole⟩ := Outcome.bind_eq_ok.mp read
          obtain rfl := Except.ok.inj whole
          obtain ⟨g, givenRest, rfl, first, others⟩ := List.map_eq_cons_iff.mp carried.symm
          rw [List.map_cons, numbered_cons, ← rowEntry_id isEntry first.symm, ih isRest others.symm]

theorem objectEntry_id (clock : Calendar.Clock) {next : Nat} {members : Members Value} {g : Option Int}
    (carried : memberId members = some g) :
    ((objectEntry clock next members).1.id, (objectEntry clock next members).2) = takeId next g := by
  have isTaken : ((objectEntry clock next members).1.id, (objectEntry clock next members).2) =
      match Value.ofOption (Members.get? members "id") with
      | .null => ((next : Int), next + 1)
      | v => ((entryId? v).getD next, next) := rfl
  rw [isTaken]
  unfold memberId at carried
  cases given : Value.ofOption (Members.get? members "id") with
  | null =>
      rw [given] at carried
      obtain rfl := Option.some.inj carried
      rfl
  | _ =>
      rw [given] at carried
      obtain ⟨n, isId, rfl⟩ := Option.map_eq_some_iff.mp carried
      exact congrArg (fun found => (Option.getD found (next : Int), next)) isId

theorem valueEntries_ids {next : Nat} {values : List Value} {given : List (Option Int)}
    (carried : (objects values).map memberId = given.map some) :
    (valueEntries clock next values).map (·.id) = numbered next given := by
  induction values generalizing next given with
  | nil =>
      obtain rfl := List.map_eq_nil_iff.mp carried.symm
      rfl
  | cons v rest ih =>
      cases v with
      | object members =>
          obtain ⟨g, givenRest, rfl, first, others⟩ := List.map_eq_cons_iff.mp carried.symm
          rw [numbered_cons, ← objectEntry_id clock first.symm]
          exact congrArg _ (ih others.symm)
      | _ => exact ih carried

def tableIds (text : String) : List (Option (Option Int)) :=
  match (Csv.records text).1.dropWhile (·.all Text.isBlankString) with
  | [] => []
  | header :: rows => (dataRows rows).map (Columns.ofHeaders header).carriedId

def jsonIds (text : String) : List (Option (Option Int)) :=
  match Json.parse text with
  | .error _ => []
  | .ok (.list items) => (objects items).map memberId
  | .ok v => (objects [v]).map memberId

theorem ofCsv_ids {text : String} {entries : List Entry} {given : List (Option Int)}
    (read : ofCsv clock text = .ok entries) (carried : tableIds text = given.map some) :
    entries.map (·.id) = numbered 1 given := by
  unfold ofCsv at read
  unfold tableIds at carried
  dsimp only at read
  split at read
  · next noHeader =>
      rw [noHeader] at carried
      exact rowEntries_ids (show rowEntries clock (.ofHeaders []) (Csv.records text).2 1 [] = .ok entries from read)
        carried
  · next header rows isHeader =>
      rw [isHeader] at carried
      exact rowEntries_ids read carried

theorem ofJson_ids {text : String} {entries : List Entry} {given : List (Option Int)}
    (read : ofJson clock text = .ok entries) (carried : jsonIds text = given.map some) :
    entries.map (·.id) = numbered 1 given := by
  unfold ofJson at read
  unfold jsonIds at carried
  split at read
  · contradiction
  · next items parsed =>
      rw [parsed] at carried
      obtain rfl := Except.ok.inj read
      exact valueEntries_ids carried
  · next v noList parsed =>
      obtain rfl := Except.ok.inj read
      rw [parsed] at carried
      refine valueEntries_ids ?_
      rw [← carried]
      split
      · contradiction
      · next items isList => exact absurd (Except.ok.inj isList) (noList items)
      · next same => rw [Except.ok.inj same]

def read (clock : Calendar.Clock) (text : String) : DocumentFormat → Outcome (List Entry)
  | .log => .ok (parseText clock text)
  | .csv => ofCsv clock text
  | .json => ofJson clock text

/-- The numbers that the items of a document carry. Those of a log carry none. -/
def carriedIds (clock : Calendar.Clock) (text : String) : DocumentFormat → List (Option (Option Int))
  | .log => (parseText clock text).map fun _ => some none
  | .csv => tableIds text
  | .json => jsonIds text

/-- Where every number that is carried can be read, the entries that carry one keep it, and the others are counted. -/
theorem read_ids {text : String} {format : DocumentFormat} {entries : List Entry} {given : List (Option Int)}
    (isRead : read clock text format = .ok entries) (carried : carriedIds clock text format = given.map some) :
    entries.map (·.id) = numbered 1 given := by
  cases format with
  | log =>
      obtain rfl := Except.ok.inj isRead
      have noneGiven : given = List.replicate (parseText clock text).length none := by
        refine List.map_injective_iff.mpr (fun _ _ => Option.some.inj) ?_
        rw [← carried, carriedIds, List.map_const', List.map_replicate]
      rw [noneGiven]
      exact parseText_ids clock text
  | csv => exact ofCsv_ids isRead carried
  | json => exact ofJson_ids isRead carried

end Import

namespace Session

theorem settle_entries (clock : Calendar.Clock) (s : Session) : (s.settle clock).session.entries = s.entries := by
  unfold settle
  dsimp only
  split
  · rfl
  · split <;> rfl

theorem loadText_entries (clock : Calendar.Clock) (s : Session) (text : String) (format : DocumentFormat) :
    (s.loadText clock text format).session.entries =
      match Import.read clock text format with
      | .ok entries => entries
      | .error _ => [] := by
  have whole : String.join [text] = text := by rw [String.join_cons, String.join_nil, String.append_empty]
  cases format with
  | log =>
      rw [loadText_eq, finishParse_of_log, settle_entries, whole]
      rfl
  | csv | json =>
      simp only [loadText, startParse, feed, finishParse, List.nil_append, whole, Import.read, if_false,
        Bool.false_eq_true]
      split
      · next fault failed => rw [failed]
      · next entries isRead => rw [settle_entries, isRead]

/-- After a document is loaded, entries that carry a number have it, and the others are counted from one on, in order,
provided that each number that is carried can be read. So the numbers are distinct if the carried ones are and the count
reaches none of them; those of a log are. A document that cannot be read leaves no entries. -/
theorem loadText_ids (clock : Calendar.Clock) (s : Session) (text : String) (format : DocumentFormat) :
    let ids := (s.loadText clock text format).session.entries.map (·.id)
    (format = .log → ids = (List.range' 1 ids.length).map Int.ofNat ∧ ids.Nodup) ∧
      (∀ fault, Import.read clock text format = .error fault → ids = []) ∧
      ∀ entries given, Import.read clock text format = .ok entries →
        Import.carriedIds clock text format = given.map some →
        ids = numbered 1 given ∧
          (ids.Nodup ↔ given.reduceOption.Nodup ∧ ∀ n ∈ given.reduceOption, n < 1 ∨ given.count none < n) := by
  intro ids
  have held := loadText_entries clock s text format
  refine ⟨?_, fun fault failed => ?_, fun entries given isRead carried => ?_⟩
  · rintro rfl
    have counted : ids = (List.range' 1 ids.length).map Int.ofNat := by
      have numbers : ids = (List.range' 1 (parseText clock text).length).map Int.ofNat := by
        rw [← numbered_replicate, ← parseText_ids, ← show _ = parseText clock text from held]
      have length : ids.length = (parseText clock text).length := by
        rw [numbers, List.length_map, List.length_range']
      rw [length, numbers]
    refine ⟨counted, ?_⟩
    rw [counted]
    exact List.Nodup.map (fun a b => Int.ofNat.inj) List.nodup_range'
  · rw [failed] at held
    rw [List.map_eq_nil_iff, held]
  · simp only [isRead] at held
    have numbers : ids = numbered 1 given := by
      rw [← Import.read_ids isRead carried, ← held]
    refine ⟨numbers, ?_⟩
    rw [numbers, nodup_numbered_iff]
    refine and_congr_right fun _ => forall₂_congr fun n _ => ?_
    omega

/-- Numbers that are carried twice stay, and so does one that the count has reached. -/
theorem loadText_ids_equal :
    let ids := fun text => ((new 100).loadText (.ofSeconds 0 0) text .csv).session.entries.map (·.id)
    ids "id,message\n7,a\n7,b\n" = [7, 7] ∧ ids "id,message\n,a\n1,b\n" = [1, 1] := by
  decide +kernel

end Session

end LogAnalysis
