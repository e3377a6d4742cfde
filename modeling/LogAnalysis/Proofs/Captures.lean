import LogAnalysis.Extraction
import LogAnalysis.Proofs.Entry

/-!
# What captures change

The texts of a named group are those of its spans in all matches, in their order (`Pattern.get?_foldl_addCapture`). Each
captured group changes one part of an entry, and what becomes of a part depends on that part alone
(`Extraction.applyCapture_eq`); of the fields it depends on the one under the name of the group
(`Extraction.get?_foldl_fieldsAfter`).
-/

namespace LogAnalysis

/-! ## The texts of a group -/

namespace Pattern

def spans (p : Parsed) (text : String) : List (String × String) :=
  let cs := text.toList.toArray
  (p.node.matchesFrom cs (2 * cs.size + 2) false 0).flatMap (namedSpans p cs)

def textsNamed (name : String) (found : List (String × String)) : List String :=
  (found.filter (·.1 = name)).map (·.2)

theorem get?_foldl_addCapture (found : List (String × String)) (captured : Members (List String)) (name : String) :
    Members.get? (found.foldl (fun captured (group, text) => addCapture captured group text) captured) name =
      if textsNamed name found = [] then captured.get? name
      else some ((captured.get? name).getD [] ++ textsNamed name found) := by
  induction found generalizing captured with
  | nil => rfl
  | cons f rest ih =>
      obtain ⟨group, text⟩ := f
      rw [List.foldl_cons, ih]
      simp only [addCapture, Members.get?_put]
      by_cases same : group = name
      · subst same
        have more : textsNamed group ((group, text) :: rest) = text :: textsNamed group rest := by simp [textsNamed]
        rw [more]
        by_cases last : textsNamed group rest = [] <;> simp [last]
      · have less : textsNamed name ((group, text) :: rest) = textsNamed name rest := by simp [textsNamed, same]
        rw [less, if_neg (Ne.symm same)]

theorem nodup_names_foldl_addCapture (found : List (String × String)) :
    (Members.names (found.foldl (fun captured (group, text) => addCapture captured group text) [])).Nodup := by
  apply List.foldlRecOn (motive := fun captured : Members (List String) => (Members.names captured).Nodup)
  · exact List.nodup_nil
  · intro captured distinct f _
    exact Members.nodup_names_put distinct _ _

end Pattern

/-! ## Parts of entries -/

namespace Extraction

variable (clock : Calendar.Clock) (strategy : MergeStrategy)

def timestampAfter (timestamp : String) (capture : String × List String) : String :=
  if Entry.resolveName capture.1 = "ts" then
    let normalized := Timestamp.normalize clock (capture.2.headD "")
    if normalized = "" then timestamp else normalized
  else timestamp

def levelAfter (level : String) (capture : String × List String) : String :=
  if capture.1 = "level" then canonicalLevel (capture.2.headD "") else level

def messageAfter (message : String) (capture : String × List String) : String :=
  if capture.1 = "message" then capture.2.headD "" else message

def fieldsAfter (fields : Members Value) (capture : String × List String) : Members Value :=
  if Entry.isFieldName capture.1 = true then
    if strategy = .firstWins && (Members.names fields).contains capture.1 then fields
    else Members.put fields capture.1 (.list (capture.2.map .text))
  else fields

variable {clock strategy}

theorem resolveName_eq_ts {group : String} (isTime : Entry.resolveName group = "ts") :
    group = "timestamp" ∨ group = "ts" := by
  unfold Entry.resolveName at isTime
  split at isTime
  · next same => exact .inl same
  · exact .inr isTime

theorem eq_of_resolveName {group name : String} (notTime : "ts" ≠ name) (resolved : Entry.resolveName group = name) :
    group = name := by
  unfold Entry.resolveName at resolved
  split at resolved
  · exact absurd resolved notTime
  · exact resolved

theorem applyCapture_eq (e : Entry) (capture : String × List String) :
    applyCapture clock strategy e capture = { e with
      timestamp := timestampAfter clock e.timestamp capture
      level := levelAfter e.level capture
      message := messageAfter e.message capture
      fields := fieldsAfter strategy e.fields capture } := by
  obtain ⟨group, texts⟩ := capture
  unfold applyCapture
  dsimp only
  split
  · next isTime =>
      have noOther : group ≠ "level" ∧ group ≠ "message" ∧ Entry.isFieldName group = false := by
        rcases resolveName_eq_ts isTime with rfl | rfl <;> decide
      simp only [timestampAfter, levelAfter, messageAfter, fieldsAfter, isTime, noOther, if_true, if_false,
        Bool.false_eq_true]
      split <;> rfl
  · next isLevel =>
      obtain rfl := eq_of_resolveName (by decide) isLevel
      simp [timestampAfter, levelAfter, messageAfter, fieldsAfter, Entry.resolveName, Entry.isFieldName,
        Entry.reservedNames]
  · next isMessage =>
      obtain rfl := eq_of_resolveName (by decide) isMessage
      simp [timestampAfter, levelAfter, messageAfter, fieldsAfter, Entry.resolveName, Entry.isFieldName,
        Entry.reservedNames]
  · next isRaw =>
      obtain rfl := eq_of_resolveName (by decide) isRaw
      simp [timestampAfter, levelAfter, messageAfter, fieldsAfter, Entry.resolveName, Entry.isFieldName,
        Entry.reservedNames]
  · next isId =>
      obtain rfl := eq_of_resolveName (by decide) isId
      simp [timestampAfter, levelAfter, messageAfter, fieldsAfter, Entry.resolveName, Entry.isFieldName,
        Entry.reservedNames]
  · next notTime notLevel notMessage notRaw notId =>
      have notTimestamp : group ≠ "timestamp" := fun same => notTime (if_pos same)
      have unchanged : Entry.resolveName group = group := if_neg notTimestamp
      rw [unchanged] at notTime notLevel notMessage notRaw notId ⊢
      have isName : Entry.isFieldName group = true := by
        simp only [Entry.isFieldName_iff, List.mem_cons, List.not_mem_nil, or_false, not_or]
        exact ⟨notId, notTime, notLevel, notMessage, notRaw, notTimestamp⟩
      simp only [timestampAfter, levelAfter, messageAfter, fieldsAfter, unchanged, isName, if_true, if_neg notTime,
        if_neg notLevel, if_neg notMessage]
      split <;> rfl

theorem foldl_applyCapture (captured : Members (List String)) (e : Entry) :
    captured.foldl (applyCapture clock strategy) e = { e with
      timestamp := captured.foldl (timestampAfter clock) e.timestamp
      level := captured.foldl levelAfter e.level
      message := captured.foldl messageAfter e.message
      fields := captured.foldl (fieldsAfter strategy) e.fields } := by
  induction captured generalizing e with
  | nil => rfl
  | cons capture rest ih => rw [List.foldl_cons, ih, applyCapture_eq]; rfl

end Extraction

/-! ## Fields by name -/

def MergeStrategy.merge? (strategy : MergeStrategy) (before captured : Option Value) : Option Value :=
  match strategy with
  | .firstWins => before.or captured
  | .lastWins | .merge => captured.or before

namespace Extraction

variable {strategy : MergeStrategy}

theorem get?_fieldsAfter (fields : Members Value) (capture : String × List String) (name : String) :
    Members.get? (fieldsAfter strategy fields capture) name =
      if Entry.isFieldName name = true ∧ name = capture.1 then
        strategy.merge? (Members.get? fields name) (some (.list (capture.2.map .text)))
      else Members.get? fields name := by
  obtain ⟨group, texts⟩ := capture
  unfold fieldsAfter
  dsimp only
  by_cases same : name = group
  · subst same
    cases isName : Entry.isFieldName name with
    | false => simp
    | true =>
        cases strategy with
        | firstWins =>
            cases before : Members.get? fields name with
            | none =>
                have absent : name ∉ Members.names fields := Members.get?_eq_none_iff.mp before
                simp [absent, MergeStrategy.merge?, Members.get?_put]
            | some v =>
                have present : name ∈ Members.names fields := List.mem_map_of_mem (Members.mem_of_get? before)
                simp [present, MergeStrategy.merge?, before]
        | lastWins => simp [MergeStrategy.merge?, Members.get?_put]
        | merge => simp [MergeStrategy.merge?, Members.get?_put]
  · have differ : ¬ (Entry.isFieldName name = true ∧ name = group) := fun both => same both.2
    rw [if_neg differ]
    split
    · split
      · rfl
      · rw [Members.get?_put, if_neg same]
    · rfl

theorem merge?_none (before : Option Value) : strategy.merge? before none = before := by
  cases strategy <;> simp [MergeStrategy.merge?]

theorem get?_foldl_fieldsAfter {captured : Members (List String)} (distinct : (Members.names captured).Nodup)
    (fields : Members Value) {name : String} (isName : Entry.isFieldName name = true) :
    Members.get? (captured.foldl (fieldsAfter strategy) fields) name =
      strategy.merge? (Members.get? fields name) ((captured.get? name).map fun texts => .list (texts.map .text)) := by
  induction captured generalizing fields with
  | nil => exact (merge?_none _).symm
  | cons capture rest ih =>
      obtain ⟨group, texts⟩ := capture
      obtain ⟨new, later⟩ := List.nodup_cons.mp distinct
      rw [List.foldl_cons, ih later, get?_fieldsAfter, Members.get?_cons]
      by_cases same : name = group
      · subst same
        have noMore : Members.get? rest name = none := Members.get?_eq_none_iff.mpr new
        simp [isName, noMore, merge?_none]
      · simp [same]

theorem get?_foldl_fieldsAfter_of_part (captured : Members (List String)) (fields : Members Value) {name : String}
    (isPart : Entry.isFieldName name = false) :
    Members.get? (captured.foldl (fieldsAfter strategy) fields) name = Members.get? fields name := by
  induction captured generalizing fields with
  | nil => rfl
  | cons capture rest ih => rw [List.foldl_cons, ih, get?_fieldsAfter, isPart]; simp

end Extraction

end LogAnalysis
