import LogAnalysis.Proofs.Registry.Calls

/-!
# The flags of a descriptor

A descriptor has a type and three flags beside it. The type is inferred anew with every registration, and the questions for
it are asked one after the other: a question that comes after the answer is not asked, and its flag stays what it was.

* `Descriptor.Remembers.inferred` (one registration): each flag is the answer to its question where it was last asked.
* `Registry.flags_of_types` (whole runs): the flag for lists agrees with the type. The one for numbers tells whether the last
  type other than lists was that of numbers, and the one for dates whether the last type other than lists and numbers was
  that of dates.
-/

namespace LogAnalysis

/-! ## One descriptor -/

namespace Descriptor

variable {clock : Calendar.Clock} {d : Descriptor} {types : List FieldType}

def held (d : Descriptor) : List FieldType := if d.samples.isEmpty then [] else [d.type]

/-- The flags are the last answers to their questions, where the descriptor had one after the other the given types. -/
structure Remembers (d : Descriptor) (types : List FieldType) : Prop where
  array : d.isArray = true ↔ types.getLast? = some .array
  numeric : d.isNumeric = true ↔ (types.filter (· ≠ .array)).getLast? = some .numeric
  date : d.isDate = true ↔ (types.filter fun t => t ≠ .array ∧ t ≠ .numeric).getLast? = some .date
  type : d.samples ≠ [] → types.getLast? = some d.type

theorem remembers_new (name : String) : Remembers { name } [] where
  array := by simp
  numeric := by simp
  date := by simp
  type := fun held => absurd rfl held

theorem held_of_nonempty (nonempty : d.samples ≠ []) : d.held = [d.type] := by
  simp [held, nonempty]

/-- Inference asks whether there are lists, then whether there are numbers, then whether there are dates, and leaves the
flags of the questions after the answer as they were. -/
theorem Remembers.inferred (remembers : d.Remembers types) (samples : List Value) (unique : List String) :
    (Descriptor.inferred clock { d with samples, unique }).Remembers
      (types ++ (Descriptor.inferred clock { d with samples, unique }).held) := by
  obtain ⟨array, numeric, date, -⟩ := remembers
  by_cases empty : samples = []
  · subst empty
    have same : (Descriptor.inferred clock { d with samples := [], unique }).held = [] := rfl
    rw [same, List.append_nil]
    exact ⟨array, numeric, date, fun nonempty => absurd rfl nonempty⟩
  have asked : samples.isEmpty = false := List.isEmpty_eq_false_iff.mpr empty
  unfold Descriptor.inferred
  simp only [asked, Bool.false_eq_true, if_false]
  split
  · next lists =>
      rw [held_of_nonempty empty]
      exact ⟨by simp [lists], by simpa using numeric, by simpa using date, fun _ => by simp⟩
  · next noLists =>
      split
      · next numbers =>
          rw [held_of_nonempty empty]
          exact ⟨by simpa using noLists, by simpa using numbers, by simpa using date, fun _ => by simp⟩
      · next noNumbers =>
          rw [held_of_nonempty empty]
          split
          · next dates =>
              exact ⟨by simpa using noLists, by simpa using noNumbers, by simpa using dates, fun _ => by simp⟩
          · next noDates =>
              exact ⟨by simpa using noLists, by simpa using noNumbers, by simpa using noDates, fun _ => by simp⟩

theorem exists_addSamples (clock : Calendar.Clock) (capacity : Nat) (d : Descriptor) (values : List Value) :
    ∃ samples unique, d.addSamples clock capacity values = Descriptor.inferred clock { d with samples, unique } := by
  have folded : ∃ samples unique, values.foldl addSample d = { d with samples, unique } :=
    List.foldlRecOn (motive := fun d' : Descriptor => ∃ samples unique, d' = { d with samples, unique }) values _
      ⟨d.samples, d.unique, rfl⟩ fun d' same v _ => by
        obtain ⟨samples, unique, rfl⟩ := same
        cases v <;> exact ⟨_, _, rfl⟩
  obtain ⟨samples, unique, whole⟩ := folded
  exact ⟨latest capacity samples, unique, by rw [addSamples, whole]⟩

theorem Remembers.addSamples (remembers : d.Remembers types) (capacity : Nat) (values : List Value) :
    (d.addSamples clock capacity values).Remembers (types ++ (d.addSamples clock capacity values).held) := by
  obtain ⟨samples, unique, whole⟩ := exists_addSamples clock capacity d values
  rw [whole]
  exact remembers.inferred samples unique

end Descriptor

/-! ## Runs of registrations -/

namespace Registry

structure Registration where
  clock : Calendar.Clock
  name : String
  samples : List Value

def Registration.call (x : Registration) : Calendar.Clock × Call := (x.clock, .register x.name x.samples)

/-- The registry after some registrations. One that is refused changes nothing. -/
def registeredAll (r : Registry) (xs : List Registration) : Registry := r.after (xs.map Registration.call)

/-- What is known about a field; an unknown one has a new descriptor. -/
def descriptor (r : Registry) (name : String) : Descriptor := (r.get? name).getD { name }

/-- The types that a field has after each of some registrations of it, as soon as it holds samples. -/
def typesOf (name : String) (r : Registry) : List Registration → List FieldType
  | [] => []
  | x :: rest =>
    (match r.register x.clock x.name x.samples with
      | .ok r' => if x.name = name then (r'.descriptor name).held else []
      | .error _ => []) ++ typesOf name (x.call.2.respond x.clock r).1 rest

variable {r r' : Registry} {x : Registration} {name : String}

def IsNamed (r : Registry) : Prop := ∀ name, (r.descriptor name).name = name

theorem descriptor_put (d : Descriptor) (name : String) :
    (r.put d).descriptor name = if name = d.name then d else r.descriptor name := by
  unfold descriptor get? put
  rw [Members.get?_put]
  split <;> rfl

theorem exists_of_register (named : r.IsNamed) (done : r.register x.clock x.name x.samples = .ok r') :
    ∃ capacity, ∀ name, r'.descriptor name =
      if name = x.name then (r.descriptor name).addSamples x.clock capacity x.samples else r.descriptor name := by
  obtain ⟨capacity, -, whole⟩ := Outcome.bind_eq_ok.mp done
  obtain rfl := Except.ok.inj whole
  have kept : ((r.descriptor x.name).addSamples x.clock capacity x.samples).name = x.name :=
    ((r.descriptor x.name).addSamples_keeps x.clock capacity x.samples).1.trans (named x.name)
  refine ⟨capacity, fun name => ?_⟩
  rw [show (r.get? x.name).getD { name := x.name } = r.descriptor x.name from rfl, descriptor_put, kept]
  split
  · next same => rw [same]
  · rfl

theorem IsNamed.register (named : r.IsNamed) (done : r.register x.clock x.name x.samples = .ok r') : r'.IsNamed := by
  obtain ⟨capacity, whole⟩ := exists_of_register named done
  intro name
  rw [whole name]
  split
  · exact ((r.descriptor name).addSamples_keeps x.clock capacity x.samples).1.trans (named name)
  · exact named name

/-- What each flag tells about the earlier types, it tells after some registrations about these and the types since. -/
theorem registeredAll_remembers (named : r.IsNamed) {types : List FieldType}
    (remembers : (r.descriptor name).Remembers types) (xs : List Registration) :
    ((r.registeredAll xs).descriptor name).Remembers (types ++ r.typesOf name xs) := by
  induction xs generalizing r types with
  | nil =>
      rw [typesOf, List.append_nil]
      exact remembers
  | cons x rest ih =>
      rw [registeredAll, List.map_cons, after, ← registeredAll, typesOf, ← List.append_assoc]
      cases done : r.register x.clock x.name x.samples with
      | error fault =>
          have same : (x.call.2.respond x.clock r).1 = r := by simp only [Registration.call, Call.respond, done]
          rw [show x.call.1 = x.clock from rfl, same, List.append_nil]
          exact ih named remembers
      | ok r' =>
          have next : (x.call.2.respond x.clock r).1 = r' := by simp only [Registration.call, Call.respond, done]
          rw [show x.call.1 = x.clock from rfl, next]
          obtain ⟨capacity, whole⟩ := exists_of_register named done
          refine ih (named.register done) ?_
          dsimp only
          by_cases same : x.name = name
          · rw [if_pos same, whole name, if_pos same.symm]
            exact remembers.addSamples capacity x.samples
          · rw [if_neg same, List.append_nil, whole name, if_neg (Ne.symm same)]
            exact remembers

/-- In a new registry, after any registrations: the flag for lists of a descriptor that holds samples is set just if its type is
that of lists, the flag for numbers just if the last type that it had other than lists is that of numbers, and the flag for
dates just if the last type that it had other than lists and numbers is that of dates. The type is the last one of these. -/
theorem flags_of_types (limit : Int) (xs : List Registration) {name : String} {d : Descriptor}
    (known : (registeredAll { limit } xs).get? name = some d) (holds : d.samples ≠ []) :
    let types := typesOf name { limit } xs
    types.getLast? = some d.type ∧ (d.isArray = true ↔ d.type = .array) ∧
      (d.isNumeric = true ↔ (types.filter (· ≠ .array)).getLast? = some .numeric) ∧
      (d.isDate = true ↔ (types.filter fun t => t ≠ .array ∧ t ≠ .numeric).getLast? = some .date) := by
  intro types
  have new : (({ limit } : Registry).descriptor name).Remembers [] := Descriptor.remembers_new name
  have remembers := registeredAll_remembers (fun _ => rfl) new xs
  rw [descriptor, known, Option.getD_some, List.nil_append] at remembers
  have last := remembers.type holds
  refine ⟨last, ?_, remembers.numeric, remembers.date⟩
  rw [remembers.array, last, Option.some.injEq]

def numberThenList : List Registration :=
  [⟨.ofSeconds 0 0, "x", [.text "1"]⟩, ⟨.ofSeconds 1 0, "x", [.list [.text "a", .text "b"]]⟩]

theorem flags_of_types_list : ∃ d, (registeredAll { limit := 100 } numberThenList).get? "x" = some d ∧ d.samples ≠ [] ∧
    let types := typesOf "x" { limit := 100 } numberThenList
    types.getLast? = some d.type ∧ (d.isArray = true ↔ d.type = .array) ∧
      (d.isNumeric = true ↔ (types.filter (· ≠ .array)).getLast? = some .numeric) ∧
      (d.isDate = true ↔ (types.filter fun t => t ≠ .array ∧ t ≠ .numeric).getLast? = some .date) := by
  have samples : ((registeredAll { limit := 100 } numberThenList).get? "x").map (·.samples.length) = some 2 := by
    decide +kernel
  obtain ⟨d, known, two⟩ := Option.map_eq_some_iff.mp samples
  have holds : d.samples ≠ [] := List.ne_nil_of_length_pos (by omega)
  exact ⟨d, known, holds, flags_of_types 100 numberThenList known holds⟩

/-- The question for numbers is not asked of a field with lists, so that its flag is still set. -/
theorem isNumeric_of_list :
    ((registeredAll { limit := 100 } numberThenList).get? "x").map (fun d => (d.samples.length, d.type, d.isNumeric)) =
      some (2, .array, true) := by
  decide +kernel

end Registry

end LogAnalysis
