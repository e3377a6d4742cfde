import LogAnalysis.Proofs.Fields

/-!
# Calls on a registry

Everything that can be asked of a registry, with what comes of it. Runs of calls start from any registry (`Registry.after`,
`Registry.replies`), each call at a time of its own.
-/

namespace LogAnalysis.Registry

inductive Call
  | register (name : String) (samples : List Value)
  | rebuild (entries : List Entry)
  | type (name : String)
  | uniqueValues (name : String) (limit : Int)
  | snapshot

inductive Reply
  | descriptor (d : Option Descriptor)
  | nothing
  | type (t : Option FieldType)
  | values (vs : List Value)
  | data (v : Value)

/-- The registry after a call, and what comes of it. A registry that cannot be built again has forgotten its fields. -/
def Call.respond (clock : Calendar.Clock) (r : Registry) : Call → Registry × Outcome Reply
  | register name samples =>
    match r.register clock name samples with
    | .ok r' => (r', .ok (.descriptor (r'.get? name)))
    | .error fault => (r, .error fault)
  | rebuild entries =>
    match r.rebuild clock entries with
    | .ok r' => (r', .ok .nothing)
    | .error fault => (r.cleared, .error fault)
  | type name => (r, .ok (.type (r.type? name)))
  | uniqueValues name limit => (r, (r.uniqueValues name limit).map .values)
  | snapshot => (r, r.snapshot.map .data)

def after (r : Registry) : List (Calendar.Clock × Call) → Registry
  | [] => r
  | c :: rest => after (c.2.respond c.1 r).1 rest

def replies (r : Registry) : List (Calendar.Clock × Call) → List (Outcome Reply)
  | [] => []
  | c :: rest => (c.2.respond c.1 r).2 :: replies (c.2.respond c.1 r).1 rest

theorem respond_cases (clock : Calendar.Clock) (r : Registry) (c : Call) :
    (c.respond clock r).1 = r ∨
      (∃ name samples, r.register clock name samples = .ok (c.respond clock r).1) ∨
      (∃ entries, r.rebuild clock entries = .ok (c.respond clock r).1) ∨
      (c.respond clock r).1 = r.cleared := by
  cases c with
  | register name samples =>
      cases done : r.register clock name samples with
      | error fault => exact .inl (by simp only [Call.respond, done])
      | ok r' => exact .inr (.inl ⟨name, samples, by simp only [Call.respond, done]⟩)
  | rebuild entries =>
      cases done : r.rebuild clock entries with
      | error fault => exact .inr (.inr (.inr (by simp only [Call.respond, done])))
      | ok r' => exact .inr (.inr (.inl ⟨entries, by simp only [Call.respond, done]⟩))
  | type name => exact .inl rfl
  | uniqueValues name limit => exact .inl rfl
  | snapshot => exact .inl rfl

theorem limit_respond (clock : Calendar.Clock) (r : Registry) (c : Call) : (c.respond clock r).1.limit = r.limit := by
  rcases respond_cases clock r c with same | ⟨name, samples, done⟩ | ⟨entries, done⟩ | forgotten
  · rw [same]
  · exact limit_register done
  · exact limit_rebuild done
  · rw [forgotten]
    rfl

theorem limit_after (r : Registry) (calls : List (Calendar.Clock × Call)) : (r.after calls).limit = r.limit := by
  induction calls generalizing r with
  | nil => rfl
  | cons c rest ih => exact (ih _).trans (limit_respond c.1 r c.2)

end LogAnalysis.Registry
