import LogAnalysis.Value.Basic
import Mathlib.Data.List.Induction

/-!
# Named values

A name that is there keeps its place when it is given a value, and a new one goes to the end. Hence values that are given
again in the same order change nothing (`Members.putAll_again`).
-/

namespace LogAnalysis.Members

variable {α : Type} {m : Members α} {name other : String}

/-! ## Values under names -/

theorem get?_cons (k : String) (v : α) (m : Members α) (name : String) :
    get? ((k, v) :: m) name = if name = k then some v else get? m name := by
  unfold get?
  rw [List.lookup_cons]
  by_cases same : name = k
  · simp [same]
  · simp [same, beq_eq_false_iff_ne.mpr same]

theorem get?_eq_none_iff : get? m name = none ↔ name ∉ names m := by
  induction m with
  | nil => simp [get?, names]
  | cons p rest ih =>
      obtain ⟨k, v⟩ := p
      have split : name ∈ names ((k, v) :: rest) ↔ name = k ∨ name ∈ names rest := List.mem_cons
      rw [get?_cons, split]
      by_cases same : name = k
      · simp [same]
      · simp only [same, if_false, false_or, ih]

theorem mem_of_get? {value : α} (found : get? m name = some value) : (name, value) ∈ m := by
  obtain ⟨before, after, parts, -⟩ := List.lookup_eq_some_iff.mp found
  rw [parts]
  exact List.mem_append_right before List.mem_cons_self

/-! ## A value that is given -/

theorem mem_put {value : α} {p : String × α} (member : p ∈ put m name value) : p ∈ m ∨ p = (name, value) := by
  induction m with
  | nil => exact .inr (List.mem_singleton.mp member)
  | cons q rest ih =>
      obtain ⟨k, v⟩ := q
      by_cases same : k = name
      · rw [put, if_pos same] at member
        rcases List.mem_cons.mp member with rfl | member
        · exact .inr rfl
        · exact .inl (List.mem_cons_of_mem _ member)
      · rw [put, if_neg same] at member
        rcases List.mem_cons.mp member with rfl | member
        · exact .inl List.mem_cons_self
        · exact (ih member).imp_left (List.mem_cons_of_mem _)

theorem nodup_names_put (distinct : (names m).Nodup) (name : String) (v : α) : (names (put m name v)).Nodup := by
  rw [names_put]
  split
  · exact distinct
  · next new => exact List.nodup_append.mpr ⟨distinct, List.pairwise_singleton _ name, by grind⟩

theorem put_of_new (new : name ∉ names m) (value : α) :
    put m name value = m ++ [(name, value)] := by
  induction m with
  | nil => rfl
  | cons q rest ih =>
      obtain ⟨k, v⟩ := q
      simp only [names, List.map_cons, List.mem_cons, not_or] at new
      rw [put, if_neg (Ne.symm new.1), ih new.2]
      rfl

theorem mem_names_put (v : α) : other ∈ names (put m name v) ↔ other = name ∨ other ∈ names m := by
  rw [names_put]
  split
  · next present => exact (or_iff_right_of_imp fun same => same ▸ present).symm
  · rw [List.mem_append, List.mem_singleton, or_comm]

theorem put_put (m : Members α) (name : String) (v w : α) : put (put m name v) name w = put m name w := by
  induction m with
  | nil => simp [put]
  | cons p rest ih =>
      obtain ⟨k, u⟩ := p
      by_cases same : k = name
      · simp [put, same]
      · simp [put, same, ih]

theorem put_comm (differ : name ≠ other) (present : name ∈ names m) (v w : α) :
    put (put m name v) other w = put (put m other w) name v := by
  induction m with
  | nil => contradiction
  | cons p rest ih =>
      obtain ⟨k, u⟩ := p
      by_cases here : k = name
      · subst here
        simp [put, differ]
      · have later : name ∈ names rest := (List.mem_cons.mp present).resolve_left (Ne.symm here)
        by_cases there : k = other
        · subst there
          simp [put, here]
        · simp [put, here, there, ih later]

theorem put_append (present : name ∈ names m) (v : α) (more : Members α) :
    put (m ++ more) name v = put m name v ++ more := by
  induction m with
  | nil => contradiction
  | cons p rest ih =>
      obtain ⟨k, u⟩ := p
      by_cases here : k = name
      · simp [put, here]
      · have later : name ∈ names rest := (List.mem_cons.mp present).resolve_left (Ne.symm here)
        simp [put, here, ih later]

/-! ## Several values -/

def putAll (m pairs : Members α) : Members α := pairs.foldl (fun m p => put m p.1 p.2) m

variable {pairs : Members α}

theorem putAll_of_new (m pairs : Members α) (distinct : (names (m ++ pairs)).Nodup) : putAll m pairs = m ++ pairs := by
  unfold putAll
  induction pairs generalizing m with
  | nil => rw [List.foldl_nil, List.append_nil]
  | cons p rest ih =>
      have new : p.1 ∉ names m := by
        intro member
        rw [names, List.map_append, List.nodup_append] at distinct
        exact distinct.2.2 p.1 member p.1 (List.mem_map_of_mem List.mem_cons_self) rfl
      rw [List.foldl_cons, put_of_new new, ih _ (by rwa [List.append_assoc, List.singleton_append]), List.append_assoc,
        List.singleton_append]

theorem ofPairs_of_distinct (distinct : (names pairs).Nodup) : ofPairs pairs = pairs := putAll_of_new [] pairs distinct

theorem mem_names_putAll : name ∈ names (putAll m pairs) ↔ name ∈ names pairs ∨ name ∈ names m := by
  unfold putAll
  induction pairs generalizing m with
  | nil => simp [names]
  | cons p rest ih =>
      have split : name ∈ names (p :: rest) ↔ name = p.1 ∨ name ∈ names rest := List.mem_cons
      rw [List.foldl_cons, ih, mem_names_put, split, or_left_comm, or_assoc]

theorem putAll_append (present : ∀ p ∈ pairs, p.1 ∈ names m) (more : Members α) :
    putAll (m ++ more) pairs = putAll m pairs ++ more := by
  unfold putAll
  induction pairs generalizing m with
  | nil => rfl
  | cons p rest ih =>
      obtain ⟨here, later⟩ := List.forall_mem_cons.mp present
      rw [List.foldl_cons, List.foldl_cons, put_append here]
      exact ih fun q member => (mem_names_put p.2).mpr (.inr (later q member))

theorem put_putAll_put (present : name ∈ names m) (v : α) :
    put (putAll (put m name v) pairs) name v = put (putAll m pairs) name v := by
  unfold putAll
  induction pairs generalizing m with
  | nil => exact put_put m name v v
  | cons p rest ih =>
      obtain ⟨k, w⟩ := p
      simp only [List.foldl_cons]
      by_cases same : name = k
      · rw [same, put_put]
      · rw [put_comm same present]
        exact ih ((mem_names_put w).mpr (.inr present))

theorem putAll_again (m pairs : Members α) : putAll (putAll m pairs) pairs = putAll m pairs := by
  induction pairs using List.reverseRecOn with
  | nil => rfl
  | append_singleton pairs p ih =>
      obtain ⟨name, v⟩ := p
      have last (m : Members α) : putAll m (pairs ++ [(name, v)]) = put (putAll m pairs) name v := List.foldl_append
      rw [last, last]
      by_cases present : name ∈ names (putAll m pairs)
      · rw [put_putAll_put present, ih]
      · -- The name has its first value here, so that none of the pairs before is about it.
        have places : ∀ q ∈ pairs, q.1 ∈ names (putAll m pairs) := fun q member =>
          mem_names_putAll.mpr (.inl (List.mem_map_of_mem member))
        rw [put_of_new present, putAll_append places, ih, ← put_of_new present, put_put]

end LogAnalysis.Members
