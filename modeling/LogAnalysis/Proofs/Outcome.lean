import LogAnalysis.Fault
import Mathlib.Data.List.Forall2

/-!
Laws of outcomes: what follows a result, what follows a fault, and the outcomes of all items of a list.
-/

namespace LogAnalysis.Outcome

variable {α β : Type}

@[simp]
theorem ok_bind (a : α) (next : α → Outcome β) : ((.ok a : Outcome α) >>= next) = next a := rfl

@[simp]
theorem error_bind (fault : Fault) (next : α → Outcome β) :
    ((.error fault : Outcome α) >>= next) = .error fault := rfl

@[simp]
theorem pure_eq (a : α) : (pure a : Outcome α) = .ok a := rfl

@[simp]
theorem ok_map (f : α → β) (a : α) : (f <$> (.ok a : Outcome α)) = .ok (f a) := rfl

@[simp]
theorem error_map (f : α → β) (fault : Fault) : (f <$> (.error fault : Outcome α)) = .error fault := rfl

@[simp]
theorem bind_ok (o : Outcome α) : (o >>= fun a => .ok a) = o := by cases o <;> rfl

theorem bind_pure_eq_error {o : Outcome α} {f : α → β} {fault : Fault} :
    (o >>= fun a => .ok (f a)) = .error fault ↔ o = .error fault := by
  cases o <;> simp

theorem bind_eq_ok {o : Outcome α} {next : α → Outcome β} {b : β} :
    (o >>= next) = .ok b ↔ ∃ a, o = .ok a ∧ next a = .ok b := by
  cases o with
  | error fault => simp
  | ok a => simp

theorem map_eq_ok {o : Outcome α} {f : α → β} {b : β} : o.map f = .ok b ↔ ∃ a, o = .ok a ∧ f a = b := by
  cases o with
  | error fault => simp [Except.map]
  | ok a => simp [Except.map]

theorem map_map {γ : Type} (f : α → β) (g : β → γ) (o : Outcome α) : (o.map f).map g = o.map (g ∘ f) := by
  cases o <;> rfl

/-! ## Lists -/

theorem mapM_of_ok {f : α → Outcome β} {g : α → β} {xs : List α} (results : ∀ x ∈ xs, f x = .ok (g x)) :
    xs.mapM f = .ok (xs.map g) := by
  induction xs with
  | nil => rfl
  | cons x xs ih =>
      rw [List.mapM_cons, results x List.mem_cons_self, ok_bind,
        ih fun y member => results y (List.mem_cons_of_mem x member), ok_bind]
      rfl

theorem mapM_congr {f g : α → Outcome β} {xs : List α} (same : ∀ x ∈ xs, f x = g x) : xs.mapM f = xs.mapM g := by
  induction xs with
  | nil => rfl
  | cons x xs ih =>
      rw [List.mapM_cons, List.mapM_cons, same x List.mem_cons_self,
        ih fun y member => same y (List.mem_cons_of_mem x member)]

theorem mapM_eq_ok {f : α → Outcome β} {xs : List α} {ys : List β} :
    xs.mapM f = .ok ys ↔ List.Forall₂ (fun x y => f x = .ok y) xs ys := by
  induction xs generalizing ys with
  | nil => cases ys <;> simp [List.mapM_nil]
  | cons x xs ih =>
      rw [List.mapM_cons, bind_eq_ok]
      constructor
      · rintro ⟨y, first, rest⟩
        obtain ⟨others, mapped, whole⟩ := bind_eq_ok.mp rest
        obtain rfl := Except.ok.inj whole
        exact .cons first (ih.mp mapped)
      · rintro (_ | ⟨first, rest⟩)
        exact ⟨_, first, bind_eq_ok.mpr ⟨_, ih.mpr rest, rfl⟩⟩

theorem exists_of_mem_mapM {f : α → Outcome β} {xs : List α} {ys : List β} (mapped : xs.mapM f = .ok ys) {y : β}
    (member : y ∈ ys) : ∃ x ∈ xs, f x = .ok y := by
  induction mapM_eq_ok.mp mapped with
  | nil => contradiction
  | cons first rest ih =>
      rcases List.mem_cons.mp member with rfl | member
      · exact ⟨_, List.mem_cons_self, first⟩
      · obtain ⟨x, inRest, result⟩ := ih (mapM_eq_ok.mpr rest) member
        exact ⟨x, List.mem_cons_of_mem _ inRest, result⟩

theorem exists_of_mapM {f : α → Outcome β} {xs : List α} {ys : List β} (mapped : xs.mapM f = .ok ys) {x : α}
    (member : x ∈ xs) : ∃ y ∈ ys, f x = .ok y := by
  induction mapM_eq_ok.mp mapped with
  | nil => contradiction
  | cons first rest ih =>
      rcases List.mem_cons.mp member with rfl | member
      · exact ⟨_, List.mem_cons_self, first⟩
      · obtain ⟨y, inRest, result⟩ := ih (mapM_eq_ok.mpr rest) member
        exact ⟨y, List.mem_cons_of_mem _ inRest, result⟩

theorem exists_mapM_iff {f : α → Outcome β} {xs : List α} :
    (∃ ys, xs.mapM f = .ok ys) ↔ ∀ x ∈ xs, ∃ y, f x = .ok y := by
  constructor
  · rintro ⟨ys, mapped⟩ x member
    obtain ⟨y, -, result⟩ := exists_of_mapM mapped member
    exact ⟨y, result⟩
  · intro results
    induction xs with
    | nil => exact ⟨[], rfl⟩
    | cons x xs ih =>
        obtain ⟨⟨y, first⟩, others⟩ := List.forall_mem_cons.mp results
        obtain ⟨ys, rest⟩ := ih others
        exact ⟨y :: ys, mapM_eq_ok.mpr (.cons first (mapM_eq_ok.mp rest))⟩

theorem mapM_eq_error_iff {f : α → Outcome β} {xs : List α} {fault : Fault} :
    xs.mapM f = .error fault ↔
      ∃ before x after, xs = before ++ x :: after ∧ (∀ y ∈ before, ∃ b, f y = .ok b) ∧ f x = .error fault := by
  induction xs with
  | nil => simp [List.mapM_nil]
  | cons x xs ih =>
      rw [List.mapM_cons]
      cases first : f x with
      | error other =>
          rw [error_bind]
          constructor
          · intro failed
            obtain rfl := Except.error.inj failed
            exact ⟨[], x, xs, rfl, fun _ member => absurd member List.not_mem_nil, first⟩
          · rintro ⟨before, y, after, whole, results, failed⟩
            cases before with
            | nil =>
                obtain ⟨rfl, -⟩ := List.cons.inj whole
                exact congrArg _ (Except.error.inj (first.symm.trans failed))
            | cons z before =>
                obtain ⟨rfl, -⟩ := List.cons.inj whole
                obtain ⟨b, result⟩ := results x List.mem_cons_self
                exact nomatch first.symm.trans result
      | ok b =>
          rw [ok_bind]
          simp only [pure_eq, bind_pure_eq_error, ih]
          constructor
          · rintro ⟨before, y, after, rfl, results, failed⟩
            exact ⟨x :: before, y, after, rfl, List.forall_mem_cons.mpr ⟨⟨b, first⟩, results⟩, failed⟩
          · rintro ⟨before, y, after, whole, results, failed⟩
            cases before with
            | nil =>
                obtain ⟨rfl, -⟩ := List.cons.inj whole
                exact nomatch first.symm.trans failed
            | cons z before =>
                obtain ⟨-, rfl⟩ := List.cons.inj whole
                exact ⟨before, y, after, rfl, (List.forall_mem_cons.mp results).2, failed⟩

theorem eq_map_of_mapM {f : α → Outcome β} {g : α → β} {xs : List α} {ys : List β} (mapped : xs.mapM f = .ok ys)
    (results : ∀ x y, f x = .ok y → y = g x) : ys = xs.map g := by
  induction mapM_eq_ok.mp mapped with
  | nil => rfl
  | cons first rest ih => rw [List.map_cons, results _ _ first, ← ih (mapM_eq_ok.mpr rest)]

theorem foldlM_of_ok {f : β → α → Outcome β} {g : β → α → β} {xs : List α} (first : β)
    (step : ∀ b, ∀ x ∈ xs, f b x = .ok (g b x)) : xs.foldlM f first = .ok (xs.foldl g first) := by
  induction xs generalizing first with
  | nil => rfl
  | cons x xs ih =>
      rw [List.foldlM_cons, step first x List.mem_cons_self, ok_bind, List.foldl_cons]
      exact ih _ fun b y member => step b y (List.mem_cons_of_mem x member)

theorem foldlM_keeps {P : β → Prop} {f : β → α → Outcome β} {xs : List α} {first last : β}
    (step : ∀ b, ∀ x ∈ xs, ∀ b', P b → f b x = .ok b' → P b') (holds : P first)
    (folded : xs.foldlM f first = .ok last) : P last := by
  induction xs generalizing first with
  | nil =>
      obtain rfl := Except.ok.inj folded
      exact holds
  | cons x xs ih =>
      rw [List.foldlM_cons] at folded
      obtain ⟨next, result, rest⟩ := bind_eq_ok.mp folded
      exact ih (fun b y member => step b y (List.mem_cons_of_mem x member))
        (step first x List.mem_cons_self next holds result) rest

theorem exists_of_foldlM_error {f : β → α → Outcome β} {xs : List α} {first : β} {fault : Fault}
    (failed : xs.foldlM f first = .error fault) : ∃ b, ∃ x ∈ xs, f b x = .error fault := by
  induction xs generalizing first with
  | nil => contradiction
  | cons x xs ih =>
      rw [List.foldlM_cons] at failed
      cases step : f first x with
      | error other =>
          rw [step, error_bind] at failed
          exact ⟨first, x, List.mem_cons_self, step.trans failed⟩
      | ok next =>
          rw [step, ok_bind] at failed
          obtain ⟨b, y, member, stops⟩ := ih failed
          exact ⟨b, y, List.mem_cons_of_mem x member, stops⟩

theorem exists_foldlM_iff {P : α → Prop} {f : β → α → Outcome β} {xs : List α}
    (step : ∀ b, ∀ x ∈ xs, (∃ b', f b x = .ok b') ↔ P x) (first : β) :
    (∃ last, xs.foldlM f first = .ok last) ↔ ∀ x ∈ xs, P x := by
  induction xs generalizing first with
  | nil => exact iff_of_true ⟨first, rfl⟩ fun _ member => nomatch member
  | cons x xs ih =>
      have later := ih fun b y member => step b y (List.mem_cons_of_mem x member)
      rw [List.foldlM_cons, List.forall_mem_cons, ← step first x List.mem_cons_self]
      constructor
      · rintro ⟨last, folded⟩
        obtain ⟨next, result, rest⟩ := bind_eq_ok.mp folded
        exact ⟨⟨next, result⟩, (later next).mp ⟨last, rest⟩⟩
      · rintro ⟨⟨next, result⟩, others⟩
        obtain ⟨last, rest⟩ := (later next).mpr others
        exact ⟨last, bind_eq_ok.mpr ⟨next, result, rest⟩⟩

end LogAnalysis.Outcome
