import LogAnalysis.Pattern.Matcher
import Mathlib.Data.List.Basic

/-!
# Running patterns

When the matcher of a tree finds a way through the text, whatever is to follow: a leaf takes one character
(`isSome_run_single`), a repeated leaf any number of them (`isSome_run_loop`), and trees in sequence follow each other
(`run_sequence`). A pattern that is tied to the start of the text is found there or nowhere (`isSome_searchFrom?_tied`).
-/

namespace LogAnalysis.Pattern

section

variable (text : Array Char) {leaf : Single} {s : State} {k : Continuation}

/-! ## Sequences -/

def follow (nodes : List Node) (k : Continuation) : Continuation :=
  nodes.foldr (fun node next s => node.run text s next) k

theorem run_sequence (nodes : List Node) : (Node.sequence nodes).run text s k = follow text nodes k s := by
  induction nodes generalizing s with
  | nil => rfl
  | cons node nodes ih =>
      cases nodes with
      | nil => rfl
      | cons next nodes =>
          have others : (fun t => (Node.sequence (next :: nodes)).run text t k) = follow text (next :: nodes) k :=
            funext fun t => ih
          show node.run text s (fun t => (Node.sequence (next :: nodes)).run text t k) = _
          rw [others]
          rfl

theorem follow_cons (node : Node) (nodes : List Node) :
    follow text (node :: nodes) k s = node.run text s (follow text nodes k) := rfl


theorem isSome_run_anchor {a : Anchor} :
    ((Node.anchor a).run text s k).isSome ↔ a.holds text s.position = true ∧ (k s).isSome := by
  rw [Node.run]
  dsimp only
  split <;> simp_all

/-! ## Leaves -/

def accepted (leaf : Single) (i : Nat) : Prop := ∃ c, text[i]? = some c ∧ leaf.accepts c = true

theorem isSome_run_single : ((Node.single leaf).run text s k).isSome ↔
    accepted text leaf s.position ∧ (k { s with position := s.position + 1 }).isSome := by
  rw [Node.run, accepted]
  dsimp only
  cases text[s.position]? with
  | none => simp
  | some c => by_cases accepts : leaf.accepts c = true <;> simp [accepts]

theorem accepted.lt_size {i : Nat} (here : accepted text leaf i) : i < text.size := by
  obtain ⟨c, found, -⟩ := here
  exact (Array.getElem?_eq_some_iff.mp found).1

theorem go_of_accepted {i n : Nat} (here : accepted text leaf (i + n)) (fuel : Nat) :
    runLength.go text leaf i (fuel + 1) n = runLength.go text leaf i fuel (n + 1) := by
  obtain ⟨c, found, accepts⟩ := here
  simp [runLength.go, found, accepts]

theorem go_of_not_accepted {i n : Nat} (here : ¬ accepted text leaf (i + n)) (fuel : Nat) :
    runLength.go text leaf i fuel n = n := by
  cases fuel with
  | zero => rfl
  | succ fuel =>
      rw [runLength.go]
      split
      · next c found => exact if_neg fun accepts => here ⟨c, found, accepts⟩
      · rfl

theorem le_go_runLength {i : Nat} (fuel : Nat) {n m : Nat} (beyond : n ≤ m) : m ≤ runLength.go text leaf i fuel n ↔
    m ≤ n + fuel ∧ ∀ j, n ≤ j → j < m → accepted text leaf (i + j) := by
  induction fuel generalizing n m with
  | zero =>
      rw [runLength.go]
      exact ⟨fun le => ⟨le, fun j low high => by omega⟩, And.left⟩
  | succ fuel ih =>
      -- The scan goes on just where the character is accepted.
      by_cases here : accepted text leaf (i + n)
      · rw [go_of_accepted text here]
        rcases Nat.eq_or_lt_of_le beyond with rfl | more
        · have longer := (ih (Nat.le_refl (n + 1))).mpr ⟨by omega, fun j low high => by omega⟩
          exact iff_of_true (by omega) ⟨by omega, fun j low high => by omega⟩
        · rw [ih more]
          constructor
          · rintro ⟨bound, all⟩
            refine ⟨by omega, fun j low high => ?_⟩
            rcases Nat.eq_or_lt_of_le low with rfl | later
            · exact here
            · exact all j later high
          · rintro ⟨bound, all⟩
            exact ⟨by omega, fun j low high => all j (by omega) high⟩
      · rw [go_of_not_accepted text here]
        constructor
        · intro le
          exact ⟨by omega, fun j low high => by omega⟩
        · rintro ⟨-, all⟩
          by_contra more
          exact here (all n (Nat.le_refl n) (by omega))

theorem le_runLength {limit i n : Nat} : n ≤ runLength text leaf limit i ↔
    n ≤ min limit (text.size - i) ∧ ∀ j < n, accepted text leaf (i + j) := by
  rw [runLength, le_go_runLength text _ (Nat.zero_le n)]
  simp

theorem isSome_longestFirst {n : Nat} : (longestFirst 0 s k n).isSome ↔
    ∃ m ≤ n, (k { s with position := s.position + m }).isSome := by
  induction n with
  | zero => simp [longestFirst]
  | succ n ih =>
      rw [longestFirst, if_neg (Nat.not_lt_zero _)]
      cases found : k { s with position := s.position + (n + 1) } with
      | some result => simpa using ⟨n + 1, Nat.le_refl _, by simp [found]⟩
      | none =>
          rw [ih]
          constructor
          · rintro ⟨m, le, rest⟩
            exact ⟨m, Nat.le_succ_of_le le, rest⟩
          · rintro ⟨m, le, rest⟩
            rcases Nat.eq_or_lt_of_le le with rfl | less
            · simp [found] at rest
            · exact ⟨m, Nat.le_of_lt_succ less, rest⟩

theorem isSome_run_loop : ((Node.loop 0 none .most (.single leaf)).run text s k).isSome ↔
    ∃ n, (∀ j < n, accepted text leaf (s.position + j)) ∧ (k { s with position := s.position + n }).isSome := by
  show (longestFirst 0 s k (runLength text leaf text.size s.position)).isSome ↔ _
  rw [isSome_longestFirst]
  constructor
  · rintro ⟨n, le, rest⟩
    exact ⟨n, ((le_runLength text).mp le).2, rest⟩
  · rintro ⟨n, all, rest⟩
    refine ⟨n, (le_runLength text).mpr ⟨?_, all⟩, rest⟩
    cases n with
    | zero => exact Nat.zero_le _
    | succ n =>
        have last := (all n (Nat.lt_succ_self n)).lt_size
        omega

/-! ## Searching -/

theorem isSome_matchAt?_tied (nodes : List Node) (i : Nat) :
    ((Node.sequence (.anchor .textStart :: nodes)).matchAt? text false i).isSome ↔
      i = 0 ∧ (follow text nodes some { position := i }).isSome := by
  have always : (fun t : State => if false && decide (t.position = i) then none else some t) = some := rfl
  rw [Node.matchAt?, always, run_sequence, follow_cons, isSome_run_anchor]
  simp [Anchor.holds]

theorem searchFrom?_tied_of_pos (nodes : List Node) (fuel : Nat) {i : Nat} (later : 0 < i) :
    (Node.sequence (.anchor .textStart :: nodes)).searchFrom? text fuel false i = none := by
  induction fuel generalizing i with
  | zero => rfl
  | succ fuel ih =>
      have nowhere : (Node.sequence (.anchor .textStart :: nodes)).matchAt? text false i = none := by
        rw [← Option.not_isSome_iff_eq_none, isSome_matchAt?_tied]
        exact fun found => absurd found.1 (by omega)
      rw [Node.searchFrom?, nowhere]
      split
      · rfl
      · exact ih (Nat.succ_pos i)

theorem isSome_searchFrom?_tied (nodes : List Node) (fuel : Nat) :
    ((Node.sequence (.anchor .textStart :: nodes)).searchFrom? text (fuel + 1) false 0).isSome ↔
      (follow text nodes some { position := 0 }).isSome := by
  have atStart := isSome_matchAt?_tied text nodes 0
  rw [Node.searchFrom?, if_neg (Nat.not_lt_zero _)]
  cases found : (Node.sequence (.anchor .textStart :: nodes)).matchAt? text false 0 with
  | some t => simpa [found] using atStart
  | none =>
      dsimp only
      rw [searchFrom?_tied_of_pos text nodes fuel (Nat.succ_pos 0)]
      simpa [found] using atStart

end

/-! ## Characters of a text -/

theorem accepts_code (c d : Char) : Single.accepts ⟨.code c.toNat, .unicode⟩ d = Text.sameCaseless c d := by
  simp only [Single.accepts, sameUnder, Char.ofNat_toNat]
  by_cases same : d = c
  · subst same
    simp [Text.sameCaseless]
  · have differs : d.toNat ≠ c.toNat := fun equal => same (Char.toNat_inj.mp equal)
    simp [differs]

section

variable {leaf : Single} {before cs : List Char}

theorem accepted_append (i : Nat) : accepted (before ++ cs).toArray leaf (before.length + i) ↔
    ∃ c, cs[i]? = some c ∧ leaf.accepts c = true := by
  simp [accepted, List.getElem?_append_right]

theorem accepted_start : accepted (before ++ cs).toArray leaf before.length ↔
    ∃ c rest, cs = c :: rest ∧ leaf.accepts c = true := by
  rw [← Nat.add_zero before.length, accepted_append]
  cases cs <;> simp

theorem holds_lastLineEnd : Anchor.holds (before ++ cs).toArray .lastLineEnd before.length = true ↔
    cs = [] ∨ cs = ['\n'] := by
  cases cs with
  | nil => simp [Anchor.holds]
  | cons c cs =>
      cases cs with
      | nil => simp [Anchor.holds]
      | cons d cs => simp [Anchor.holds]

theorem accepted_run {n : Nat} :
    (∀ j < n, accepted (before ++ cs).toArray ⟨.anyButNewline, .exact⟩ (before.length + j)) ↔
      ∃ between rest, cs = between ++ rest ∧ between.length = n ∧ '\n' ∉ between := by
  simp only [accepted_append]
  constructor
  · intro run
    have enough : n ≤ cs.length := by
      cases n with
      | zero => exact Nat.zero_le _
      | succ n =>
          obtain ⟨c, last, -⟩ := run n (Nat.lt_succ_self n)
          exact (List.getElem?_eq_some_iff.mp last).1
    refine ⟨cs.take n, cs.drop n, (List.take_append_drop n cs).symm, List.length_take_of_le enough, ?_⟩
    intro lineBreak
    obtain ⟨j, bound, found⟩ := List.getElem_of_mem lineBreak
    rw [List.length_take_of_le enough] at bound
    obtain ⟨c, here, accepts⟩ := run j bound
    rw [List.getElem_take] at found
    rw [List.getElem?_eq_getElem (by omega), found] at here
    obtain rfl := Option.some.inj here
    simp [Single.accepts] at accepts
  · rintro ⟨between, rest, rfl, rfl, oneLine⟩ j bound
    refine ⟨between[j], ?_, ?_⟩
    · rw [List.getElem?_append_left bound, List.getElem?_eq_getElem bound]
    · have other : between[j] ≠ '\n' := fun same => oneLine (same ▸ List.getElem_mem bound)
      simpa [Single.accepts] using other

end

end LogAnalysis.Pattern
