import LogAnalysis.Pattern.Parser

/-!
# Reading patterns

What one step of the reader makes of the characters that come next: an escape or an ordinary character becomes a leaf
(`run_items_escaped`, `run_items_plain`), a sign of repetition changes the item before it (`run_items_repeat`), and so on.
The reading of a whole pattern without options at its start is the reading of its items (`parse_of_readsTo`), unless a
closing parenthesis stops them (`parse_of_closing`).
-/

namespace LogAnalysis.Pattern

open Parse

/-! ## Tokens -/

namespace Parse

variable {p : Progress} {c : Char} {cs : List Char}

theorem run_bind_of {α β : Type} {step : Parse α} {next : α → Parse β} {a : α} {q : Progress}
    (result : step.run p = .ok (a, q)) : (step >>= next).run p = (next a).run q := by
  rw [StateT.run_bind, result]
  rfl

theorem run_left : left.run p = .ok (p.rest.length, p) := rfl

theorem run_peek_escaped : peek.run { p with rest := '\\' :: c :: cs } =
    .ok (some (.escaped c), { p with rest := '\\' :: c :: cs }) := rfl

theorem run_peek_plain (ordinary : c ≠ '\\') : peek.run { p with rest := c :: cs } =
    .ok (some (.plain c), { p with rest := c :: cs }) := by
  rw [peek, run_bind_of rfl]
  dsimp only
  split
  · contradiction
  · next same => exact absurd (List.cons.inj same).1 ordinary
  · next same =>
      obtain ⟨rfl, -⟩ := List.cons.inj same
      rfl

theorem exists_peek : ∃ token, peek.run { p with rest := c :: cs } = .ok (some token, { p with rest := c :: cs }) := by
  by_cases escape : c = '\\'
  · subst escape
    cases cs with
    | nil => exact ⟨.plain '\\', rfl⟩
    | cons d cs => exact ⟨.escaped d, rfl⟩
  · exact ⟨.plain c, run_peek_plain escape⟩

theorem run_checkEnd (whole : cs ≠ ['\\']) : (checkEnd cs).run p = .ok ((), p) := by
  unfold checkEnd
  split
  · exact absurd rfl whole
  · rfl

theorem run_skip_escaped (whole : cs ≠ ['\\']) :
    skip.run { p with rest := '\\' :: c :: cs } = .ok ((), { p with rest := cs }) := by
  show (checkEnd cs >>= fun _ => modify fun p => { p with rest := cs }).run _ = _
  rw [run_bind_of (run_checkEnd whole)]
  rfl

theorem run_skip_plain (ordinary : c ≠ '\\') (whole : cs ≠ ['\\']) :
    skip.run { p with rest := c :: cs } = .ok ((), { p with rest := cs }) := by
  rw [skip, run_bind_of rfl]
  dsimp only
  split
  · next same => exact absurd (List.cons.inj same).1 ordinary
  · rw [List.drop_one, List.tail_cons, run_bind_of (run_checkEnd whole)]
    rfl

theorem run_skip_bind {α : Type} (ordinary : c ≠ '\\') (whole : cs ≠ ['\\']) (next : Unit → Parse α) :
    (skip >>= next).run { p with rest := c :: cs } = (next ()).run { p with rest := cs } :=
  run_bind_of (run_skip_plain ordinary whole)

theorem run_accept_of_ne (other : cs.head? ≠ some c) :
    (accept c).run { p with rest := cs } = .ok (false, { p with rest := cs }) := by
  cases cs with
  | nil => rfl
  | cons d cs =>
      have differs : d ≠ c := fun same => other (congrArg some same)
      by_cases escape : d = '\\'
      · subst escape
        -- A backslash at the very end is a token of its own.
        cases cs with
        | nil =>
            rw [accept, run_bind_of (a := some (.plain '\\')) rfl, if_neg (by simpa using differs)]
            rfl
        | cons e cs => rfl
      · rw [accept, run_bind_of (run_peek_plain escape), if_neg (by simpa using differs)]
        rfl

end Parse

/-! ## Items -/

section

variable {flags : Flags} {fuel : Nat} {done : List Node} {p : Progress} {c : Char} {cs : List Char}

def signs : List Char := ['\\', '|', ')', '[', '.', '^', '$', '?', '*', '+', '\x7b', '(']

theorem run_items_plain (ordinary : c ∉ signs) (verbose : flags.verbose = false) (whole : cs ≠ ['\\']) :
    (items (fuel + 1) flags done).run { p with rest := c :: cs } =
      (items fuel flags (flags.codeNode c.toNat :: done)).run { p with rest := cs } := by
  simp only [signs, List.mem_cons, List.not_mem_nil, or_false, not_or] at ordinary
  rw [items, run_bind_of run_left, run_bind_of (run_peek_plain ordinary.1)]
  simp [ordinary, verbose, run_skip_bind (p := p) ordinary.1 whole]

theorem run_items_dot (verbose : flags.verbose = false) (whole : cs ≠ ['\\']) :
    (items (fuel + 1) flags done).run { p with rest := '.' :: cs } =
      (items fuel flags (.single ⟨if flags.dotAll then .any else .anyButNewline, .exact⟩ :: done)).run
        { p with rest := cs } := by
  rw [items, run_bind_of run_left, run_bind_of (run_peek_plain (by decide))]
  simp [verbose, run_skip_bind (p := p) (c := '.') (by decide) whole]

theorem run_escape_sign (sign : c.isAlphanum = false) :
    (escape flags c).run p = .ok (flags.codeNode c.toNat, p) := by
  have noAnchor : anchor? flags.ascii c = none := by
    unfold anchor?
    split <;> first | rfl | exact absurd sign (by decide)
  have noCategory : category? flags.ascii c = none := by
    unfold category?
    split <;> first | rfl | exact absurd sign (by decide)
  have noCode : codeEscape? c = none := by
    unfold codeEscape?
    split <;> first | rfl | exact absurd sign (by decide)
  by_cases escape : c = '\\'
  · subst escape
    rfl
  · have noLetter : letterCode? c = none := by
      unfold letterCode?
      split <;> first | rfl | contradiction
    have noDigit : c.isDigit = false := by
      simp only [Char.isAlphanum, Bool.or_eq_false_iff] at sign
      exact sign.2
    simp only [Pattern.escape, noAnchor, noCategory, noLetter, noCode, noDigit, literalEscape, sign]
    rfl

theorem run_items_escaped (sign : c.isAlphanum = false) (whole : cs ≠ ['\\']) :
    (items (fuel + 1) flags done).run { p with rest := '\\' :: c :: cs } =
      (items fuel flags (flags.codeNode c.toNat :: done)).run { p with rest := cs } := by
  rw [items, run_bind_of run_left, run_bind_of run_peek_escaped]
  dsimp only
  rw [run_bind_of (run_skip_escaped whole)]
  exact run_bind_of (run_escape_sign sign)

theorem run_items_anchor {a : Anchor}
    (anchor : (c, a) ∈ [('^', if flags.multiline then Anchor.lineStart else .textStart),
      ('$', if flags.multiline then Anchor.lineEnd else .lastLineEnd)])
    (verbose : flags.verbose = false) (whole : cs ≠ ['\\']) :
    (items (fuel + 1) flags done).run { p with rest := c :: cs } =
      (items fuel flags (.anchor a :: done)).run { p with rest := cs } := by
  simp only [List.mem_cons, List.not_mem_nil, or_false, Prod.mk.injEq] at anchor
  have ordinary : c ≠ '\\' := by
    rcases anchor with ⟨rfl, -⟩ | ⟨rfl, -⟩ <;> decide
  rw [items, run_bind_of run_left, run_bind_of (run_peek_plain ordinary)]
  have skipped (next : Unit → Parse Node) := run_skip_bind (p := p) ordinary whole next
  rcases anchor with ⟨rfl, rfl⟩ | ⟨rfl, rfl⟩ <;> simp [verbose, skipped]

def repetitions : List (Char × Bounds) := [('?', ⟨0, some 1⟩), ('*', ⟨0, none⟩), ('+', ⟨1, none⟩)]

theorem run_repeatLast {start : Nat} {b : Bounds} {leaf : Single} (notLazy : cs.head? ≠ some '?')
    (notAll : cs.head? ≠ some '+') :
    (repeatLast start b (.single leaf :: done)).run { p with rest := cs } =
      .ok (.loop b.least b.most .most (.single leaf) :: done, { p with rest := cs }) := by
  have most : greed.run { p with rest := cs } = .ok (.most, { p with rest := cs }) := by
    rw [greed, run_bind_of (run_accept_of_ne notLazy)]
    exact run_bind_of (run_accept_of_ne notAll)
  exact run_bind_of most

theorem run_items_repeat {b : Bounds} (sign : (c, b) ∈ repetitions) {leaf : Single} (verbose : flags.verbose = false)
    (whole : cs ≠ ['\\']) (notLazy : cs.head? ≠ some '?') (notAll : cs.head? ≠ some '+') :
    (items (fuel + 1) flags (.single leaf :: done)).run { p with rest := c :: cs } =
      (items fuel flags (.loop b.least b.most .most (.single leaf) :: done)).run { p with rest := cs } := by
  simp only [repetitions, List.mem_cons, List.not_mem_nil, or_false, Prod.mk.injEq] at sign
  have ordinary : c ≠ '\\' := by
    rcases sign with ⟨rfl, -⟩ | ⟨rfl, -⟩ | ⟨rfl, -⟩ <;> decide
  rw [items, run_bind_of run_left, run_bind_of (run_peek_plain ordinary)]
  have skipped (next : Unit → Parse Node) := run_skip_bind (p := p) ordinary whole next
  have repeated (start : Nat) := @run_repeatLast done p cs start b leaf notLazy notAll
  rcases sign with ⟨rfl, rfl⟩ | ⟨rfl, rfl⟩ | ⟨rfl, rfl⟩
  all_goals
    simp [verbose, skipped, bounds?]
    exact run_bind_of (repeated (cs.length + 1))

theorem run_items_end : (items (fuel + 1) flags done).run { p with rest := [] } =
    .ok (Node.sequence done.reverse, { p with rest := [] }) := rfl

theorem run_items_closing : (items (fuel + 1) flags done).run { p with rest := ')' :: cs } =
    .ok (Node.sequence done.reverse, { p with rest := ')' :: cs }) := rfl

end

/-! ## Whole patterns -/

section

variable {flags : Flags} {c : Char} {cs left : List Char} {node : Node}

theorem run_header (fuel : Nat) {p : Progress} (ordinary : c ≠ '\\') (opening : c ≠ '(')
    (verbose : flags.verbose = false) :
    (header (fuel + 1) flags).run { p with rest := c :: cs } = .ok (flags, { p with rest := c :: cs }) := by
  rw [header, run_bind_of rfl, run_bind_of run_left, run_bind_of (run_peek_plain ordinary)]
  simp [verbose]
  rfl

def ReadsTo (flags : Flags) (cs : List Char) (node : Node) (left : List Char) : Prop :=
  (items (2 * cs.length + 1) flags []).run { rest := cs } = .ok (node, { rest := left })

theorem run_alternatives {p q : Progress} {fuel : Nat} (read : (items fuel flags []).run p = .ok (node, q))
    (only : q.rest.head? ≠ some '|') : (alternatives (fuel + 1) flags).run p = .ok (node, q) := by
  rw [alternatives, run_bind_of read, run_bind_of (run_accept_of_ne only)]
  rfl

variable (ordinary : c ≠ '\\') (opening : c ≠ '(') (verbose : flags.verbose = false)

include ordinary opening verbose

theorem run_whole (read : ReadsTo flags (c :: cs) node left) (only : left.head? ≠ some '|')
    (alphabets : (flags.ascii && flags.unicode) = false) (fine : left = [] → node.problem? flags.template = none) :
    (whole flags).run { rest := c :: cs } =
      if left = [] then .ok (⟨node, 0, []⟩, { rest := [] }) else .error (.at .unbalanced left.length) := by
  have checked : (checkEnd (c :: cs)).run ({ rest := c :: cs } : Progress) = .ok ((), { rest := c :: cs }) :=
    run_checkEnd fun same => ordinary (List.cons.inj same).1
  have headed : (header (cs.length + 2) flags).run ({ rest := c :: cs } : Progress) =
      .ok (flags, { rest := c :: cs }) := run_header _ (p := { rest := [] }) ordinary opening verbose
  have complete := run_alternatives (p := { rest := c :: cs }) read only
  rw [whole, run_bind_of rfl, run_bind_of checked, run_bind_of run_left]
  refine (run_bind_of headed).trans ?_
  refine (run_bind_of complete).trans ?_
  rw [alphabets]
  dsimp only
  rw [if_neg Bool.false_ne_true]
  cases left with
  | nil =>
      rw [run_bind_of (a := none) rfl]
      simp [fine rfl]
      rfl
  | cons d left =>
      obtain ⟨token, next⟩ := @exists_peek { rest := [] } d left
      refine (run_bind_of next).trans ?_
      rfl

theorem parse_of_readsTo {text : String} (starts : text.toList = c :: cs) (read : ReadsTo flags (c :: cs) node [])
    (alphabets : (flags.ascii && flags.unicode) = false) (fine : node.problem? flags.template = none) :
    parse flags text = .ok ⟨node, 0, []⟩ := by
  rw [parse, starts, run_whole ordinary opening verbose read (by simp) alphabets (fun _ => fine), if_pos rfl]

theorem parse_of_closing {text : String} (starts : text.toList = c :: cs)
    (read : ReadsTo flags (c :: cs) node (')' :: left)) (alphabets : (flags.ascii && flags.unicode) = false) :
    ∃ fault, parse flags text = .error (.malformed fault) := by
  rw [parse, starts, run_whole ordinary opening verbose read (by simp) alphabets (by simp), if_neg (by simp)]
  exact ⟨_, rfl⟩

end

end LogAnalysis.Pattern
