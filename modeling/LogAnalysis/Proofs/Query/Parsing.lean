import LogAnalysis.Proofs.Outcome
import LogAnalysis.Proofs.Query.Grammar
import LogAnalysis.Query.Parser

/-!
# Reading a query follows its grammar

* `reads` (one induction on the fuel, one case per function of the reader): what is read is a phrase with its tree, and
  where nothing is read the query is refused at one of its tokens or at its end.
* `Derives.read` (induction on the derivation): a phrase is read, with fuel in proportion to the tokens. Of a chain it says
  that reading it comes down to reading on after it, which is what the next link needs.
* `readTree_eq_ok_iff`: both together, for a query as a whole.
-/

namespace LogAnalysis.Query

/-! ## What is read -/

def RefusedAt (query : List Char) (ts : List Token) (fault : LogAnalysis.Fault) : Prop :=
  ∃ f, fault = .query f ∧ (f.position = some query.length ∨ ∃ t ∈ ts, f.position = some t.position)

def Derived (p : Phrase) (ts : List Token) (tree : Tree) : Prop := Derives p (ts.map Token.kind) tree

/-- The outcome of reading at the start of some tokens: a tree that suits those used for it, before those left over; or a
refusal. -/
def Reads (query : List Char) (suits : List Token → Tree → Prop) (ts : List Token) : Reading → Prop
  | .ok (tree, rest) => ∃ used, ts = used ++ rest ∧ suits used tree
  | .error fault => RefusedAt query ts fault

variable {query : List Char} {suits : List Token → Tree → Prop} {ts : List Token}

theorem RefusedAt.of_suffix {rest : List Token} {fault : LogAnalysis.Fault} (used : List Token)
    (refused : RefusedAt query rest fault) : RefusedAt query (used ++ rest) fault := by
  obtain ⟨f, rfl, place⟩ := refused
  refine ⟨f, rfl, place.imp_right ?_⟩
  rintro ⟨t, member, position⟩
  exact ⟨t, List.mem_append_right used member, position⟩

theorem RefusedAt.token (t : Token) (problem : Problem) (fragment : String) :
    RefusedAt query (t :: ts) (.query ⟨problem, fragment, some t.position⟩) :=
  ⟨_, rfl, .inr ⟨t, List.mem_cons_self, rfl⟩⟩

theorem reads_unexpectedEnd : Reads query suits ts (unexpectedEnd query) := ⟨_, rfl, .inl rfl⟩

theorem Reads.of_suffix {rest : List Token} {r : Reading} (used : List Token)
    (read : Reads query (fun more => suits (used ++ more)) rest r) : Reads query suits (used ++ rest) r := by
  cases r with
  | error fault => exact RefusedAt.of_suffix used read
  | ok result =>
      obtain ⟨more, rfl, suited⟩ := read
      exact ⟨used ++ more, (List.append_assoc ..).symm, suited⟩

theorem Reads.bind {first : List Token → Tree → Prop} {r : Reading} {next : Tree × List Token → Reading}
    (read : Reads query first ts r)
    (readNext : ∀ used tree rest, first used tree →
      Reads query (fun more => suits (used ++ more)) rest (next (tree, rest))) :
    Reads query suits ts (r >>= next) := by
  cases r with
  | error fault => exact read
  | ok result =>
      obtain ⟨used, rfl, suited⟩ := read
      exact Reads.of_suffix used (readNext used _ _ suited)

theorem requireOperand_eq (t : Token) (k : Keyword) (ts : List Token) :
    requireOperand t k ts =
      if ts.head?.any (·.kind.startsOperand) then .ok () else t.refuse (.dangling k) := by
  cases ts with
  | nil => rfl
  | cons next rest =>
      obtain ⟨kind, text, position⟩ := next
      cases kind with
      | keyword w => cases w <;> rfl
      | opening | closing | term c => rfl

theorem Reads.requireOperand {t : Token} {k : Keyword} {next : Unit → Reading}
    (read : Reads query suits (t :: ts) (next ())) :
    Reads query suits (t :: ts) (requireOperand t k ts >>= next) := by
  rw [requireOperand_eq]
  split
  · exact read
  · exact RefusedAt.token t _ _

/-! ## Everything read is a phrase -/

structure ReadsPhrases (query : List Char) (fuel : Nat) : Prop where
  alternatives : ∀ ts, Reads query (Derived .alternatives) ts (readAlternatives query fuel ts)
  moreAlternatives : ∀ before left ts, Derived .alternatives before left →
    Reads query (fun used => Derived .alternatives (before ++ used)) ts (moreAlternatives query fuel left ts)
  conjunction : ∀ ts, Reads query (Derived .conjunction) ts (readConjunction query fuel ts)
  moreConjuncts : ∀ before left ts, Derived .conjunction before left →
    Reads query (fun used => Derived .conjunction (before ++ used)) ts (moreConjuncts query fuel left ts)
  operand : ∀ ts, Reads query (Derived .operand) ts (readOperand query fuel ts)
  brackets : ∀ opened ts, opened.kind = .opening →
    Reads query (Derived .primary) (opened :: ts) (readBrackets query fuel opened ts)

variable {fuel : Nat}

theorem reads_alternatives (ih : ReadsPhrases query fuel) (ts : List Token) :
    Reads query (Derived .alternatives) ts (readAlternatives query (fuel + 1) ts) := by
  unfold readAlternatives
  refine (ih.conjunction ts).bind ?_
  intro used left rest phrase
  exact ih.moreAlternatives used left rest (.conjunction phrase)

theorem reads_nothing (before : List Token) (tree : Tree) (p : Phrase) (phrase : Derived p before tree)
    (ts : List Token) : Reads query (fun used => Derived p (before ++ used)) ts (.ok (tree, ts)) :=
  ⟨[], rfl, by simpa using phrase⟩

theorem reads_moreAlternatives (ih : ReadsPhrases query fuel) (before : List Token) (left : Tree)
    (ts : List Token) (phrase : Derived .alternatives before left) :
    Reads query (fun used => Derived .alternatives (before ++ used)) ts
      (moreAlternatives query (fuel + 1) left ts) := by
  cases ts with
  | nil => exact reads_nothing before left _ phrase []
  | cons t ts =>
      unfold moreAlternatives
      split
      · next isOr =>
          apply Reads.requireOperand
          refine Reads.of_suffix [t] ((ih.conjunction ts).bind ?_)
          intro used right rest phraseRight
          have joined : Derived .alternatives (before ++ [t] ++ used) (.either left right) := by
            have derived := Derives.or phrase phraseRight
            simpa [Derived, isOr] using derived
          simpa only [List.append_assoc] using ih.moreAlternatives _ _ rest joined
      · exact reads_nothing before left _ phrase (t :: ts)

theorem reads_conjunction (ih : ReadsPhrases query fuel) (ts : List Token) :
    Reads query (Derived .conjunction) ts (readConjunction query (fuel + 1) ts) := by
  unfold readConjunction
  refine (ih.operand ts).bind ?_
  intro used left rest phrase
  exact ih.moreConjuncts used left rest (.operand phrase)

theorem reads_moreConjuncts (ih : ReadsPhrases query fuel) (before : List Token) (left : Tree)
    (ts : List Token) (phrase : Derived .conjunction before left) :
    Reads query (fun used => Derived .conjunction (before ++ used)) ts
      (moreConjuncts query (fuel + 1) left ts) := by
  cases ts with
  | nil => exact reads_nothing before left _ phrase []
  | cons t ts =>
      unfold moreConjuncts
      split
      · next isAnd =>
          apply Reads.requireOperand
          refine Reads.of_suffix [t] ((ih.operand ts).bind ?_)
          intro used right rest phraseRight
          have joined : Derived .conjunction (before ++ [t] ++ used) (.both left right) := by
            have derived := Derives.and phrase phraseRight
            simpa [Derived, isAnd] using derived
          simpa only [List.append_assoc] using ih.moreConjuncts _ _ rest joined
      · exact reads_nothing before left _ phrase (t :: ts)
      · exact reads_nothing before left _ phrase (t :: ts)
      · refine (ih.operand (t :: ts)).bind ?_
        intro used right rest phraseRight
        have joined : Derived .conjunction (before ++ used) (.both left right) := by
          have derived := Derives.adjacent phrase phraseRight
          simpa [Derived] using derived
        simpa only [List.append_assoc] using ih.moreConjuncts _ _ rest joined

theorem reads_operand (ih : ReadsPhrases query fuel) (ts : List Token) :
    Reads query (Derived .operand) ts (readOperand query (fuel + 1) ts) := by
  cases ts with
  | nil => exact reads_unexpectedEnd
  | cons t ts =>
      unfold readOperand
      split
      · next isNot =>
          apply Reads.requireOperand
          refine Reads.of_suffix [t] ((ih.operand ts).bind ?_)
          intro used operand rest phrase
          exact ⟨[], rfl, by simpa [Derived, isNot] using Derives.not phrase⟩
      · exact RefusedAt.token t _ _
      · exact RefusedAt.token t _ _
      · next c isTerm =>
          exact ⟨[t], rfl, by simpa [Derived, isTerm] using Derives.primary (.term c)⟩
      · next isOpening =>
          have read := ih.brackets t ts isOpening
          cases outcome : readBrackets query fuel t ts with
          | error fault => rwa [outcome] at read
          | ok result =>
              rw [outcome] at read
              obtain ⟨used, split, phrase⟩ := read
              exact ⟨used, split, .primary phrase⟩

theorem startsClosed_iff {ts : List Token} :
    startsClosed ts = true ↔ ∃ t rest, ts = t :: rest ∧ t.kind = .closing := by
  unfold startsClosed
  split
  · next rest => simp
  · next other =>
      simp only [Bool.false_eq_true, false_iff, not_exists, not_and]
      rintro ⟨kind, text, position⟩ rest rfl rfl
      exact other text position rest rfl

theorem startsClosed_of_derived {p : Phrase} {used : List Token} {tree : Tree} (phrase : Derived p used tree)
    (rest : List Token) : ¬ startsClosed (used ++ rest) = true := by
  obtain ⟨kind, kinds, first, starts⟩ := phrase.starts
  obtain ⟨next, others, rfl, rfl, -⟩ := List.map_eq_cons_iff.mp first
  intro closed
  obtain ⟨t, rest, split, isClosing⟩ := startsClosed_iff.mp closed
  obtain ⟨rfl, -⟩ := List.cons.inj split
  rw [isClosing] at starts
  contradiction

theorem reads_brackets (ih : ReadsPhrases query fuel) (opened : Token) (ts : List Token)
    (isOpening : opened.kind = .opening) :
    Reads query (Derived .primary) (opened :: ts) (readBrackets query (fuel + 1) opened ts) := by
  have read := ih.alternatives ts
  unfold readBrackets
  split
  · exact RefusedAt.token opened _ _
  · cases outcome : readAlternatives query fuel ts with
    | error fault =>
        rw [outcome] at read
        exact RefusedAt.of_suffix [opened] read
    | ok result =>
        rw [outcome] at read
        obtain ⟨used, rfl, phrase⟩ := read
        dsimp only [bind, Except.bind]
        split
        · next closed =>
            obtain ⟨t, rest, left_eq, isClosing⟩ := startsClosed_iff.mp closed
            refine ⟨opened :: (used ++ [t]), by simp [left_eq], ?_⟩
            simpa [Derived, isOpening, isClosing] using Derives.brackets phrase
        · exact RefusedAt.token opened _ _

theorem readsPhrases (query : List Char) (fuel : Nat) : ReadsPhrases query fuel := by
  induction fuel with
  | zero =>
      constructor
      all_goals intros
      all_goals exact reads_unexpectedEnd
  | succ fuel ih =>
      exact ⟨reads_alternatives ih, reads_moreAlternatives ih, reads_conjunction ih, reads_moreConjuncts ih,
        reads_operand ih, reads_brackets ih⟩

/-! ## Every phrase is read -/

def EndsConjunction (rest : List Token) : Prop :=
  ∀ t ∈ rest.head?, t.kind = .keyword .or ∨ t.kind = .closing

theorem moreConjuncts_stops (left : Tree) {rest : List Token} (stops : EndsConjunction rest) :
    moreConjuncts query (fuel + 1) left rest = .ok (left, rest) := by
  cases rest with
  | nil => rfl
  | cons t ts =>
      unfold moreConjuncts
      rcases stops t rfl with isOr | isClosing
      · simp only [isOr]
      · simp only [isClosing]

theorem moreConjuncts_of_starts (left : Tree) {t : Token} (starts : t.kind.startsOperand = true) :
    moreConjuncts query (fuel + 1) left (t :: ts) =
      readOperand query fuel (t :: ts) >>= fun result =>
        moreConjuncts query fuel (.both left result.1) result.2 := by
  obtain ⟨kind, text, position⟩ := t
  cases kind with
  | closing => contradiction
  | opening | term c => rfl
  | keyword w => cases w <;> first | contradiction | rfl

theorem requireOperand_of_derived {p : Phrase} {used : List Token} {tree : Tree} (t : Token) (k : Keyword)
    (phrase : Derived p used tree) (rest : List Token) : requireOperand t k (used ++ rest) = .ok () := by
  obtain ⟨kind, kinds, first, starts⟩ := phrase.starts
  obtain ⟨next, others, rfl, rfl, -⟩ := List.map_eq_cons_iff.mp first
  rw [requireOperand_eq]
  simp [starts]

/-- A phrase is read off the front of the tokens, with enough fuel for all of them. Of a chain it holds that to read it is
to read on after it. -/
def ReadOff (query : List Char) : Phrase → List Token → Tree → Prop
  | .alternatives, used, t => ∀ rest fuel, EndsConjunction rest →
      4 * (used ++ rest).length + 4 ≤ fuel →
      ∃ left, 4 * rest.length + 1 ≤ left ∧
        readAlternatives query fuel (used ++ rest) = moreAlternatives query left t rest
  | .conjunction, used, t => ∀ rest fuel, 4 * (used ++ rest).length + 3 ≤ fuel →
      ∃ left, 4 * rest.length + 3 ≤ left ∧
        readConjunction query fuel (used ++ rest) = moreConjuncts query left t rest
  | .operand, used, t | .primary, used, t => ∀ rest fuel, 4 * (used ++ rest).length + 2 ≤ fuel →
      readOperand query fuel (used ++ rest) = .ok (t, rest)

theorem Derived.length_pos {p : Phrase} {used : List Token} {tree : Tree} (phrase : Derived p used tree) :
    0 < used.length := by
  obtain ⟨kind, kinds, first, -⟩ := phrase.starts
  rw [← List.length_map (f := Token.kind), first, List.length_cons]
  exact Nat.succ_pos _

section ReadOff

variable {used more : List Token} {t left right : Tree}

theorem ReadOff.whole (readOff : ReadOff query .conjunction used t) {rest : List Token}
    (stops : EndsConjunction rest) (enough : 4 * (used ++ rest).length + 3 ≤ fuel) :
    readConjunction query fuel (used ++ rest) = .ok (t, rest) := by
  obtain ⟨left, bound, read⟩ := readOff rest fuel enough
  obtain ⟨left, rfl⟩ : ∃ n, left = n + 1 := ⟨left - 1, by omega⟩
  rw [read, moreConjuncts_stops t stops]

theorem ReadOff.alternatives (readOff : ReadOff query .conjunction used t) :
    ReadOff query .alternatives used t := by
  intro rest fuel stops enough
  obtain ⟨fuel, rfl⟩ : ∃ n, fuel = n + 1 := ⟨fuel - 1, by omega⟩
  refine ⟨fuel, ?_, ?_⟩
  · rw [List.length_append] at enough
    omega
  · rw [readAlternatives, readOff.whole stops (by omega), Outcome.ok_bind]

theorem ReadOff.or {key : Token} (isOr : key.kind = .keyword .or) (phraseRight : Derived .conjunction more right)
    (readLeft : ReadOff query .alternatives used left) (readRight : ReadOff query .conjunction more right) :
    ReadOff query .alternatives (used ++ key :: more) (.either left right) := by
  intro rest fuel stops enough
  rw [List.append_assoc, List.cons_append] at enough ⊢
  have stopsLeft : EndsConjunction (key :: (more ++ rest)) := by
    rintro t ⟨⟩
    exact .inl isOr
  obtain ⟨fuelLeft, bound, read⟩ := readLeft (key :: (more ++ rest)) fuel stopsLeft enough
  rw [List.length_cons] at bound
  obtain ⟨fuelLeft, rfl⟩ : ∃ n, fuelLeft = n + 1 := ⟨fuelLeft - 1, by omega⟩
  refine ⟨fuelLeft, ?_, ?_⟩
  · rw [List.length_append] at bound
    omega
  · rw [read, moreAlternatives]
    simp only [isOr]
    rw [requireOperand_of_derived key .or phraseRight rest, Outcome.ok_bind,
      readRight.whole stops (by omega), Outcome.ok_bind]

theorem ReadOff.conjunction (phrase : Derived .operand used t) (readOff : ReadOff query .operand used t) :
    ReadOff query .conjunction used t := by
  intro rest fuel enough
  obtain ⟨fuel, rfl⟩ : ∃ n, fuel = n + 1 := ⟨fuel - 1, by omega⟩
  refine ⟨fuel, ?_, ?_⟩
  · have nonempty := phrase.length_pos
    rw [List.length_append] at enough
    omega
  · rw [readConjunction, readOff rest fuel (by omega), Outcome.ok_bind]

theorem ReadOff.and {key : Token} (isAnd : key.kind = .keyword .and) (phraseRight : Derived .operand more right)
    (readLeft : ReadOff query .conjunction used left) (readRight : ReadOff query .operand more right) :
    ReadOff query .conjunction (used ++ key :: more) (.both left right) := by
  intro rest fuel enough
  rw [List.append_assoc, List.cons_append] at enough ⊢
  obtain ⟨fuelLeft, bound, read⟩ := readLeft (key :: (more ++ rest)) fuel enough
  rw [List.length_cons] at bound
  obtain ⟨fuelLeft, rfl⟩ : ∃ n, fuelLeft = n + 1 := ⟨fuelLeft - 1, by omega⟩
  refine ⟨fuelLeft, ?_, ?_⟩
  · rw [List.length_append] at bound
    omega
  · rw [read, moreConjuncts]
    simp only [isAnd]
    rw [requireOperand_of_derived key .and phraseRight rest, Outcome.ok_bind,
      readRight rest fuelLeft (by omega), Outcome.ok_bind]

theorem ReadOff.adjacent (phraseRight : Derived .operand more right)
    (readLeft : ReadOff query .conjunction used left) (readRight : ReadOff query .operand more right) :
    ReadOff query .conjunction (used ++ more) (.both left right) := by
  intro rest fuel enough
  rw [List.append_assoc] at enough ⊢
  obtain ⟨fuelLeft, bound, read⟩ := readLeft (more ++ rest) fuel enough
  obtain ⟨fuelLeft, rfl⟩ : ∃ n, fuelLeft = n + 1 := ⟨fuelLeft - 1, by omega⟩
  have nonempty := phraseRight.length_pos
  refine ⟨fuelLeft, ?_, ?_⟩
  · rw [List.length_append] at bound
    omega
  · have readNext := readRight rest fuelLeft (by omega)
    obtain ⟨kind, kinds, first, starts⟩ := phraseRight.starts
    obtain ⟨next, others, rfl, rfl, -⟩ := List.map_eq_cons_iff.mp first
    rw [List.cons_append] at read readNext ⊢
    rw [read, moreConjuncts_of_starts _ starts, readNext, Outcome.ok_bind]

theorem ReadOff.not {key : Token} (isNot : key.kind = .keyword .not) (phrase : Derived .operand used t)
    (readOff : ReadOff query .operand used t) : ReadOff query .operand (key :: used) (.not t) := by
  intro rest fuel enough
  rw [List.cons_append] at enough ⊢
  rw [List.length_cons] at enough
  obtain ⟨fuel, rfl⟩ : ∃ n, fuel = n + 1 := ⟨fuel - 1, by omega⟩
  rw [readOperand]
  simp only [isNot]
  rw [requireOperand_of_derived key .not phrase rest, Outcome.ok_bind, readOff rest fuel (by omega),
    Outcome.ok_bind]
  rfl

theorem ReadOff.brackets {opened closed : Token} (isOpening : opened.kind = .opening)
    (isClosing : closed.kind = .closing) (phrase : Derived .alternatives used t)
    (readOff : ReadOff query .alternatives used t) :
    ReadOff query .primary (opened :: (used ++ [closed])) t := by
  intro rest fuel enough
  rw [List.cons_append, List.append_assoc, List.singleton_append] at enough ⊢
  rw [List.length_cons] at enough
  obtain ⟨fuel, rfl⟩ : ∃ n, fuel = n + 2 := ⟨fuel - 2, by omega⟩
  have stops : EndsConjunction (closed :: rest) := by
    rintro t ⟨⟩
    exact .inr isClosing
  obtain ⟨fuelLeft, bound, read⟩ := readOff (closed :: rest) fuel stops (by omega)
  obtain ⟨fuelLeft, rfl⟩ : ∃ n, fuelLeft = n + 1 := ⟨fuelLeft - 1, by omega⟩
  have ends : moreAlternatives query (fuelLeft + 1) t (closed :: rest) = .ok (t, closed :: rest) := by
    unfold moreAlternatives
    simp only [isClosing]
  have inside : ¬ startsClosed (used ++ closed :: rest) = true := startsClosed_of_derived phrase _
  have after : startsClosed (closed :: rest) = true := startsClosed_iff.mpr ⟨closed, rest, rfl, isClosing⟩
  unfold readOperand
  simp only [isOpening]
  unfold readBrackets
  rw [if_neg inside, read, ends, Outcome.ok_bind]
  simp only [if_pos after]
  rfl

theorem ReadOff.term {t : Token} {c : Condition} (isTerm : t.kind = .term c) :
    ReadOff query .primary [t] (.rule c) := by
  intro rest fuel enough
  obtain ⟨fuel, rfl⟩ : ∃ n, fuel = n + 1 := ⟨fuel - 1, by omega⟩
  rw [List.singleton_append, readOperand]
  simp only [isTerm]

end ReadOff

theorem Derives.readOff {p : Phrase} {ks : List TokenKind} {tree : Tree} (phrase : Derives p ks tree)
    {used : List Token} (kinds : used.map Token.kind = ks) : ReadOff query p used tree := by
  -- By induction on the derivation: the tokens are cut as its rules cut them.
  induction phrase generalizing used with
  | conjunction _ ih => exact (ih kinds).alternatives
  | or _ phraseRight ihLeft ihRight =>
      obtain ⟨first, others, rfl, rfl, kindsRest⟩ := List.map_eq_append_iff.mp kinds
      obtain ⟨key, second, rfl, isOr, rfl⟩ := List.map_eq_cons_iff.mp kindsRest
      exact ReadOff.or isOr phraseRight (ihLeft rfl) (ihRight rfl)
  | @operand ks t phrase ih =>
      subst kinds
      exact ReadOff.conjunction phrase (ih rfl)
  | and _ phraseRight ihLeft ihRight =>
      obtain ⟨first, others, rfl, rfl, kindsRest⟩ := List.map_eq_append_iff.mp kinds
      obtain ⟨key, second, rfl, isAnd, rfl⟩ := List.map_eq_cons_iff.mp kindsRest
      exact ReadOff.and isAnd phraseRight (ihLeft rfl) (ihRight rfl)
  | adjacent _ phraseRight ihLeft ihRight =>
      obtain ⟨first, second, rfl, rfl, rfl⟩ := List.map_eq_append_iff.mp kinds
      exact ReadOff.adjacent phraseRight (ihLeft rfl) (ihRight rfl)
  | not phrase ih =>
      obtain ⟨key, operand, rfl, isNot, rfl⟩ := List.map_eq_cons_iff.mp kinds
      exact ReadOff.not isNot phrase (ih rfl)
  | primary _ ih => exact ih kinds
  | brackets phrase ih =>
      obtain ⟨opened, others, rfl, isOpening, kindsRest⟩ := List.map_eq_cons_iff.mp kinds
      obtain ⟨inside, last, rfl, rfl, kindsLast⟩ := List.map_eq_append_iff.mp kindsRest
      obtain ⟨closed, rfl, isClosing⟩ := List.map_eq_singleton_iff.mp kindsLast
      exact ReadOff.brackets isOpening isClosing phrase (ih rfl)
  | term c =>
      obtain ⟨t, rfl, isTerm⟩ := List.map_eq_singleton_iff.mp kinds
      exact ReadOff.term isTerm

/-! ## Whole queries -/

theorem Derived.readTree {ts : List Token} {tree : Tree} (phrase : Derived .alternatives ts tree) :
    readTree query ts = .ok tree := by
  have readOff : ReadOff query .alternatives ts tree := Derives.readOff phrase rfl
  obtain ⟨fuel, bound, read⟩ := readOff [] (enoughFuel ts) (by simp [EndsConjunction])
    (by simp [enoughFuel]; omega)
  obtain ⟨fuel, rfl⟩ : ∃ n, fuel = n + 1 := ⟨fuel - 1, by simp at bound; omega⟩
  rw [List.append_nil] at read
  rw [Query.readTree, read]
  rfl

theorem reads_readTree (query : List Char) (ts : List Token) :
    (∃ tree, readTree query ts = .ok tree ∧ Derived .alternatives ts tree) ∨
      ∃ fault, readTree query ts = .error fault ∧ RefusedAt query ts fault := by
  have read := (readsPhrases query (enoughFuel ts)).alternatives ts
  unfold readTree
  cases outcome : readAlternatives query (enoughFuel ts) ts with
  | error fault =>
      rw [outcome] at read
      exact .inr ⟨fault, rfl, read⟩
  | ok result =>
      rw [outcome] at read
      obtain ⟨tree, rest⟩ := result
      obtain ⟨used, rfl, phrase⟩ := read
      rw [Outcome.ok_bind]
      cases rest with
      | nil => exact .inl ⟨tree, rfl, by rwa [List.append_nil]⟩
      | cons t rest =>
          dsimp only
          split
          · exact .inr ⟨_, rfl, RefusedAt.of_suffix used (RefusedAt.token t _ _)⟩
          · exact .inr ⟨_, rfl, RefusedAt.of_suffix used (RefusedAt.token t _ _)⟩

theorem readTree_eq_ok_iff {ts : List Token} {tree : Tree} :
    readTree query ts = .ok tree ↔ Derived .alternatives ts tree := by
  refine ⟨?_, Derived.readTree⟩
  intro read
  rcases reads_readTree query ts with ⟨tree', read', phrase⟩ | ⟨fault, refused, -⟩
  · rw [read, Except.ok.injEq] at read'
    rwa [read']
  · rw [read] at refused
    contradiction

theorem parse_eq_of_tokens {q : String} {ts : List Token} (read : tokens q = .ok ts) (nonempty : ts ≠ []) :
    parse q = some <$> readTree q.toList ts := by
  have someTokens : ¬ ts.isEmpty = true := by simpa using nonempty
  rw [parse, read, Outcome.ok_bind, if_neg someTokens]

theorem parse_eq_some_iff {q : String} {ts : List Token} (read : tokens q = .ok ts) (nonempty : ts ≠ [])
    {tree : Tree} : parse q = .ok (some tree) ↔ Derived .alternatives ts tree := by
  have accepted : readTree q.toList ts = .ok tree ↔ Derived .alternatives ts tree := readTree_eq_ok_iff
  rw [parse_eq_of_tokens read nonempty, ← accepted]
  cases readTree q.toList ts with
  | error fault => simp
  | ok other => simp

/-- A query is accepted exactly if the types of its tokens can be derived from the grammar. Its tree is then the only one
that the grammar gives it, and otherwise it is refused as a query. -/
theorem parse_iff_derivable {q : String} {ts : List Token} (read : tokens q = .ok ts) (nonempty : ts ≠ []) :
    ((∃ result, parse q = .ok result) ↔ Derivable .alternatives (ts.map fun t => t.kind.name)) ∧
    (Derivable .alternatives (ts.map fun t => t.kind.name) → ∃ tree, parse q = .ok (some tree) ∧
      Derives .alternatives (ts.map Token.kind) tree ∧
      ∀ other, Derives .alternatives (ts.map Token.kind) other → other = tree) ∧
    (¬ Derivable .alternatives (ts.map fun t => t.kind.name) → ∃ f, parse q = .error (.query f)) := by
  have names : (ts.map fun t => t.kind.name) = (ts.map Token.kind).map TokenKind.name := by
    rw [List.map_map]
    rfl
  rw [names, derivable_iff]
  have accepted : (∃ tree, Derives .alternatives (ts.map Token.kind) tree) → ∃ tree,
      parse q = .ok (some tree) ∧ Derives .alternatives (ts.map Token.kind) tree ∧
        ∀ other, Derives .alternatives (ts.map Token.kind) other → other = tree := by
    rintro ⟨tree, phrase⟩
    have result := (parse_eq_some_iff read nonempty).mpr phrase
    refine ⟨tree, result, phrase, ?_⟩
    intro other otherPhrase
    have otherResult := (parse_eq_some_iff read nonempty).mpr otherPhrase
    rw [result] at otherResult
    simpa using otherResult.symm
  have refused : (∃ tree, Derives .alternatives (ts.map Token.kind) tree) ∨ ∃ f, parse q = .error (.query f) := by
    rw [parse_eq_of_tokens read nonempty]
    rcases reads_readTree q.toList ts with ⟨tree, -, phrase⟩ | ⟨fault, outcome, f, rfl, -⟩
    · exact .inl ⟨tree, phrase⟩
    · exact .inr ⟨f, by rw [outcome]; rfl⟩
  refine ⟨⟨?_, ?_⟩, accepted, ?_⟩
  · rintro ⟨result, outcome⟩
    rcases refused with derived | ⟨f, fault⟩
    · exact derived
    · rw [outcome] at fault
      contradiction
  · intro derived
    obtain ⟨tree, outcome, -⟩ := accepted derived
    exact ⟨some tree, outcome⟩
  · intro underived
    exact refused.resolve_left underived

def chainTokens : List Token :=
  [⟨.term (compare "a".toList .equals "1".toList), "a=1", 0⟩, ⟨.opening, "(", 4⟩, ⟨.keyword .not, "not", 5⟩,
    ⟨.term (holding "b c".toList), "\"b c\"", 9⟩, ⟨.keyword .or, "OR", 15⟩, ⟨.term (holding "d".toList), "d", 18⟩,
    ⟨.closing, ")", 19⟩]

theorem parse_iff_derivable_chain :
    tokens "a=1 (not \"b c\" OR d)" = .ok chainTokens ∧ chainTokens ≠ [] ∧
    ∃ tree, parse "a=1 (not \"b c\" OR d)" = .ok (some tree) ∧
      Derives .alternatives (chainTokens.map Token.kind) tree ∧
      ∀ other, Derives .alternatives (chainTokens.map Token.kind) other → other = tree := by
  have read : tokens "a=1 (not \"b c\" OR d)" = .ok chainTokens := by with_unfolding_all rfl
  have nonempty : chainTokens ≠ [] := by simp [chainTokens]
  have negated := Derives.operand (.not (.primary (.term (holding "b c".toList))))
  have inside := Derives.or (.conjunction negated) (.operand (.primary (.term (holding "d".toList))))
  have first := Derives.operand (.primary (.term (compare "a".toList .equals "1".toList)))
  have whole := Derives.conjunction (.adjacent first (.primary (.brackets inside)))
  exact ⟨read, nonempty, (parse_iff_derivable read nonempty).2.1 ⟨_, _, rfl, whole⟩⟩

end LogAnalysis.Query
