import LogAnalysis.Proofs.Pattern.Translation

/-!
# Where patterns are rewritten

`Rewritten` says what it is to rewrite a pattern from left to right: at the beginning of a named group or of a
reference a rule decides, by the number of backslashes right before it, whether it gets its longer form, and every other
character is kept. The translation follows one such pair of rules (`rewritten_translateGroups`): a group is rewritten unless a
backslash stands before it, and a reference always. The rules that respect escapes go by the parity of that number instead, and
`rewritten_parity_iff` says for which patterns the two agree.
-/

namespace LogAnalysis.Pattern

open Text

def IsName (name : List Char) : Prop := name ≠ [] ∧ ∀ c ∈ name, isWord c = true

def BeginsGroup (cs : List Char) : Prop :=
  ∃ name after, IsName name ∧ cs = '(' :: '?' :: '<' :: (name ++ '>' :: after)

def BeginsReference (cs : List Char) : Prop :=
  ∃ name after, IsName name ∧ cs = '\\' :: 'k' :: '<' :: (name ++ '>' :: after)

def escapesAfter (n : Nat) (c : Char) : Nat := if c = '\\' then n + 1 else 0

def escapes (cs : List Char) : Nat := cs.foldl escapesAfter 0

/-- A text is rewritten behind some backslashes. The rules say after how many of them groups and references get their longer
forms; what is not the beginning of one, or is not to be changed, is kept. -/
inductive Rewritten (groups references : Nat → Prop) : Nat → List Char → List Char → Prop
  | done {n} : Rewritten groups references n [] []
  | group {n name after out} : IsName name → groups n → Rewritten groups references 0 after out →
      Rewritten groups references n ('(' :: '?' :: '<' :: (name ++ '>' :: after))
        ('(' :: '?' :: 'P' :: '<' :: (name ++ '>' :: out))
  | reference {n name after out} : IsName name → references n → Rewritten groups references 0 after out →
      Rewritten groups references n ('\\' :: 'k' :: '<' :: (name ++ '>' :: after))
        ('(' :: '?' :: 'P' :: '=' :: (name ++ ')' :: out))
  | kept {n c cs out} : (BeginsGroup (c :: cs) → ¬ groups n) → (BeginsReference (c :: cs) → ¬ references n) →
      Rewritten groups references (escapesAfter n c) cs out → Rewritten groups references n (c :: cs) (c :: out)

variable {groups references : Nat → Prop} {name : List Char}

theorem word_ne {d : Char} (noWord : isWord d = false) {c : Char} (word : isWord c = true) : c ≠ d := by
  rintro rfl
  simp [noWord] at word

theorem isWord_bracket : isWord '(' = false := by decide

/-! ## The two translations, one after the other -/

theorem translateGroups_plain {c : Char} (noBracket : c ≠ '(') (behind : Bool) (cs : List Char) :
    translateGroups behind (c :: cs) = c :: translateGroups (c == '\\') cs :=
  translateGroups_cons fun _ same => noBracket (List.cons.inj same).1

theorem translateGroups_name (word : ∀ c ∈ name, isWord c = true) (behind : Bool) (after : List Char) :
    translateGroups behind (name ++ '>' :: after) = name ++ '>' :: translateGroups false after := by
  induction name generalizing behind with
  | nil => exact translateGroups_plain (by decide) behind after
  | cons c name ih =>
      have noBracket := word_ne isWord_bracket (word c List.mem_cons_self)
      rw [List.cons_append, translateGroups_plain noBracket, ih fun d member => word d (List.mem_cons_of_mem c member)]
      rfl

theorem translateReferences_plain {c : Char} (noEscape : c ≠ '\\') (cs : List Char) :
    translateReferences false (c :: cs) = c :: translateReferences false cs :=
  translateReferences_cons fun _ same => absurd (List.cons.inj same).1 noEscape

theorem translateReferences_kept (word : ∀ c ∈ name, isWord c = true) (after : List Char) :
    translateReferences false (name ++ '>' :: after) = name ++ '>' :: translateReferences false after := by
  induction name with
  | nil => exact translateReferences_plain (by decide) after
  | cons c name ih =>
      have noEscape := word_ne isWord_backslash (word c List.mem_cons_self)
      rw [List.cons_append, translateReferences_plain noEscape, ih fun d member => word d (List.mem_cons_of_mem c member)]
      rfl

theorem translateGroups_kept {behind : Bool} {c : Char} {cs : List Char}
    (notHere : BeginsGroup (c :: cs) → behind = true) :
    translateGroups behind (c :: cs) = c :: translateGroups (c == '\\') cs := by
  by_cases opens : ∃ rest, c :: cs = '(' :: '?' :: '<' :: rest
  · obtain ⟨rest, same⟩ := opens
    obtain ⟨rfl, rfl⟩ := List.cons.inj same
    have refused : (!behind && startsName rest) = false := by
      cases starts : startsName rest with
      | false => simp
      | true =>
          obtain ⟨name, after, rfl, isName⟩ := startsName_iff.mp starts
          simp [notHere ⟨name, after, isName, rfl⟩]
    rw [translateGroups, refused, translateGroups_plain (by decide), translateGroups_plain (by decide)]
    rfl
  · exact translateGroups_cons fun rest same => opens ⟨rest, same⟩

theorem translateGroups_eq_cons {behind : Bool} {c : Char} {cs out : List Char} (noBracket : c ≠ '(')
    (same : translateGroups behind cs = c :: out) : ∃ rest, cs = c :: rest ∧ translateGroups (c == '\\') rest = out := by
  cases cs with
  | nil => simp [translateGroups] at same
  | cons d rest =>
      by_cases bracket : d = '('
      · have opening : ∃ more, translateGroups behind (d :: rest) = '(' :: more := by
          obtain rfl := bracket
          unfold translateGroups
          split
          · contradiction
          · split <;> exact ⟨_, rfl⟩
          · next kept =>
              obtain ⟨rfl, rfl⟩ := List.cons.inj kept
              exact ⟨_, rfl⟩
        obtain ⟨more, opening⟩ := opening
        rw [opening] at same
        exact absurd (List.cons.inj same).1.symm noBracket
      · rw [translateGroups_plain bracket] at same
        obtain ⟨rfl, rest_eq⟩ := List.cons.inj same
        exact ⟨rest, rfl, rest_eq⟩

theorem translateGroups_eq_name {behind : Bool} {cs out : List Char} (word : ∀ c ∈ name, isWord c = true)
    (same : translateGroups behind cs = name ++ '>' :: out) : ∃ after, cs = name ++ '>' :: after := by
  induction name generalizing behind cs with
  | nil =>
      obtain ⟨after, rfl, -⟩ := translateGroups_eq_cons (by decide) same
      exact ⟨after, rfl⟩
  | cons c name ih =>
      have noBracket := word_ne isWord_bracket (word c List.mem_cons_self)
      obtain ⟨rest, rfl, rest_eq⟩ := translateGroups_eq_cons noBracket same
      obtain ⟨after, rfl⟩ := ih (fun d member => word d (List.mem_cons_of_mem c member)) rest_eq
      exact ⟨after, rfl⟩

theorem translateReferences_translateGroups {c : Char} {cs : List Char} (notHere : ¬ BeginsReference (c :: cs)) :
    translateReferences false (c :: translateGroups (c == '\\') cs) =
      c :: translateReferences false (translateGroups (c == '\\') cs) := by
  refine translateReferences_cons fun rest same => Bool.eq_false_iff.mpr fun starts => notHere ?_
  obtain ⟨rfl, tail⟩ := List.cons.inj same
  obtain ⟨name, out, rfl, isName⟩ := startsName_iff.mp starts
  obtain ⟨_, rfl, afterLetter⟩ := translateGroups_eq_cons (by decide) tail
  obtain ⟨_, rfl, afterBracket⟩ := translateGroups_eq_cons (by decide) afterLetter
  obtain ⟨after, rfl⟩ := translateGroups_eq_name isName.2 afterBracket
  exact ⟨name, after, isName, rfl⟩

theorem pos_escapesAfter (n : Nat) (c : Char) : decide (0 < escapesAfter n c) = (c == '\\') := by
  unfold escapesAfter
  split <;> simp_all

/-- The translation follows the rules that a group is rewritten unless a backslash stands before it, and a reference
always. -/
theorem rewritten_translateGroups (n : Nat) (cs : List Char) :
    Rewritten (· = 0) (fun _ => True) n cs (translateReferences false (translateGroups (decide (0 < n)) cs)) := by
  -- Not by induction on the text: behind a group or a reference it goes on several characters later.
  induction size : cs.length using Nat.strongRecOn generalizing n cs with
  | ind _ ih =>
      have later : ∀ m after, after.length < cs.length →
          Rewritten (· = 0) (fun _ => True) m after (translateReferences false (translateGroups (decide (0 < m)) after)) :=
        fun m after shorter => ih after.length (size ▸ shorter) m after rfl
      cases cs with
      | nil => exact .done
      | cons c cs =>
          by_cases group : BeginsGroup (c :: cs) ∧ n = 0
          · obtain ⟨⟨name, after, isName, same⟩, rfl⟩ := group
            rw [same] at later ⊢
            have starts : startsName (name ++ '>' :: after) = true := startsName_iff.mpr ⟨name, after, rfl, isName⟩
            have rest := later 0 after (by simp only [List.length_cons, List.length_append]; omega)
            have grouped : translateGroups false ('(' :: '?' :: '<' :: (name ++ '>' :: after)) =
                '(' :: '?' :: 'P' :: '<' :: (name ++ '>' :: translateGroups false after) := by
              simp [translateGroups, starts, translateGroups_name isName.2]
            show Rewritten _ _ 0 _ (translateReferences false (translateGroups false _))
            rw [grouped, translateReferences_plain (by decide), translateReferences_plain (by decide),
              translateReferences_plain (by decide), translateReferences_plain (by decide), translateReferences_kept isName.2]
            exact .group isName rfl rest
          · by_cases reference : BeginsReference (c :: cs)
            · obtain ⟨name, after, isName, same⟩ := reference
              rw [same] at later ⊢
              have rest := later 0 after (by simp only [List.length_cons, List.length_append]; omega)
              rw [translateGroups_plain (by decide), translateGroups_plain (by decide), translateGroups_plain (by decide),
                translateGroups_name isName.2, translateReferences_reference isName.1 isName.2]
              exact .reference isName trivial rest
            · have notHere : BeginsGroup (c :: cs) → decide (0 < n) = true := fun begins =>
                decide_eq_true (Nat.pos_of_ne_zero fun zero => group ⟨begins, zero⟩)
              have rest := later (escapesAfter n c) cs (Nat.lt_succ_self _)
              rw [pos_escapesAfter] at rest
              rw [translateGroups_kept notHere, translateReferences_translateGroups reference]
              exact .kept (fun begins zero => group ⟨begins, zero⟩) (fun begins => absurd begins reference) rest

/-! ## Two pairs of rules -/

def Everywhere (asked : Nat → List Char → Prop) (n : Nat) (cs : List Char) : Prop :=
  ∀ before after, cs = before ++ after → asked (before.foldl escapesAfter n) after

theorem everywhere_cons {asked : Nat → List Char → Prop} {n : Nat} {c : Char} {cs : List Char} :
    Everywhere asked n (c :: cs) ↔ asked n (c :: cs) ∧ Everywhere asked (escapesAfter n c) cs := by
  constructor
  · intro everywhere
    refine ⟨everywhere [] (c :: cs) rfl, fun before after split => ?_⟩
    exact everywhere (c :: before) after (by rw [split, List.cons_append])
  · rintro ⟨here, later⟩ before after split
    cases before with
    | nil =>
        obtain rfl : c :: cs = after := split
        exact here
    | cons d before =>
        obtain ⟨rfl, rfl⟩ := List.cons.inj split
        exact later before after rfl

def Asks (group reference : Nat → Prop) (n : Nat) (cs : List Char) : Prop :=
  (BeginsGroup cs → group n) ∧ (BeginsReference cs → reference n)

section

variable {group reference : Nat → Prop} {n : Nat}

theorem asks_nil : Asks group reference n [] := by
  constructor
  · rintro ⟨name, after, -, same⟩
    contradiction
  · rintro ⟨name, after, -, same⟩
    contradiction

theorem asks_plain {c : Char} (noBracket : c ≠ '(') (noEscape : c ≠ '\\') (cs : List Char) :
    Asks group reference n (c :: cs) := by
  constructor
  · rintro ⟨name, after, -, same⟩
    exact absurd (List.cons.inj same).1 noBracket
  · rintro ⟨name, after, -, same⟩
    exact absurd (List.cons.inj same).1 noEscape

theorem everywhere_plain {c : Char} (noBracket : c ≠ '(') (noEscape : c ≠ '\\') {cs : List Char} :
    Everywhere (Asks group reference) n (c :: cs) ↔ Everywhere (Asks group reference) 0 cs := by
  rw [everywhere_cons, escapesAfter, if_neg noEscape]
  exact and_iff_right (asks_plain noBracket noEscape cs)

theorem everywhere_name (word : ∀ c ∈ name, isWord c = true) {after : List Char} :
    Everywhere (Asks group reference) n (name ++ '>' :: after) ↔ Everywhere (Asks group reference) 0 after := by
  induction name generalizing n with
  | nil => exact everywhere_plain (by decide) (by decide)
  | cons c name ih =>
      have isWord_c := word c List.mem_cons_self
      rw [List.cons_append, everywhere_plain (word_ne isWord_bracket isWord_c) (word_ne isWord_backslash isWord_c)]
      exact ih fun d member => word d (List.mem_cons_of_mem c member)

theorem everywhere_group (isName : IsName name) {after : List Char} :
    Everywhere (Asks group reference) n ('(' :: '?' :: '<' :: (name ++ '>' :: after)) ↔
      group n ∧ Everywhere (Asks group reference) 0 after := by
  have here : Asks group reference n ('(' :: '?' :: '<' :: (name ++ '>' :: after)) ↔ group n := by
    refine ⟨fun asks => asks.1 ⟨name, after, isName, rfl⟩, fun holds => ⟨fun _ => holds, ?_⟩⟩
    rintro ⟨other, rest, -, same⟩
    exact absurd (List.cons.inj same).1 (by decide)
  rw [everywhere_cons, here, everywhere_plain (by decide) (by decide), everywhere_plain (by decide) (by decide),
    everywhere_name isName.2]

theorem everywhere_reference (isName : IsName name) {after : List Char} :
    Everywhere (Asks group reference) n ('\\' :: 'k' :: '<' :: (name ++ '>' :: after)) ↔
      reference n ∧ Everywhere (Asks group reference) 0 after := by
  have here : Asks group reference n ('\\' :: 'k' :: '<' :: (name ++ '>' :: after)) ↔ reference n := by
    refine ⟨fun asks => asks.2 ⟨name, after, isName, rfl⟩, fun holds => ⟨?_, fun _ => holds⟩⟩
    rintro ⟨other, rest, -, same⟩
    exact absurd (List.cons.inj same).1 (by decide)
  rw [everywhere_cons, here, everywhere_plain (by decide) (by decide), everywhere_plain (by decide) (by decide),
    everywhere_name isName.2]

end

theorem name_unique {other after rest : List Char} (word : ∀ c ∈ name, isWord c = true)
    (otherWord : ∀ c ∈ other, isWord c = true) (same : name ++ '>' :: after = other ++ '>' :: rest) :
    name = other ∧ after = rest := by
  have name_eq : name = other := by
    have taken := congrArg (List.takeWhile isWord) same
    simpa [List.takeWhile_append_of_pos word, List.takeWhile_append_of_pos otherWord, isWord_greater] using taken
  subst name_eq
  exact ⟨rfl, (List.cons.inj (List.append_cancel_left same)).2⟩

/-! ## What the rules leave -/

section

variable {n : Nat} {c : Char} {cs out after : List Char}

theorem Rewritten.group_cases (isName : IsName name)
    (rewritten : Rewritten groups references n ('(' :: '?' :: '<' :: (name ++ '>' :: after)) out) :
    (groups n ∧ ∃ rest, out = '(' :: '?' :: 'P' :: '<' :: (name ++ '>' :: rest) ∧ Rewritten groups references 0 after rest) ∨
    (¬ groups n ∧ ∃ rest, out = '(' :: rest ∧
      Rewritten groups references 0 ('?' :: '<' :: (name ++ '>' :: after)) rest) := by
  generalize source : '(' :: '?' :: '<' :: (name ++ '>' :: after) = text at rewritten
  cases rewritten with
  | done => contradiction
  | group otherName taken more =>
      simp only [List.cons.injEq, true_and] at source
      obtain ⟨rfl, rfl⟩ := name_unique isName.2 otherName.2 source
      exact .inl ⟨taken, _, rfl, more⟩
  | reference => simp at source
  | kept noGroup noReference more =>
      obtain ⟨rfl, rfl⟩ := List.cons.inj source
      exact .inr ⟨noGroup ⟨name, after, isName, rfl⟩, _, rfl, more⟩

theorem Rewritten.reference_cases (isName : IsName name)
    (rewritten : Rewritten groups references n ('\\' :: 'k' :: '<' :: (name ++ '>' :: after)) out) :
    (references n ∧ ∃ rest, out = '(' :: '?' :: 'P' :: '=' :: (name ++ ')' :: rest) ∧
      Rewritten groups references 0 after rest) ∨
    (¬ references n ∧ ∃ rest, out = '\\' :: rest) := by
  generalize source : '\\' :: 'k' :: '<' :: (name ++ '>' :: after) = text at rewritten
  cases rewritten with
  | done => contradiction
  | group => simp at source
  | reference otherName taken more =>
      simp only [List.cons.injEq, true_and] at source
      obtain ⟨rfl, rfl⟩ := name_unique isName.2 otherName.2 source
      exact .inl ⟨taken, _, rfl, more⟩
  | kept noGroup noReference more =>
      obtain ⟨rfl, rfl⟩ := List.cons.inj source
      exact .inr ⟨noReference ⟨name, after, isName, rfl⟩, _, rfl⟩

theorem Rewritten.of_kept (noGroup : BeginsGroup (c :: cs) → ¬ groups n) (noReference : BeginsReference (c :: cs) → ¬ references n)
    (rewritten : Rewritten groups references n (c :: cs) out) :
    ∃ rest, out = c :: rest ∧ Rewritten groups references (escapesAfter n c) cs rest := by
  generalize source : c :: cs = text at rewritten
  cases rewritten with
  | done => contradiction
  | group isName taken more => exact absurd taken (noGroup ⟨_, _, isName, source⟩)
  | reference isName taken more => exact absurd taken (noReference ⟨_, _, isName, source⟩)
  | kept _ _ more =>
      obtain ⟨rfl, rfl⟩ := List.cons.inj source
      exact ⟨_, rfl, more⟩

theorem Rewritten.not_longer {rest : List Char} (rewritten : Rewritten groups references n ('?' :: '<' :: cs) out) :
    out ≠ '?' :: 'P' :: rest := by
  rintro rfl
  cases rewritten with
  | kept _ _ more => cases more

theorem Rewritten.unique {other : List Char} (rewritten : Rewritten groups references n cs out)
    (also : Rewritten groups references n cs other) : out = other := by
  induction rewritten generalizing other with
  | done =>
      cases also
      rfl
  | group isName taken _ ih =>
      rcases also.group_cases isName with ⟨-, rest, rfl, more⟩ | ⟨refused, -⟩
      · rw [ih more]
      · exact absurd taken refused
  | reference isName taken _ ih =>
      rcases also.reference_cases isName with ⟨-, rest, rfl, more⟩ | ⟨refused, -⟩
      · rw [ih more]
      · exact absurd taken refused
  | kept noGroup noReference _ ih =>
      obtain ⟨rest, rfl, more⟩ := also.of_kept noGroup noReference
      rw [ih more]

variable {groups' references' : Nat → Prop}

theorem Rewritten.of_agree (rewritten : Rewritten groups references n cs out)
    (agree : Everywhere (Asks (fun m => groups m ↔ groups' m) (fun m => references m ↔ references' m)) n cs) :
    Rewritten groups' references' n cs out := by
  induction rewritten with
  | done => exact .done
  | group isName taken _ ih =>
      obtain ⟨same, later⟩ := (everywhere_group isName).mp agree
      exact .group isName (same.mp taken) (ih later)
  | reference isName taken _ ih =>
      obtain ⟨same, later⟩ := (everywhere_reference isName).mp agree
      exact .reference isName (same.mp taken) (ih later)
  | kept noGroup noReference _ ih =>
      obtain ⟨here, later⟩ := everywhere_cons.mp agree
      refine .kept (fun begins taken => noGroup begins ?_) (fun begins taken => noReference begins ?_) (ih later)
      · exact (here.1 begins).mpr taken
      · exact (here.2 begins).mpr taken

theorem Rewritten.agree (rewritten : Rewritten groups references n cs out) (also : Rewritten groups' references' n cs out) :
    Everywhere (Asks (fun m => groups m ↔ groups' m) (fun m => references m ↔ references' m)) n cs := by
  induction rewritten with
  | done =>
      intro before after split
      obtain ⟨rfl, rfl⟩ := List.append_eq_nil_iff.mp split.symm
      exact asks_nil
  | group isName taken _ ih =>
      refine (everywhere_group isName).mpr ?_
      rcases also.group_cases isName with ⟨alsoTaken, rest, same, more⟩ | ⟨-, rest, same, more⟩
      · simp only [List.cons.injEq, List.append_cancel_left_eq, true_and] at same
        subst same
        exact ⟨iff_of_true taken alsoTaken, ih more⟩
      · obtain ⟨-, rfl⟩ := List.cons.inj same
        exact absurd rfl more.not_longer
  | reference isName taken _ ih =>
      refine (everywhere_reference isName).mpr ?_
      rcases also.reference_cases isName with ⟨alsoTaken, rest, same, more⟩ | ⟨-, rest, same⟩
      · simp only [List.cons.injEq, List.append_cancel_left_eq, true_and] at same
        subst same
        exact ⟨iff_of_true taken alsoTaken, ih more⟩
      · exact absurd (List.cons.inj same).1 (by decide)
  | @kept n c cs out noGroup noReference rewritten ih =>
      have here : Asks (fun m => groups m ↔ groups' m) (fun m => references m ↔ references' m) n (c :: cs) := by
        constructor
        · rintro ⟨name, after, isName, source⟩
          obtain ⟨rfl, rfl⟩ := List.cons.inj source
          rcases also.group_cases isName with ⟨-, rest, same, -⟩ | ⟨refused, -⟩
          · obtain ⟨-, rfl⟩ := List.cons.inj same
            exact absurd rfl rewritten.not_longer
          · exact iff_of_false (noGroup ⟨name, after, isName, rfl⟩) refused
        · rintro ⟨name, after, isName, source⟩
          obtain ⟨rfl, rfl⟩ := List.cons.inj source
          rcases also.reference_cases isName with ⟨-, rest, same, -⟩ | ⟨refused, -⟩
          · exact absurd (List.cons.inj same).1 (by decide)
          · exact iff_of_false (noReference ⟨name, after, isName, rfl⟩) refused
      have noGroup' : BeginsGroup (c :: cs) → ¬ groups' n := fun begins =>
        (not_congr (here.1 begins)).mp (noGroup begins)
      have noReference' : BeginsReference (c :: cs) → ¬ references' n := fun begins =>
        (not_congr (here.2 begins)).mp (noReference begins)
      obtain ⟨rest, same, more⟩ := also.of_kept noGroup' noReference'
      obtain ⟨-, rfl⟩ := List.cons.inj same
      exact everywhere_cons.mpr ⟨here, ih more⟩

end

/-- An even number of backslashes escape each other in pairs, and nothing after them. -/
def isUnescaped (n : Nat) : Prop := n % 2 = 0

theorem rewritten_parity_iff (source : String) :
    Rewritten isUnescaped isUnescaped 0 source.toList (translate source).toList ↔
      Everywhere (Asks (fun n => n = 0 ↔ isUnescaped n) (fun n => True ↔ isUnescaped n)) 0 source.toList := by
  have rewritten := rewritten_translateGroups 0 source.toList
  rw [translate, String.toList_ofList]
  exact ⟨rewritten.agree, rewritten.of_agree⟩

/-- Groups are rewritten unless a backslash stands before them, and references always; this respects the escapes of a pattern
just if no group stands behind backslashes that escape each other, and no reference has an escaped backslash. -/
theorem translate_rewrites (source : String) :
    (∀ out, Rewritten (· = 0) (fun _ => True) 0 source.toList out ↔ out = (translate source).toList) ∧
    (Rewritten isUnescaped isUnescaped 0 source.toList (translate source).toList ↔
      ∀ before after, source.toList = before ++ after →
        (BeginsGroup after → escapes before = 0 ∨ ¬ isUnescaped (escapes before)) ∧
        (BeginsReference after → isUnescaped (escapes before))) := by
  constructor
  · intro out
    have rewritten := rewritten_translateGroups 0 source.toList
    rw [translate, String.toList_ofList]
    exact ⟨fun also => also.unique rewritten, fun same => same ▸ rewritten⟩
  · rw [rewritten_parity_iff]
    have rule : ∀ n, (n = 0 ↔ isUnescaped n) ↔ (n = 0 ∨ ¬ isUnescaped n) := by
      intro n
      unfold isUnescaped
      omega
    simp only [Everywhere, Asks, rule, true_iff, escapes]

/-- A group behind an escaped backslash is not rewritten, and what looks like a reference behind one is. -/
theorem not_rewrites_escaped_backslash :
    ¬ Rewritten isUnescaped isUnescaped 0 "\\\\(?<n>x)".toList (translate "\\\\(?<n>x)").toList ∧
    ¬ Rewritten isUnescaped isUnescaped 0 "\\\\k<n>".toList (translate "\\\\k<n>").toList := by
  have isName : IsName ['n'] := ⟨by decide, by simpa using (by decide : isWord 'n' = true)⟩
  rw [rewritten_parity_iff, rewritten_parity_iff]
  constructor
  · intro everywhere
    have group := (everywhere ['\\', '\\'] "(?<n>x)".toList rfl).1 ⟨['n'], ['x', ')'], isName, rfl⟩
    exact absurd (group.mpr rfl) (by decide)
  · intro everywhere
    have reference := (everywhere ['\\'] "\\k<n>".toList rfl).2 ⟨['n'], [], isName, rfl⟩
    exact absurd (reference.mp trivial) (by decide : ¬ 1 % 2 = 0)

end LogAnalysis.Pattern
