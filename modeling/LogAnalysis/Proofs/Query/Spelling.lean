import LogAnalysis.Proofs.Pattern.Reading
import LogAnalysis.Proofs.Pattern.Translation
import LogAnalysis.Query.Term
import Mathlib.Data.List.Basic

/-!
# The patterns of wildcard values

The pattern of a wildcard value spells each of its characters for itself (`wildcardPattern_eq`), and is read as a leaf or
a repetition for each (`compile_wildcardPattern`). The exception is a value in which a reference by name is written
(`Refers`): the translation of references looks into the escaped text, and what it puts there makes the pattern
malformed (`compile_of_refers`).
-/

namespace LogAnalysis.Query

open Pattern Text

def specials : List Char := "()[]\x7b\x7d?*+-|^$\\.&~# \t\n\r\x0b\x0c".toList

theorem of_isSpecial {p : Char → Bool} (all : specials.all p = true) {c : Char} (special : isSpecial c = true) :
    p c = true :=
  List.all_eq_true.mp all c (List.contains_iff_mem.mp special)

def spell (c : Char) : List Char := if c = '*' then ['.', '*'] else escaped [c]

theorem spell_special {c : Char} (special : isSpecial c = true) (noStar : c ≠ '*') : spell c = ['\\', c] := by
  simp [spell, noStar, escaped, special]

theorem ne_star {c : Char} (plain : isSpecial c = false) : c ≠ '*' := by
  rintro rfl
  exact absurd plain (by decide)

theorem spell_plain {c : Char} (plain : isSpecial c = false) : spell c = [c] := by
  simp [spell, ne_star plain, escaped, plain]

theorem spell_cases (c : Char) :
    c = '*' ∨ (c ≠ '*' ∧ isSpecial c = true ∧ spell c = ['\\', c]) ∨ (isSpecial c = false ∧ spell c = [c]) := by
  by_cases star : c = '*'
  · exact .inl star
  · cases special : isSpecial c with
    | true => exact .inr (.inl ⟨star, rfl, spell_special special star⟩)
    | false => exact .inr (.inr ⟨rfl, spell_plain special⟩)

theorem escaped_cons (c : Char) (cs : List Char) : escaped (c :: cs) = escaped [c] ++ escaped cs := by
  simp [escaped]

theorem joinWith_cons_append (separator start piece : List Char) (pieces : List (List Char)) :
    joinWith separator ((start ++ piece) :: pieces) = start ++ joinWith separator (piece :: pieces) := by
  cases pieces <;> simp [joinWith]

theorem wildcardPattern_eq (v : List Char) : wildcardPattern v = '^' :: (v.flatMap spell ++ ['$']) := by
  have spelled : joinWith ".*".toList ((splitOn '*' v).map escaped) = v.flatMap spell := by
    induction v with
    | nil => rfl
    | cons c v ih =>
        obtain ⟨piece, pieces, split⟩ := List.exists_cons_of_ne_nil (splitOn_ne_nil '*' v)
        rw [split, List.map_cons] at ih
        rw [splitOn, split, List.flatMap_cons, ← ih]
        by_cases star : c = '*'
        · subst star
          rfl
        · rw [if_neg star, spell, if_neg star]
          dsimp only
          rw [List.map_cons, escaped_cons, joinWith_cons_append]
  rw [wildcardPattern, spelled]

/-! ## Reading -/

theorem not_mem_signs {c : Char} (plain : isSpecial c = false) : c ∉ signs := by
  have special : signs.all isSpecial = true := by decide
  intro sign
  have := List.all_eq_true.mp special c sign
  simp [plain] at this

theorem not_isAlphanum {c : Char} (special : isSpecial c = true) : c.isAlphanum = false := by
  have none : specials.all (!·.isAlphanum) = true := by decide
  simpa using of_isSpecial none special

structure Resumes (cs : List Char) : Prop where
  notLazy : cs.head? ≠ some '?'
  notAll : cs.head? ≠ some '+'
  whole : cs ≠ ['\\']

theorem resumes_cons {c : Char} (cs : List Char) (plain : isSpecial c = false) : Resumes (c :: cs) := by
  have ordinary : ∀ d, isSpecial d = true → c ≠ d := by
    rintro d special rfl
    simp [plain] at special
  constructor
  · simpa using ordinary '?' (by decide)
  · simpa using ordinary '+' (by decide)
  · exact fun same => ordinary '\\' (by decide) (List.cons.inj same).1

theorem resumes_dollar : Resumes ['$'] := ⟨by decide, by decide, by decide⟩

theorem resumes_spell (c : Char) (cs : List Char) : Resumes (spell c ++ cs) := by
  rcases spell_cases c with rfl | ⟨noStar, special, spelled⟩ | ⟨plain, spelled⟩
  · exact ⟨by simp [spell], by simp [spell], by simp [spell]⟩
  · rw [spelled]
    exact ⟨by simp, by simp, by simp⟩
  · rw [spelled]
    exact resumes_cons cs plain

theorem resumes_flatMap_spell {cs : List Char} (resumes : Resumes cs) (v : List Char) :
    Resumes (v.flatMap spell ++ cs) := by
  cases v with
  | nil => exact resumes
  | cons c v =>
      rw [List.flatMap_cons, List.append_assoc]
      exact resumes_spell c _

def anyCase : Flags := { caseless := true }

def charNode (c : Char) : Node :=
  if c = '*' then .loop 0 none .most (.single ⟨.anyButNewline, .exact⟩) else anyCase.codeNode c.toNat

theorem run_items_spell (c : Char) {cs : List Char} (resumes : Resumes cs) (fuel : Nat) (done : List Node) :
    ∃ left, fuel ≤ left ∧ (items (fuel + 2) anyCase done).run { rest := spell c ++ cs } =
      (items left anyCase (charNode c :: done)).run { rest := cs } := by
  rcases spell_cases c with rfl | ⟨noStar, special, spelled⟩ | ⟨plain, spelled⟩
  · refine ⟨fuel, Nat.le_refl _, ?_⟩
    show (items (fuel + 2) anyCase done).run { rest := '.' :: '*' :: cs } = _
    refine (run_items_dot (p := { rest := [] }) rfl (by simp)).trans ?_
    apply run_items_repeat (p := { rest := [] }) (b := ⟨0, none⟩) _ rfl resumes.whole resumes.notLazy resumes.notAll
    simp [repetitions]
  · refine ⟨fuel + 1, Nat.le_succ _, ?_⟩
    rw [spelled, charNode, if_neg noStar]
    exact run_items_escaped (p := { rest := [] }) (not_isAlphanum special) resumes.whole
  · refine ⟨fuel + 1, Nat.le_succ _, ?_⟩
    rw [spelled, charNode, if_neg (ne_star plain)]
    exact run_items_plain (p := { rest := [] }) (not_mem_signs plain) rfl resumes.whole

theorem run_items_flatMap_spell (v : List Char) {cs : List Char} (resumes : Resumes cs) (fuel : Nat)
    (done : List Node) :
    ∃ left, fuel ≤ left ∧ (items (fuel + 2 * v.length) anyCase done).run { rest := v.flatMap spell ++ cs } =
      (items left anyCase ((v.map charNode).reverse ++ done)).run { rest := cs } := by
  induction v generalizing fuel done with
  | nil => exact ⟨fuel, Nat.le_refl _, rfl⟩
  | cons c v ih =>
      -- Each character takes two steps at most. What the first one leaves over goes to the others.
      obtain ⟨middle, enough, first⟩ :=
        run_items_spell c (resumes_flatMap_spell resumes v) (fuel + 2 * v.length) done
      obtain ⟨left, more, others⟩ := ih (middle - 2 * v.length) (charNode c :: done)
      refine ⟨left, by omega, ?_⟩
      rw [Nat.sub_add_cancel (by omega)] at others
      rw [List.length_cons, show fuel + 2 * (v.length + 1) = fuel + 2 * v.length + 2 by omega, List.flatMap_cons,
        List.append_assoc, first, others]
      simp

def wildcardNode (v : List Char) : Node :=
  .sequence (.anchor .textStart :: (v.map charNode ++ [.anchor .lastLineEnd]))

theorem length_le_flatMap_spell (v : List Char) : v.length ≤ (v.flatMap spell).length := by
  induction v with
  | nil => exact Nat.le_refl _
  | cons c v ih =>
      have nonempty : 1 ≤ (spell c).length := by
        rcases spell_cases c with rfl | ⟨-, -, spelled⟩ | ⟨-, spelled⟩
        · decide
        · simp [spelled]
        · simp [spelled]
      simp only [List.flatMap_cons, List.length_append, List.length_cons]
      omega

theorem run_items_caret (v : List Char) {cs : List Char} (resumes : Resumes cs) :
    ∃ left, 2 * cs.length ≤ left ∧
      (items (2 * ('^' :: (v.flatMap spell ++ cs)).length + 1) anyCase []).run { rest := '^' :: (v.flatMap spell ++ cs) } =
        (items left anyCase ((v.map charNode).reverse ++ [.anchor .textStart])).run { rest := cs } := by
  have length := length_le_flatMap_spell v
  obtain ⟨fuel, enough, more⟩ : ∃ fuel, 2 * ('^' :: (v.flatMap spell ++ cs)).length = fuel + 2 * v.length ∧
      2 * cs.length ≤ fuel := by
    refine ⟨2 * (v.flatMap spell ++ cs).length + 2 - 2 * v.length, ?_, ?_⟩
    all_goals
      simp only [List.length_append, List.length_cons]
      omega
  obtain ⟨left, rest, spelled⟩ := run_items_flatMap_spell v resumes fuel [.anchor .textStart]
  refine ⟨left, Nat.le_trans more rest, ?_⟩
  rw [enough]
  refine (run_items_anchor (p := { rest := [] }) (a := .textStart) ?_ rfl (resumes_flatMap_spell resumes v).whole).trans
    spelled
  simp [anyCase]

theorem readsTo_spelled (v : List Char) :
    ReadsTo anyCase ('^' :: (v.flatMap spell ++ ['$'])) (wildcardNode v) [] := by
  obtain ⟨left, enough, read⟩ := run_items_caret v resumes_dollar
  obtain ⟨fuel, rfl⟩ := Nat.exists_eq_add_of_le' enough
  have last : (items (fuel + 2) anyCase ((v.map charNode).reverse ++ [.anchor .textStart])).run { rest := ['$'] } =
      (items (fuel + 1) anyCase
        (.anchor .lastLineEnd :: ((v.map charNode).reverse ++ [.anchor .textStart]))).run { rest := [] } := by
    apply run_items_anchor (p := { rest := [] }) _ rfl (by simp)
    simp [anyCase]
  rw [ReadsTo, read]
  refine last.trans ((run_items_end (p := { rest := [] })).trans ?_)
  simp [wildcardNode]

theorem flatMap_spell_plain {cs : List Char} (plain : ∀ c ∈ cs, isSpecial c = false) : cs.flatMap spell = cs := by
  induction cs with
  | nil => rfl
  | cons c cs ih =>
      rw [List.flatMap_cons, spell_plain (plain c List.mem_cons_self),
        ih fun d member => plain d (List.mem_cons_of_mem c member)]
      rfl

theorem readsTo_reference (before : List Char) {name : List Char} (plain : ∀ c ∈ name, isSpecial c = false)
    (after : List Char) : ∃ node, ReadsTo anyCase
      ('^' :: (before.flatMap spell ++ '\\' :: '(' :: '?' :: 'P' :: '=' :: (name ++ ')' :: after))) node (')' :: after) := by
  have resumes : Resumes ('\\' :: '(' :: '?' :: 'P' :: '=' :: (name ++ ')' :: after)) :=
    ⟨by simp, by simp, by simp⟩
  obtain ⟨left, enough, read⟩ := run_items_caret before resumes
  obtain ⟨fuel, rfl⟩ : ∃ fuel, left = fuel + 1 + 2 * ('P' :: '=' :: name).length + 1 + 1 := by
    refine ⟨left - 2 * name.length - 7, ?_⟩
    simp only [List.length_cons, List.length_append] at enough ⊢
    omega
  have closes : Resumes (')' :: after) := ⟨by simp, by simp, by simp⟩
  have name_plain : ∀ c ∈ 'P' :: '=' :: name, isSpecial c = false := by
    simp only [List.mem_cons, forall_eq_or_imp]
    exact ⟨by decide, by decide, plain⟩
  -- The backslash makes the opening parenthesis literal and the question mark belongs to it, so the closing one has no partner.
  have literal := read.trans (run_items_escaped (p := { rest := [] }) (c := '(') rfl (by simp))
  have optional := literal.trans (run_items_repeat (p := { rest := [] }) (c := '?') (b := ⟨0, some 1⟩)
    (by simp [repetitions]) rfl (by simp) (by simp) (by simp))
  obtain ⟨left, more, named⟩ := run_items_flatMap_spell ('P' :: '=' :: name) closes (fuel + 1)
    (.loop 0 (some 1) .most (anyCase.codeNode '('.toNat) :: ((before.map charNode).reverse ++ [.anchor .textStart]))
  rw [flatMap_spell_plain name_plain] at named
  obtain ⟨rest, rfl⟩ := Nat.exists_eq_add_of_le' (Nat.le_trans (Nat.le_add_left 1 fuel) more)
  exact ⟨_, (optional.trans named).trans (run_items_closing (p := { rest := [] }))⟩

theorem problem?_sequence {template : Bool} {nodes : List Node} (fine : ∀ node ∈ nodes, node.problem? template = none) :
    (Node.sequence nodes).problem? template = none := by
  induction nodes with
  | nil => rfl
  | cons node nodes ih =>
      cases nodes with
      | nil => exact fine node (List.mem_singleton.mpr rfl)
      | cons next nodes =>
          show (node.problem? template).or ((Node.sequence (next :: nodes)).problem? template) = none
          rw [fine node List.mem_cons_self, ih fun other member => fine other (List.mem_cons_of_mem node member)]
          rfl

theorem problem?_wildcardNode (v : List Char) : (wildcardNode v).problem? false = none := by
  apply problem?_sequence
  intro node member
  simp only [List.mem_cons, List.mem_append, List.mem_map, List.not_mem_nil, or_false] at member
  rcases member with rfl | ⟨c, -, rfl⟩ | rfl
  · rfl
  · rw [charNode]
    split <;> rfl
  · rfl

theorem parse_spelled {text : String} {v : List Char} (spelled : text.toList = '^' :: (v.flatMap spell ++ ['$'])) :
    parse anyCase text = .ok ⟨wildcardNode v, 0, []⟩ :=
  parse_of_readsTo (by decide) (by decide) rfl spelled (readsTo_spelled v) rfl (problem?_wildcardNode v)

theorem parse_reference {text : String} {before name after : List Char} (plain : ∀ c ∈ name, isSpecial c = false)
    (spelled : text.toList =
      '^' :: (before.flatMap spell ++ '\\' :: '(' :: '?' :: 'P' :: '=' :: (name ++ ')' :: after))) :
    ∃ fault, parse anyCase text = .error (.malformed fault) := by
  obtain ⟨node, read⟩ := readsTo_reference before plain after
  exact parse_of_closing (by decide) (by decide) rfl spelled read rfl

/-! ## Translation -/

def StartsReference (cs : List Char) : Prop :=
  ∃ name after, cs = '\\' :: 'k' :: '<' :: (name ++ '>' :: after) ∧ name ≠ [] ∧ ∀ c ∈ name, isWord c = true

def Refers (cs : List Char) : Prop := ∃ rest, rest <:+ cs ∧ StartsReference rest

theorem not_refers_of_notMem {cs : List Char} (absent : '\\' ∉ cs) : ¬ Refers cs := by
  rintro ⟨rest, suffix, name, after, rfl, -⟩
  exact absent (suffix.subset List.mem_cons_self)

theorem refers_cons {c : Char} {cs : List Char} : Refers (c :: cs) ↔ StartsReference (c :: cs) ∨ Refers cs := by
  simp only [Refers, List.suffix_cons_iff]
  constructor
  · rintro ⟨rest, rfl | suffix, starts⟩
    · exact .inl starts
    · exact .inr ⟨rest, suffix, starts⟩
  · rintro (starts | ⟨rest, suffix, starts⟩)
    · exact ⟨c :: cs, .inl rfl, starts⟩
    · exact ⟨rest, .inr suffix, starts⟩

theorem plain_of_isWord {c : Char} (word : isWord c = true) : isSpecial c = false := by
  have none : specials.all (!isWord ·) = true := by decide
  cases special : isSpecial c with
  | true => simpa [word] using of_isSpecial none special
  | false => rfl

theorem translateGroups_spell (behind : Bool) (c : Char) {cs : List Char} (resumes : Resumes cs) :
    ∃ next, translateGroups behind (spell c ++ cs) = spell c ++ translateGroups next cs := by
  have keep (behind : Bool) (d : Char) :
      translateGroups behind (d :: cs) = d :: translateGroups (d == '\\') cs := by
    apply translateGroups_cons
    rintro rest same
    obtain rfl := (List.cons.inj same).2
    exact resumes.notLazy rfl
  rcases spell_cases c with rfl | ⟨-, -, spelled⟩ | ⟨-, spelled⟩
  · refine ⟨false, ?_⟩
    show translateGroups behind ('.' :: '*' :: cs) = '.' :: '*' :: translateGroups false cs
    rw [translateGroups_cons (by simp), keep]
    rfl
  · refine ⟨c == '\\', ?_⟩
    rw [spelled]
    show translateGroups behind ('\\' :: c :: cs) = '\\' :: c :: translateGroups (c == '\\') cs
    rw [translateGroups_cons (by simp), keep]
  · rw [spelled]
    exact ⟨c == '\\', keep behind c⟩

theorem translateGroups_spelled (behind : Bool) (v : List Char) :
    translateGroups behind (v.flatMap spell ++ ['$']) = v.flatMap spell ++ ['$'] := by
  induction v generalizing behind with
  | nil => rfl
  | cons c v ih =>
      obtain ⟨next, kept⟩ := translateGroups_spell behind c (resumes_flatMap_spell resumes_dollar v)
      rw [List.flatMap_cons, List.append_assoc, kept, ih]

theorem translateReferences_spell (c : Char) {cs : List Char}
    (other : c = '\\' → ∀ rest, cs = 'k' :: '<' :: rest → startsName rest = false) :
    translateReferences false (spell c ++ cs) = spell c ++ translateReferences false cs := by
  have keep : translateReferences false (c :: cs) = c :: translateReferences false cs := by
    apply translateReferences_cons
    intro rest same
    obtain ⟨escape, same⟩ := List.cons.inj same
    exact other escape rest same
  rcases spell_cases c with rfl | ⟨-, special, spelled⟩ | ⟨-, spelled⟩
  · show translateReferences false ('.' :: '*' :: cs) = '.' :: '*' :: translateReferences false cs
    rw [translateReferences_cons (by simp), keep]
  · rw [spelled]
    show translateReferences false ('\\' :: c :: cs) = '\\' :: c :: translateReferences false cs
    rw [translateReferences_cons, keep]
    rintro rest same
    obtain rfl := (List.cons.inj (List.cons.inj same).2).1
    exact absurd special (by decide)
  · rw [spelled]
    exact keep

theorem exists_of_spelled_eq_append {cs v rest : List Char} (plain : ∀ c ∈ cs, isSpecial c = false)
    (same : v.flatMap spell ++ ['$'] = cs ++ rest) : ∃ w, v = cs ++ w ∧ w.flatMap spell ++ ['$'] = rest := by
  induction cs generalizing v with
  | nil => exact ⟨v, rfl, same⟩
  | cons d cs ih =>
      have plain_d := plain d List.mem_cons_self
      cases v with
      | nil =>
          obtain rfl := (List.cons.inj same).1
          exact absurd plain_d (by decide)
      | cons c v =>
          rw [List.flatMap_cons, List.append_assoc] at same
          rcases spell_cases c with rfl | ⟨-, -, spelled⟩ | ⟨-, spelled⟩
          · obtain rfl := (List.cons.inj same).1
            exact absurd plain_d (by decide)
          · rw [spelled] at same
            obtain rfl := (List.cons.inj same).1
            exact absurd plain_d (by decide)
          · rw [spelled, List.singleton_append, List.cons_append] at same
            obtain ⟨rfl, others⟩ := List.cons.inj same
            obtain ⟨w, rfl, left⟩ := ih (fun d member => plain d (List.mem_cons_of_mem c member)) others
            exact ⟨w, rfl, left⟩

theorem startsReference_of_startsName {v rest : List Char} (same : v.flatMap spell ++ ['$'] = 'k' :: '<' :: rest)
    (starts : startsName rest = true) : StartsReference ('\\' :: v) := by
  obtain ⟨name, others, rfl, nonempty, word⟩ := startsName_iff.mp starts
  have plain : ∀ c ∈ 'k' :: '<' :: (name ++ ['>']), isSpecial c = false := by
    intro c member
    simp only [List.mem_cons, List.mem_append, List.not_mem_nil, or_false] at member
    rcases member with rfl | rfl | inName | rfl
    · rfl
    · rfl
    · exact plain_of_isWord (word c inName)
    · rfl
  have start : v.flatMap spell ++ ['$'] = 'k' :: '<' :: (name ++ ['>']) ++ others := by
    rw [same]
    simp
  obtain ⟨after, rfl, -⟩ := exists_of_spelled_eq_append plain start
  exact ⟨name, after, by simp, nonempty, word⟩

theorem translateReferences_spelled_cons {c : Char} {v : List Char} (other : ¬ StartsReference (c :: v)) :
    translateReferences false ((c :: v).flatMap spell ++ ['$']) =
      spell c ++ translateReferences false (v.flatMap spell ++ ['$']) := by
  rw [List.flatMap_cons, List.append_assoc]
  apply translateReferences_spell
  -- A reference that begins with the backslash of an escape would be one of the value itself.
  rintro rfl rest same
  rw [← Bool.not_eq_true]
  intro starts
  exact other (startsReference_of_startsName same starts)

theorem translateReferences_spelled {v : List Char} (free : ¬ Refers v) :
    translateReferences false (v.flatMap spell ++ ['$']) = v.flatMap spell ++ ['$'] := by
  induction v with
  | nil => rfl
  | cons c v ih =>
      rw [refers_cons, not_or] at free
      rw [translateReferences_spelled_cons free.1, ih free.2, List.flatMap_cons, List.append_assoc]

theorem translateReferences_of_startsReference {v : List Char} (starts : StartsReference v) :
    ∃ name after : List Char, (∀ c ∈ name, isWord c = true) ∧
      translateReferences false (v.flatMap spell ++ ['$']) =
        '\\' :: '(' :: '?' :: 'P' :: '=' :: (name ++ ')' :: after) := by
  obtain ⟨name, after, rfl, nonempty, word⟩ := starts
  have plain : name.flatMap spell = name := flatMap_spell_plain fun d member => plain_of_isWord (word d member)
  have text : ('\\' :: 'k' :: '<' :: (name ++ '>' :: after)).flatMap spell ++ ['$'] =
      '\\' :: '\\' :: 'k' :: '<' :: (name ++ '>' :: (after.flatMap spell ++ ['$'])) := by
    simp only [List.flatMap_cons, List.flatMap_append, plain, List.append_assoc]
    rfl
  refine ⟨name, translateReferences false (after.flatMap spell ++ ['$']), word, ?_⟩
  rw [text, translateReferences_cons (by simp), translateReferences_reference nonempty word]

/-- The first reference of a text is translated behind the backslash that was to make its own backslash literal. -/
theorem translateReferences_of_refers {v : List Char} (refers : Refers v) :
    ∃ before name after : List Char, (∀ c ∈ name, isWord c = true) ∧
      translateReferences false (v.flatMap spell ++ ['$']) =
        before.flatMap spell ++ '\\' :: '(' :: '?' :: 'P' :: '=' :: (name ++ ')' :: after) := by
  induction v with
  | nil => exact absurd refers (not_refers_of_notMem List.not_mem_nil)
  | cons c v ih =>
      by_cases here : StartsReference (c :: v)
      · obtain ⟨name, after, word, translated⟩ := translateReferences_of_startsReference here
        exact ⟨[], name, after, word, translated⟩
      · obtain ⟨before, name, after, word, translated⟩ := ih ((refers_cons.mp refers).resolve_left here)
        refine ⟨c :: before, name, after, word, ?_⟩
        rw [translateReferences_spelled_cons here, translated, List.flatMap_cons, List.append_assoc]

/-! ## Compilation -/

theorem toList_translate_wildcardPattern (v : List Char) : (Pattern.translate (String.ofList (wildcardPattern v))).toList =
    '^' :: translateReferences false (v.flatMap spell ++ ['$']) := by
  rw [Pattern.translate, String.toList_ofList, String.toList_ofList, wildcardPattern_eq, translateGroups_cons (by simp),
    translateGroups_spelled, translateReferences_cons (by simp)]

theorem compile_wildcardPattern {v : List Char} (free : ¬ Refers v) :
    compile (String.ofList (wildcardPattern v)) anyCase = .ok ⟨wildcardNode v, 0, []⟩ := by
  apply parse_spelled
  rw [toList_translate_wildcardPattern, translateReferences_spelled free]

theorem compile_of_refers {v : List Char} (refers : Refers v) :
    ∃ fault, compile (String.ofList (wildcardPattern v)) anyCase = .error (.malformed fault) := by
  obtain ⟨before, name, after, word, translated⟩ := translateReferences_of_refers refers
  apply parse_reference fun c member => plain_of_isWord (word c member)
  rw [toList_translate_wildcardPattern, translated]

end LogAnalysis.Query
