import LogAnalysis.Proofs.Entry
import LogAnalysis.Proofs.Json.Numbers
import LogAnalysis.Proofs.Json.Strings
import LogAnalysis.Proofs.Text.Search

/-!
# Values in JSON text

A written value reads back as itself in every layout, unless it holds doubles, numbers with too many digits, or two
members of one name (`Json.parse_write`).
-/

namespace LogAnalysis

inductive Value.IsExact : Value → Prop
  | null : IsExact .null
  | bool (b : Bool) : IsExact (.bool b)
  | int {n : Int} (short : (Nat.toDigits 10 n.natAbs).length ≤ Numeral.maxDigits) : IsExact (.int n)
  | text (s : String) : IsExact (.text s)
  | list {items : List Value} (exact : ∀ v ∈ items, IsExact v) : IsExact (.list items)
  | object {members : List (String × Value)} (distinct : (Members.names members).Nodup)
      (exact : ∀ m ∈ members, IsExact m.2) : IsExact (.object members)

namespace Json

/-! ## White space -/

theorem skipSpace_visible {c : Char} (cs : List Char) (visible : isSpace c = false) : skipSpace (c :: cs) = c :: cs :=
  List.dropWhile_cons_of_neg (by simp [visible])

theorem skipSpace_append {blanks : List Char} (spaces : ∀ c ∈ blanks, isSpace c = true) {c : Char} (cs : List Char)
    (visible : isSpace c = false) : skipSpace (blanks ++ c :: cs) = c :: cs := by
  induction blanks with
  | nil => exact skipSpace_visible cs visible
  | cons b blanks ih =>
      obtain ⟨first, others⟩ := List.forall_mem_cons.mp spaces
      rw [skipSpace, List.cons_append, List.dropWhile_cons_of_pos first]
      exact ih others

structure Layout.Separates (layout : Layout) : Prop where
  items : ∃ blanks, layout.itemSeparator.toList = ',' :: blanks ∧ ∀ c ∈ blanks, isSpace c = true
  names : ∃ blanks, layout.nameSeparator.toList = ':' :: blanks ∧ ∀ c ∈ blanks, isSpace c = true

theorem spaced_separates : spaced.Separates where
  items := ⟨[' '], rfl, List.all_eq_true.mp rfl⟩
  names := ⟨[' '], rfl, List.all_eq_true.mp rfl⟩

theorem indented_separates : indented.Separates where
  items := ⟨[], rfl, List.all_eq_true.mp rfl⟩
  names := ⟨[' '], rfl, List.all_eq_true.mp rfl⟩

theorem isSpace_lineBreak (layout : Layout) (level : Nat) :
    ∀ c ∈ (layout.lineBreak level).toList, isSpace c = true := by
  intro c member
  unfold Layout.lineBreak at member
  split at member
  · rw [String.toList_empty] at member
    contradiction
  · rw [String.toList_ofList] at member
    rcases List.mem_cons.mp member with rfl | member
    · rfl
    · rw [List.eq_of_mem_replicate member]
      rfl

theorem Layout.Separates.between {layout : Layout} (separates : layout.Separates) (level : Nat) :
    ∃ blanks, layout.itemSeparator.toList ++ (layout.lineBreak level).toList = ',' :: blanks ∧
      ∀ c ∈ blanks, isSpace c = true := by
  obtain ⟨blanks, comma, spaces⟩ := separates.items
  refine ⟨blanks ++ (layout.lineBreak level).toList, by rw [comma, List.cons_append], ?_⟩
  exact List.forall_mem_append.mpr ⟨spaces, isSpace_lineBreak layout level⟩

/-! ## Values -/

def isStart (c : Char) : Bool := ['"', '[', '\x7b', '-', 'n', 't', 'f'].contains c || c.isDigit

theorem visible_of_isStart {c : Char} (starts : isStart c = true) :
    isSpace c = false ∧ c ≠ ']' ∧ c ≠ '\x7d' ∧ c ≠ '\ufeff' := by
  rw [isStart, Bool.or_eq_true, List.contains_iff_mem] at starts
  rcases starts with member | isDigit
  · have table : ∀ c ∈ ['"', '[', '\x7b', '-', 'n', 't', 'f'],
        isSpace c = false ∧ c ≠ ']' ∧ c ≠ '\x7d' ∧ c ≠ '\ufeff' := by simp [isSpace]
    exact table c member
  · obtain ⟨n, small, rfl⟩ := exists_digitChar isDigit
    have table : ∀ n < 10, isSpace n.digitChar = false ∧ n.digitChar ≠ ']' ∧ n.digitChar ≠ '\x7d' ∧
        n.digitChar ≠ '\ufeff' := by decide
    exact table n small

theorem isStart_of_digit {c : Char} (signOrDigit : c = '-' ∨ c.isDigit = true) : isStart c = true := by
  rcases signOrDigit with rfl | isDigit
  · rfl
  · rw [isStart, isDigit, Bool.or_true]

variable {rest : List Char} {layout : Layout} {level : Nat}

theorem exists_enclosed (layout : Layout) (level : Nat) (opening closing : String) (parts : List String) :
    ∃ inside, (layout.enclose level opening closing parts).toList = opening.toList ++ inside := by
  unfold Layout.enclose
  split
  · exact ⟨_, String.toList_append⟩
  · simp only [String.toList_append, List.append_assoc]
    exact ⟨_, rfl⟩

def characters (layout : Layout) (level : Nat) (v : Value) : List Char := (writeAt layout level v).toList

theorem list_start (layout : Layout) (level : Nat) (items : List Value) :
    ∃ cs, characters layout level (.list items) = '[' :: cs := by
  obtain ⟨inside, whole⟩ := exists_enclosed layout level "[" "]" _
  exact ⟨inside, by rw [characters, writeAt, whole]; rfl⟩

theorem object_start (layout : Layout) (level : Nat) (members : List (String × Value)) :
    ∃ cs, characters layout level (.object members) = '\x7b' :: cs := by
  obtain ⟨inside, whole⟩ := exists_enclosed layout level "\x7b" "\x7d" _
  exact ⟨inside, by rw [characters, writeAt, whole]; rfl⟩

theorem int_start (n : Int) : ∃ c cs, characters layout level (.int n) = c :: cs ∧ isStart c = true := by
  obtain ⟨c, cs, written, signOrDigit⟩ := toString_int_eq_cons n
  exact ⟨c, cs, by rw [characters, writeAt, written], isStart_of_digit signOrDigit⟩

theorem exists_start (layout : Layout) (level : Nat) {v : Value} (exact : v.IsExact) :
    ∃ c cs, characters layout level v = c :: cs ∧ isStart c = true := by
  cases exact with
  | null => exact ⟨'n', "ull".toList, by rw [characters, writeAt]; rfl, rfl⟩
  | bool b =>
      cases b with
      | true => exact ⟨'t', "rue".toList, by rw [characters, writeAt]; rfl, rfl⟩
      | false => exact ⟨'f', "alse".toList, by rw [characters, writeAt]; rfl, rfl⟩
  | int _ => exact int_start _
  | text s => exact ⟨'"', _, by rw [characters, writeAt, toList_writeString], rfl⟩
  | list _ =>
      obtain ⟨cs, whole⟩ := list_start layout level _
      exact ⟨'[', cs, whole, rfl⟩
  | object _ _ =>
      obtain ⟨cs, whole⟩ := object_start layout level _
      exact ⟨'\x7b', cs, whole, rfl⟩

def IsReadable (layout : Layout) (v : Value) : Prop :=
  ∀ level fuel rest, 2 * (characters layout level v).length ≤ fuel → Ends rest →
    readValue fuel (characters layout level v ++ rest) = .ok (v, rest)

theorem readValue_atom {c : Char} {cs : List Char} (noText : c ≠ '"') (noObject : c ≠ '\x7b') (noList : c ≠ '[')
    (fuel : Nat) : readValue (fuel + 1) (c :: cs) = readAtom (c :: cs) := by
  rw [readValue]
  · exact fun isNil => nomatch isNil
  · exact fun rest isText => noText (List.cons.inj isText).1
  · exact fun rest isObject => noObject (List.cons.inj isObject).1
  · exact fun rest isList => noList (List.cons.inj isList).1

theorem isReadable_of_succ {v : Value} (exact : v.IsExact)
    (reads : ∀ level fuel rest, 2 * (characters layout level v).length ≤ fuel + 1 → Ends rest →
      readValue (fuel + 1) (characters layout level v ++ rest) = .ok (v, rest)) : IsReadable layout v := by
  intro level fuel rest enough ends
  obtain ⟨c, cs, whole, -⟩ := exists_start layout level exact
  have nonempty : 0 < (characters layout level v).length := by
    rw [whole, List.length_cons]
    exact Nat.succ_pos _
  obtain ⟨fuel, rfl⟩ := Nat.exists_eq_succ_of_ne_zero (n := fuel) (by omega)
  exact reads level fuel rest enough ends

theorem isReadable_atom {v : Value} (exact : v.IsExact)
    (noText : ∀ level c, (characters layout level v).head? = some c → c ≠ '"' ∧ c ≠ '\x7b' ∧ c ≠ '[')
    (reads : ∀ level rest, readAtom (characters layout level v ++ rest) = .ok (v, rest)) : IsReadable layout v := by
  refine isReadable_of_succ exact fun level fuel rest _ _ => ?_
  obtain ⟨c, cs, whole, -⟩ := exists_start layout level exact
  obtain ⟨noText, noObject, noList⟩ := noText level c (by rw [whole]; rfl)
  have atom := reads level rest
  rw [whole, List.cons_append] at atom ⊢
  rw [readValue_atom noText noObject noList, atom]

/-! ## Lists -/

theorem map_writeItems (items : List Value) :
    (writeItems layout level items).map String.toList = items.map (characters layout level) := by
  induction items with
  | nil => rfl
  | cons v rest ih => rw [writeItems, List.map_cons, List.map_cons, ih, characters]

theorem joinWith_cons_cons (separator first second : List Char) (rest : List (List Char)) :
    Text.joinWith separator (first :: second :: rest) =
      first ++ separator ++ Text.joinWith separator (second :: rest) := rfl

theorem joinWith_cons_start (separator : List Char) {piece : List Char} {c : Char} {cs : List Char}
    (starts : piece = c :: cs) (pieces : List (List Char)) :
    ∃ more, Text.joinWith separator (piece :: pieces) = c :: more := by
  cases pieces with
  | nil => exact ⟨cs, starts⟩
  | cons other pieces =>
      refine ⟨cs ++ separator ++ Text.joinWith separator (other :: pieces), ?_⟩
      rw [joinWith_cons_cons, starts, List.cons_append, List.cons_append]

theorem readItems_written {blanks gap : List Char} (spaces : ∀ c ∈ blanks, isSpace c = true)
    (closing : ∀ c ∈ gap, isSpace c = true) {items : List Value} (nonempty : items ≠ [])
    (exact : ∀ v ∈ items, v.IsExact) (readable : ∀ v ∈ items, IsReadable layout v) (level fuel : Nat)
    (rest : List Char)
    (enough : 2 * (Text.joinWith (',' :: blanks) (items.map (characters layout level))).length < fuel) :
    readItems fuel (Text.joinWith (',' :: blanks) (items.map (characters layout level)) ++ (gap ++ ']' :: rest)) =
      .ok (items, rest) := by
  -- By induction on the items. The next one starts with a visible character, so only blanks are skipped before it.
  induction items generalizing fuel with
  | nil => contradiction
  | cons v items ih =>
      obtain ⟨first, others⟩ := List.forall_mem_cons.mp readable
      obtain ⟨fuel, rfl⟩ := Nat.exists_eq_succ_of_ne_zero (n := fuel) (by omega)
      cases items with
      | nil =>
          have ends : Ends (gap ++ ']' :: rest) := ends_append closing (ends_cons rfl rest)
          simp only [List.map_cons, List.map_nil, Text.joinWith] at enough ⊢
          rw [readItems, first level fuel _ (by omega) ends]
          simp only [bind, Except.bind, skipSpace_append closing rest (c := ']') rfl]
      | cons w items =>
          obtain ⟨c, cs, starts, isStart⟩ := exists_start layout level (exact w (by simp))
          obtain ⟨more, joined⟩ := joinWith_cons_start (',' :: blanks) starts (items.map (characters layout level))
          have next := ih (by simp) (fun v member => exact v (List.mem_cons_of_mem _ member)) others fuel
          simp only [List.map_cons] at joined enough next ⊢
          rw [joinWith_cons_cons, joined] at enough ⊢
          rw [joined] at next
          simp only [List.length_append, List.length_cons] at enough next
          have ends : Ends (',' :: (blanks ++ c :: (more ++ (gap ++ ']' :: rest)))) := ends_cons rfl _
          have isRead := first level fuel _ (by omega) ends
          simp only [List.append_assoc, List.cons_append] at next ⊢
          rw [readItems, isRead]
          simp only [bind, Except.bind]
          rw [show skipSpace (',' :: _) = ',' :: _ from rfl]
          simp only
          rw [skipSpace_append spaces _ (visible_of_isStart isStart).1, next (by omega)]

/-! ## Objects -/

def memberCharacters (layout : Layout) (level : Nat) (m : String × Value) : List Char :=
  '"' :: (m.1.toList.flatMap escape ++ '"' :: (layout.nameSeparator.toList ++ characters layout level m.2))

theorem map_writeMembers (members : List (String × Value)) :
    (writeMembers layout level members).map String.toList = members.map (memberCharacters layout level) := by
  induction members with
  | nil => rfl
  | cons m rest ih =>
      rw [writeMembers, List.map_cons, List.map_cons, ih]
      simp only [String.toList_append, toList_writeString, memberCharacters, characters, List.append_assoc,
        List.cons_append, List.nil_append]

def readMore (fuel : Nat) (m : String × Value) (rest : List Char) :
    Except Failure (List (String × Value) × List Char) :=
  match skipSpace rest with
  | '\x7d' :: rest => .ok ([m], rest)
  | ',' :: rest => do
    let (members, rest) ← readMembers fuel (skipSpace rest)
    .ok (m :: members, rest)
  | rest => .error ⟨.comma, rest⟩

theorem readMembers_cons {m : String × Value} (separates : layout.Separates) {c : Char} {cs : List Char}
    (starts : characters layout level m.2 = c :: cs) (visible : isSpace c = false) (fuel : Nat) :
    readMembers (fuel + 1) (memberCharacters layout level m ++ rest) =
      (readValue fuel (characters layout level m.2 ++ rest)).bind fun p => readMore fuel (m.1, p.1) p.2 := by
  obtain ⟨blanks, colon, spaces⟩ := separates.names
  have afterColon := skipSpace_append spaces (cs ++ rest) visible
  unfold memberCharacters
  rw [colon, starts]
  simp only [List.append_assoc, List.cons_append]
  rw [readMembers, readString_written]
  simp only [bind, Except.bind, String.ofList_toList]
  rw [show skipSpace (':' :: _) = ':' :: _ from rfl]
  exact congrArg (fun cs => (readValue fuel cs).bind fun p => readMore fuel (m.1, p.1) p.2) afterColon

theorem readMember_written {m : String × Value} (separates : layout.Separates) (exact : m.2.IsExact)
    (readable : IsReadable layout m.2) (level fuel : Nat) (enough : 2 * (memberCharacters layout level m).length ≤ fuel)
    (ends : Ends rest) :
    readMembers (fuel + 1) (memberCharacters layout level m ++ rest) = readMore fuel m rest := by
  obtain ⟨c, cs, starts, isStart⟩ := exists_start layout level exact
  have shorter : 2 * (characters layout level m.2).length ≤ fuel := by
    simp only [memberCharacters, List.length_cons, List.length_append] at enough
    omega
  rw [readMembers_cons separates starts (visible_of_isStart isStart).1, readable level fuel rest shorter ends]
  rfl

theorem readMembers_written (separates : layout.Separates) {blanks gap : List Char}
    (spaces : ∀ c ∈ blanks, isSpace c = true) (closing : ∀ c ∈ gap, isSpace c = true)
    {members : List (String × Value)} (nonempty : members ≠ []) (exact : ∀ m ∈ members, m.2.IsExact)
    (readable : ∀ m ∈ members, IsReadable layout m.2) (level fuel : Nat) (rest : List Char)
    (enough : 2 * (Text.joinWith (',' :: blanks) (members.map (memberCharacters layout level))).length < fuel) :
    readMembers fuel
        (Text.joinWith (',' :: blanks) (members.map (memberCharacters layout level)) ++ (gap ++ '\x7d' :: rest)) =
      .ok (members, rest) := by
  induction members generalizing fuel with
  | nil => contradiction
  | cons m members ih =>
      obtain ⟨first, others⟩ := List.forall_mem_cons.mp readable
      obtain ⟨fuel, rfl⟩ := Nat.exists_eq_succ_of_ne_zero (n := fuel) (by omega)
      cases members with
      | nil =>
          have ends : Ends (gap ++ '\x7d' :: rest) := ends_append closing (ends_cons rfl rest)
          simp only [List.map_cons, List.map_nil, Text.joinWith] at enough ⊢
          rw [readMember_written separates (exact m List.mem_cons_self) first level fuel (by omega) ends, readMore,
            skipSpace_append closing rest (c := '\x7d') rfl]
          rfl
      | cons n members =>
          obtain ⟨more, joined⟩ := joinWith_cons_start (',' :: blanks)
            (show memberCharacters layout level n = '"' :: _ from rfl) (members.map (memberCharacters layout level))
          have next := ih (by simp) (fun m member => exact m (List.mem_cons_of_mem _ member)) others fuel
          simp only [List.map_cons] at joined enough next ⊢
          rw [joinWith_cons_cons, joined] at enough ⊢
          rw [joined] at next
          simp only [List.length_append, List.length_cons] at enough next
          have ends : Ends (',' :: (blanks ++ '"' :: (more ++ (gap ++ '\x7d' :: rest)))) := ends_cons rfl _
          have isRead := readMember_written separates (exact m List.mem_cons_self) first level fuel
            (by omega) ends
          simp only [List.append_assoc, List.cons_append] at next isRead ⊢
          rw [isRead, readMore, show skipSpace (',' :: _) = ',' :: _ from rfl]
          simp only [bind, Except.bind]
          rw [skipSpace_append spaces _ rfl, next (by omega)]

/-! ## The whole -/

theorem toList_enclose_nil (opening closing : String) :
    (layout.enclose level opening closing []).toList = opening.toList ++ closing.toList := String.toList_append

theorem toList_enclose (opening closing : String) {parts : List String} (nonempty : parts ≠ []) :
    (layout.enclose level opening closing parts).toList =
      opening.toList ++ ((layout.lineBreak (level + 1)).toList ++
        (Text.joinWith (layout.itemSeparator.toList ++ (layout.lineBreak (level + 1)).toList) (parts.map String.toList) ++
          ((layout.lineBreak level).toList ++ closing.toList))) := by
  have joined := Text.toList_joined (layout.itemSeparator ++ layout.lineBreak (level + 1)) parts
  rw [Text.joined, String.toList_append] at joined
  unfold Layout.enclose
  split
  · contradiction
  · simp only [String.toList_append, joined, List.append_assoc]

theorem characters_list (layout : Layout) (level : Nat) {items : List Value} (nonempty : items ≠ []) :
    characters layout level (.list items) =
      '[' :: ((layout.lineBreak (level + 1)).toList ++
        (Text.joinWith (layout.itemSeparator.toList ++ (layout.lineBreak (level + 1)).toList)
          (items.map (characters layout (level + 1))) ++ ((layout.lineBreak level).toList ++ [']']))) := by
  have written : writeItems layout (level + 1) items ≠ [] := by
    cases items with
    | nil => contradiction
    | cons v rest => exact List.cons_ne_nil _ _
  rw [characters, writeAt, toList_enclose _ _ written, map_writeItems]
  rfl

theorem characters_object (layout : Layout) (level : Nat) {members : List (String × Value)} (nonempty : members ≠ []) :
    characters layout level (.object members) =
      '\x7b' :: ((layout.lineBreak (level + 1)).toList ++
        (Text.joinWith (layout.itemSeparator.toList ++ (layout.lineBreak (level + 1)).toList)
          (members.map (memberCharacters layout (level + 1))) ++ ((layout.lineBreak level).toList ++ ['\x7d']))) := by
  have written : writeMembers layout (level + 1) members ≠ [] := by
    cases members with
    | nil => contradiction
    | cons m rest => exact List.cons_ne_nil _ _
  rw [characters, writeAt, toList_enclose _ _ written, map_writeMembers]
  rfl

theorem isReadable_text (s : String) : IsReadable layout (.text s) := by
  refine isReadable_of_succ (.text s) fun level fuel rest _ _ => ?_
  have whole : characters layout level (.text s) ++ rest = '"' :: (s.toList.flatMap escape ++ '"' :: rest) := by
    rw [characters, writeAt, toList_writeString, List.cons_append, List.append_assoc]
    rfl
  rw [whole, readValue, readString_written]
  simp only [bind, Except.bind, String.ofList_toList]

theorem readValue_int (n : Int) (rest : List Char) (fuel : Nat) :
    readValue (fuel + 1) (characters layout level (.int n) ++ rest) = readNumber ((toString n).toList ++ rest) := by
  obtain ⟨c, cs, written, signOrDigit⟩ := toString_int_eq_cons n
  have atom := readAtom_toString n rest
  rw [characters, writeAt]
  rw [written, List.cons_append] at atom ⊢
  rw [← atom]
  rcases signOrDigit with rfl | isDigit
  · exact readValue_atom (by decide) (by decide) (by decide) fuel
  · refine readValue_atom ?_ ?_ ?_ fuel <;> (rintro rfl; contradiction)

theorem isReadable_int {n : Int} (short : (Nat.toDigits 10 n.natAbs).length ≤ Numeral.maxDigits) :
    IsReadable layout (.int n) := by
  refine isReadable_of_succ (.int short) fun level fuel rest _ ends => ?_
  rw [readValue_int, readNumber_written n ends, if_neg (Nat.not_lt.mpr short)]

theorem readValue_list {blanks : List Char} (spaces : ∀ c ∈ blanks, isSpace c = true) {c : Char} (cs : List Char)
    (visible : isSpace c = false) (more : c ≠ ']') (fuel : Nat) :
    readValue (fuel + 1) ('[' :: (blanks ++ c :: cs)) =
      (readItems fuel (c :: cs)).map fun p => (.list p.1, p.2) := by
  rw [readValue, skipSpace_append spaces cs visible]
  split
  · next closed => exact absurd (List.cons.inj closed).1 more
  · rfl

theorem readValue_object {blanks : List Char} (spaces : ∀ c ∈ blanks, isSpace c = true) {c : Char} (cs : List Char)
    (visible : isSpace c = false) (more : c ≠ '\x7d') (fuel : Nat) :
    readValue (fuel + 1) ('\x7b' :: (blanks ++ c :: cs)) =
      (readMembers fuel (c :: cs)).map fun p => (.object (Members.ofPairs p.1), p.2) := by
  rw [readValue, skipSpace_append spaces cs visible]
  split
  · next closed => exact absurd (List.cons.inj closed).1 more
  · rfl

theorem isReadable_list (separates : layout.Separates) {items : List Value} (exact : ∀ v ∈ items, v.IsExact)
    (readable : ∀ v ∈ items, IsReadable layout v) : IsReadable layout (.list items) := by
  refine isReadable_of_succ (.list exact) fun level fuel rest enough _ => ?_
  cases items with
  | nil =>
      have empty : characters layout level (.list []) = ['[', ']'] := by
        rw [characters, writeAt, writeItems, toList_enclose_nil]
        rfl
      rw [empty]
      rfl
  | cons v items =>
      obtain ⟨blanks, between, spaces⟩ := separates.between (level + 1)
      obtain ⟨c, cs, starts, isStart⟩ :=
        exists_start layout (level + 1) (exact v List.mem_cons_self)
      obtain ⟨visible, notClosed, -, -⟩ := visible_of_isStart isStart
      obtain ⟨more, joined⟩ := joinWith_cons_start (',' :: blanks) starts
        (items.map (characters layout (level + 1)))
      have whole := characters_list layout level (List.cons_ne_nil v items)
      have isRead := readItems_written spaces (isSpace_lineBreak layout level) (List.cons_ne_nil v items) exact readable
        (level + 1) fuel rest
      rw [between, List.map_cons, joined] at whole
      rw [List.map_cons, joined] at isRead
      rw [whole] at enough ⊢
      simp only [List.length_append, List.length_cons, List.append_assoc, List.cons_append, List.nil_append]
        at isRead enough ⊢
      rw [readValue_list (isSpace_lineBreak layout (level + 1)) _ visible notClosed, isRead (by omega)]
      rfl

theorem isReadable_object (separates : layout.Separates) {members : List (String × Value)}
    (distinct : (Members.names members).Nodup) (exact : ∀ m ∈ members, m.2.IsExact)
    (readable : ∀ m ∈ members, IsReadable layout m.2) : IsReadable layout (.object members) := by
  refine isReadable_of_succ (.object distinct exact) fun level fuel rest enough _ => ?_
  cases members with
  | nil =>
      have empty : characters layout level (.object []) = ['\x7b', '\x7d'] := by
        rw [characters, writeAt, writeMembers, toList_enclose_nil]
        rfl
      rw [empty]
      rfl
  | cons m members =>
      obtain ⟨blanks, between, spaces⟩ := separates.between (level + 1)
      obtain ⟨more, joined⟩ := joinWith_cons_start (',' :: blanks)
        (show memberCharacters layout (level + 1) m = '"' :: _ from rfl) (members.map (memberCharacters layout (level + 1)))
      have whole := characters_object layout level (List.cons_ne_nil m members)
      have isRead := readMembers_written separates spaces (isSpace_lineBreak layout level)
        (List.cons_ne_nil m members) exact readable (level + 1) fuel rest
      rw [between, List.map_cons, joined] at whole
      rw [List.map_cons, joined] at isRead
      rw [whole] at enough ⊢
      simp only [List.length_append, List.length_cons, List.append_assoc, List.cons_append, List.nil_append]
        at isRead enough ⊢
      rw [readValue_object (isSpace_lineBreak layout (level + 1)) _ rfl (by decide), isRead (by omega)]
      exact congrArg (fun ms => Except.ok (Value.object ms, rest)) (Members.ofPairs_of_distinct distinct)

theorem isReadable_of_isExact (separates : layout.Separates) {v : Value} (exact : v.IsExact) :
    IsReadable layout v := by
  induction exact with
  | null =>
      refine isReadable_atom .null (fun level c first => ?_) fun level rest => ?_
      · rw [characters, writeAt] at first
        obtain rfl := Option.some.inj first
        decide
      · rw [characters, writeAt]
        rfl
  | bool b =>
      refine isReadable_atom (.bool b) (fun level c first => ?_) fun level rest => ?_
      · rw [characters, writeAt] at first
        cases b <;> obtain rfl := Option.some.inj first <;> decide
      · rw [characters, writeAt]
        cases b <;> rfl
  | int short => exact isReadable_int short
  | text s => exact isReadable_text s
  | list exact ih => exact isReadable_list separates exact ih
  | object distinct exact ih => exact isReadable_object separates distinct exact ih

theorem parse_of_start {v : Value} {c : Char} {cs : List Char} (starts : characters layout 0 v = c :: cs)
    (isStart : isStart c = true) :
    parse (write layout v) =
      ((readValue (enough (characters layout 0 v)) (characters layout 0 v)).bind fun p =>
        match skipSpace p.2 with
        | [] => .ok p.1
        | rest => .error ⟨.extraData, rest⟩).mapError (Failure.locate (characters layout 0 v)) := by
  obtain ⟨visible, -, -, noMark⟩ := visible_of_isStart isStart
  have whole : (write layout v).toList = c :: cs := starts
  have noSpace : skipSpace (c :: cs) = c :: cs := skipSpace_visible cs visible
  unfold parse
  dsimp only
  rw [whole, starts, noSpace, if_neg (by simpa using noMark)]
  rfl

theorem parse_write (separates : layout.Separates) {v : Value} (exact : v.IsExact) :
    parse (write layout v) = .ok v := by
  obtain ⟨c, cs, starts, isStart⟩ := exists_start layout 0 exact
  have isRead := isReadable_of_isExact separates exact 0 (enough (characters layout 0 v)) []
    (Nat.le_add_right _ 2) ends_nil
  rw [List.append_nil] at isRead
  rw [parse_of_start starts isStart, isRead]
  rfl

end Json

end LogAnalysis
