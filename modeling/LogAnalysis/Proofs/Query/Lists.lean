import LogAnalysis.Proofs.Query.Covering
import LogAnalysis.Proofs.Query.Forms
import LogAnalysis.Proofs.Text.Search
import LogAnalysis.Proofs.Text.Trimming

/-!
# Quotation marks in lists

The items of a list can be put into quotation marks. They come back as they are, unless a comma or a closing bracket is among
their characters (`tokens_quotedList_iff`): a list is cut at its commas, and it ends at the first bracket, before anything is
known of quotation marks.
-/

namespace LogAnalysis.Query

open Text

def quoted (item : List Char) : List Char := '"' :: (item ++ ['"'])

def quotedItems (items : List (List Char)) : List Char := joinWith ", ".toList (items.map quoted)

/-- The question whether a field is one of some items in quotation marks. -/
def quotedList (field : String) (items : List String) : String :=
  field ++ ":IN(" ++ joined ", " (items.map fun item => "\"" ++ item ++ "\"") ++ ")"

/-! ## Items -/

def piecesOf (body : List Char) : List (List Char) := (splitOn ',' body).map itemOf

theorem itemsOf_eq (body : List Char) : itemsOf body = (piecesOf body).filter (!·.isEmpty) := rfl

theorem itemOf_blank (cs : List Char) : itemOf (' ' :: cs) = itemOf cs := by
  have trimmed : trim (' ' :: cs) = trim cs := by
    rw [trim, trim, List.dropWhile_cons_of_pos (by decide)]
  rw [itemOf, itemOf, trimmed]

theorem piecesOf_blank (cs : List Char) : piecesOf (' ' :: cs) = piecesOf cs := by
  rw [piecesOf, piecesOf, splitOn, if_neg (by decide)]
  split
  · next none => exact absurd none (splitOn_ne_nil ',' cs)
  · next piece pieces parts => rw [parts, List.map_cons, List.map_cons, itemOf_blank]

theorem piecesOf_append {piece : List Char} (noComma : ',' ∉ piece) (rest : List Char) :
    piecesOf (piece ++ ',' :: rest) = itemOf piece :: piecesOf rest := by
  rw [piecesOf, splitOn_append noComma, List.map_cons]
  rfl

theorem itemOf_quoted (item : List Char) : itemOf (quoted item) = item := by
  have visible : isBlank '"' = false := by decide
  have trimmed : IsTrimmed (quoted item) := ⟨by simpa [quoted] using visible, by simpa [quoted, List.getLast?_cons] using visible⟩
  have marks : isBetween '"' '"' (quoted item) = true := by simp [isBetween, quoted, List.getLast?_cons]
  rw [itemOf, trimmed.trim_eq, marks]
  simp [inner, quoted]

theorem mem_itemOf_unclosed {cs : List Char} (noQuote : '"' ∉ cs) : '"' ∈ itemOf ('"' :: cs) := by
  have trimmed : trim ('"' :: cs) = '"' :: trimRight cs := by
    have visible : isBlank '"' = false := by decide
    rw [trim, List.dropWhile_cons_of_neg (by decide)]
    simp [trimRight, visible]
  have unclosed : '"' ∉ trimRight cs := by
    rw [trimRight_eq_rdropWhile]
    exact fun member => noQuote ((List.rdropWhile_prefix isBlank cs).subset member)
  have noMarks : isBetween '"' '"' ('"' :: trimRight cs) = false := by
    cases ends : (trimRight cs).getLast? with
    | none => simp [isBetween, List.getLast?_eq_none_iff.mp ends]
    | some c =>
        have other : c ≠ '"' := fun isQuote => unclosed (isQuote ▸ List.mem_of_getLast? ends)
        simp [isBetween, List.getLast?_cons, ends, other]
  have noApostrophes : isBetween '\'' '\'' ('"' :: trimRight cs) = false := by simp [isBetween]
  rw [itemOf, trimmed, noMarks, noApostrophes]
  exact List.mem_cons_self

theorem quotedItems_cons (item next : List Char) (items : List (List Char)) :
    quotedItems (item :: next :: items) = quoted item ++ ',' :: ' ' :: quotedItems (next :: items) := by
  simp [quotedItems, joinWith]

theorem piecesOf_quotedItems {items : List (List Char)} (nonempty : items ≠ []) (noComma : ∀ item ∈ items, ',' ∉ item) :
    piecesOf (quotedItems items) = items := by
  have noCommaQuoted {item : List Char} (free : ',' ∉ item) : ',' ∉ quoted item := by simp [quoted, free]
  induction items with
  | nil => contradiction
  | cons item items ih =>
      obtain ⟨free, others⟩ := List.forall_mem_cons.mp noComma
      cases items with
      | nil =>
          show (splitOn ',' (quoted item)).map itemOf = [item]
          rw [splitOn_of_notMem (noCommaQuoted free), List.map_singleton, itemOf_quoted]
      | cons next items =>
          rw [quotedItems_cons, piecesOf_append (noCommaQuoted free), piecesOf_blank, itemOf_quoted,
            ih (List.cons_ne_nil next items) others]

theorem exists_quotedItems (item : List Char) (items : List (List Char)) :
    ∃ rest, quotedItems (item :: items) = '"' :: (item ++ '"' :: rest) := by
  cases items with
  | nil => exact ⟨[], by simp [quotedItems, joinWith, quoted]⟩
  | cons next items => exact ⟨',' :: ' ' :: quotedItems (next :: items), by rw [quotedItems_cons, quoted]; simp⟩

theorem exists_unclosed {items : List (List Char)} (noQuote : ∀ item ∈ items, '"' ∉ item)
    (comma : ∃ item ∈ items, ',' ∈ item) : ∃ piece ∈ piecesOf (quotedItems items), '"' ∈ piece := by
  induction items with
  | nil => simp at comma
  | cons item items ih =>
      obtain ⟨free, others⟩ := List.forall_mem_cons.mp noQuote
      by_cases here : ',' ∈ item
      · obtain ⟨before, after, rfl, noComma⟩ := List.eq_append_cons_of_mem here
        obtain ⟨rest, whole⟩ := exists_quotedItems (before ++ ',' :: after) items
        have parts : quotedItems ((before ++ ',' :: after) :: items) = ('"' :: before) ++ ',' :: (after ++ '"' :: rest) := by
          rw [whole, List.append_assoc]
          rfl
        rw [parts, piecesOf_append (by simpa using noComma)]
        exact ⟨_, List.mem_cons_self, mem_itemOf_unclosed fun mark => free (List.mem_append_left _ mark)⟩
      · cases items with
        | nil => simp [here] at comma
        | cons next items =>
            have later : ∃ item ∈ next :: items, ',' ∈ item := by simpa [here] using comma
            obtain ⟨piece, member, mark⟩ := ih others later
            rw [quotedItems_cons, piecesOf_append (by simp [quoted, here]), piecesOf_blank]
            exact ⟨piece, List.mem_cons_of_mem _ member, mark⟩

theorem itemsOf_quotedItems_iff {items : List (List Char)} (nonempty : items ≠ []) (someText : ∀ item ∈ items, item ≠ [])
    (noQuote : ∀ item ∈ items, '"' ∉ item) : itemsOf (quotedItems items) = items ↔ ∀ item ∈ items, ',' ∉ item := by
  constructor
  · intro same item member comma
    obtain ⟨piece, isPiece, mark⟩ := exists_unclosed noQuote ⟨item, member, comma⟩
    have kept : piece ∈ itemsOf (quotedItems items) := by
      refine List.mem_filter.mpr ⟨isPiece, ?_⟩
      cases piece with
      | nil => simp at mark
      | cons c piece => rfl
    rw [same] at kept
    exact noQuote piece kept mark
  · intro noComma
    rw [itemsOf_eq, piecesOf_quotedItems nonempty noComma]
    exact List.filter_eq_self.mpr fun item member => by simpa using someText item member

theorem mem_quotedItems {items : List (List Char)} {c : Char} (noMark : c ∉ ['"', ',', ' ']) :
    c ∈ quotedItems items ↔ ∃ item ∈ items, c ∈ item := by
  induction items with
  | nil => simp [quotedItems, joinWith]
  | cons item items ih =>
      simp only [List.mem_cons, List.not_mem_nil, or_false, not_or] at noMark
      cases items with
      | nil => simp [quotedItems, joinWith, quoted, noMark]
      | cons next items =>
          rw [quotedItems_cons, List.mem_append, List.mem_cons, List.mem_cons, ih]
          simp [quoted, noMark]

/-! ## The question -/

theorem readToken_list {field : List Char} (nonempty : field ≠ []) (word : ∀ c ∈ field, isWord c = true) (body : List Char)
    (place : Nat) :
    readToken place (field ++ ([':'] ++ (['I', 'N', '('] ++ body))) =
      readList (place + (field.length + 1)) (['I', 'N', '('] ++ body) >>= fun result =>
        .ok (.term (listCondition field result.1), field.length + 1 + result.2) := by
  have name : (['I', 'N', '('] ++ body).takeWhile isWord = ['I', 'N'] := by
    have stops : Stops isWord ('(' :: body) := stops_cons (by decide) body
    exact (takeWhile_append_of_stops ['I', 'N'] stops).trans (by decide)
  have noQuestion : existence? (field ++ ([':'] ++ (['I', 'N', '('] ++ body))) = none := by
    have goesOn : endsTerm ((['I', 'N', '('] ++ body).drop ['I', 'N'].length) = false := by
      simp only [List.length_cons, List.length_nil, List.cons_append, List.drop_succ_cons, List.drop_zero, endsTerm]
      decide
    exact existence?_of_field word (s := ':') (by decide) (['I', 'N', '('] ++ body) fun _ => .inr (by rw [name, goesOn])
  have signed : sign? ([':'] ++ (['I', 'N', '('] ++ body)) = some (none, [':'].length) := rfl
  have announced : announcesList (['I', 'N', '('] ++ body) = true := rfl
  rw [readToken_of_field nonempty word noQuestion signed, readField_after]
  dsimp only
  rw [announced]
  cases readList (place + (field.length + [':'].length)) (['I', 'N', '('] ++ body) <;> rfl

theorem readList_iff {items : List (List Char)} (nonempty : items ≠ []) (body : List Char) (place : Nat) :
    readList place (['I', 'N', '('] ++ (body ++ [')'])) = .ok (items, body.length + 4) ↔ ')' ∉ body ∧ itemsOf body = items := by
  constructor
  · intro read
    obtain ⟨start, inside, rest, whole, length_start, noBracket, rfl, -, length⟩ := exists_of_readList read
    obtain ⟨-, parts⟩ := List.append_inj whole length_start.symm
    obtain ⟨rfl, -⟩ := List.append_inj parts (by omega)
    exact ⟨noBracket, rfl⟩
  · rintro ⟨noBracket, rfl⟩
    exact readList_eq place rfl noBracket nonempty []

theorem listCondition_inj {field : List Char} {items others : List (List Char)}
    (same : listCondition field items = listCondition field others) : items = others := by
  have texts := Value.list.inj (congrArg Condition.value same)
  exact List.map_injective_iff.mpr (fun _ _ same => String.ofList_injective (Value.text.inj same)) texts

theorem toList_quotedList (field : String) (items : List String) : (quotedList field items).toList =
    field.toList ++ ([':'] ++ (['I', 'N', '('] ++ (quotedItems (items.map String.toList) ++ [')']))) := by
  have marks : (items.map fun item => "\"" ++ item ++ "\"").map String.toList = (items.map String.toList).map quoted := by
    simp [quoted, Function.comp_def]
  rw [quotedList, String.toList_append, String.toList_append, String.toList_append, toList_joined, marks, quotedItems]
  simp

/-- The question for one of some items in quotation marks is read as one token, and asks for these items, if they hold neither a
comma nor a closing bracket. -/
theorem tokens_quotedList_iff {field : String} {items : List String} (named : field ≠ "")
    (word : ∀ c ∈ field.toList, isWord c = true) (nonempty : items ≠ []) (someText : ∀ item ∈ items, item ≠ "")
    (noQuote : ∀ item ∈ items, '"' ∉ item.toList) :
    tokens (quotedList field items) =
        .ok [⟨.term ⟨.text field, .text Operator.oneOf.name, .list (items.map Value.text)⟩, quotedList field items, 0⟩] ↔
      ∀ item ∈ items, ',' ∉ item.toList ∧ ')' ∉ item.toList := by
  have someName : field.toList ≠ [] := fun none => named (String.toList_eq_nil_iff.mp none)
  have whole := toList_quotedList field items
  have starts : BeginsToken (quotedList field items).toList := by
    obtain ⟨c, rest, split, goesOn, -⟩ := beginsWord_of_field someName word
      ([':'] ++ (['I', 'N', '('] ++ (quotedItems (items.map String.toList) ++ [')'])))
    exact ⟨c, rest, whole.trans split, (endsWord_eq_false.mp goesOn).1⟩
  have length_whole : (quotedList field items).length =
      field.toList.length + 1 + ((quotedItems (items.map String.toList)).length + 4) := by
    rw [← String.length_toList, whole]
    simp
    omega
  have condition : listCondition field.toList (items.map String.toList) =
      ⟨.text field, .text Operator.oneOf.name, .list (items.map Value.text)⟩ := by
    simp [listCondition, Function.comp_def]
  have read : readToken 0 (quotedList field items).toList = .ok (.term (listCondition field.toList (items.map String.toList)),
      (quotedList field items).length) ↔ ')' ∉ quotedItems (items.map String.toList) ∧
        itemsOf (quotedItems (items.map String.toList)) = items.map String.toList := by
    rw [← readList_iff (by simpa using nonempty) _ (0 + (field.toList.length + 1)), whole, readToken_list someName word, length_whole]
    constructor
    · intro read
      obtain ⟨⟨others, n⟩, readItems, read⟩ := Outcome.bind_eq_ok.mp read
      obtain ⟨kinds, lengths⟩ := Prod.mk.inj (Except.ok.inj read)
      obtain rfl : others = items.map String.toList := listCondition_inj (TokenKind.term.inj kinds)
      obtain rfl : n = (quotedItems (items.map String.toList)).length + 4 := Nat.add_left_cancel lengths
      exact readItems
    · intro readItems
      rw [readItems]
      rfl
  rw [tokens_eq_single_iff starts, ← condition, read, mem_quotedItems (by decide),
    itemsOf_quotedItems_iff (by simpa using nonempty) (by simpa using someText) (by simpa using noQuote)]
  simp only [List.mem_map, exists_exists_and_eq_and, not_exists, not_and, forall_exists_index, and_imp, forall_apply_eq_imp_iff₂]
  exact ⟨fun both item member => ⟨both.2 item member, both.1 item member⟩,
    fun each => ⟨fun item member => (each item member).2, fun item member => (each item member).1⟩⟩

/-- Blanks, an apostrophe and an opening bracket are no harm. -/
theorem tokens_quotedList_marks :
    tokens (quotedList "has" [" it's (so ", "b"]) = .ok [⟨.term ⟨.text "has", .text Operator.oneOf.name,
      .list [.text " it's (so ", .text "b"]⟩, "has:IN(\" it's (so \", \"b\")", 0⟩] := by
  refine (tokens_quotedList_iff (by decide) ?_ (by simp) ?_ ?_).mpr ?_
  · exact List.all_eq_true.mp (by decide)
  · simp
  · simp
  · simp

theorem not_tokens_quotedList_comma : tokens (quotedList "f" ["a,b"]) ≠
    .ok [⟨.term ⟨.text "f", .text Operator.oneOf.name, .list [.text "a,b"]⟩, "f:IN(\"a,b\")", 0⟩] := by
  have cut : tokens (quotedList "f" ["a,b"]) = .ok [⟨.term (listCondition "f".toList ["\"a".toList, "b\"".toList]),
      "f:IN(\"a,b\")", 0⟩] := by with_unfolding_all rfl
  rw [cut]
  simp [listCondition]

end LogAnalysis.Query
