import LogAnalysis.Proofs.Query.Composition
import LogAnalysis.Proofs.Query.Conditions
import LogAnalysis.Worker

/-!
# Queries compiled by the worker

The tree that a client gets for a query is read back as it was sent (`Query.Tree.ofValue_toValue`), so that a filter request
may hold the tree in place of the text; and a text that cannot be compiled is refused there with the same report
(`Worker.compiled_query_serves`).
-/

namespace LogAnalysis

namespace Query

theorem uppered_text (k : Keyword) : Text.uppered k.text = k.text := by
  cases k <;> decide

namespace Tree

theorem ofValue_not (operand : Tree) :
    ofValue (not operand).toValue = do return not (← ofValue operand.toValue) := rfl

theorem ofValue_logic (word : String) (left right : Tree) :
    ofValue (logic word left right).toValue =
      do return logic (Text.uppered word) (← ofValue left.toValue) (← ofValue right.toValue) := rfl

theorem ofValue_toValue {t : Tree} (query : IsQuery t) : ofValue t.toValue = .ok t := by
  induction query with
  | rule term => rfl
  | not operand ih =>
      rw [ofValue_not, ih]
      rfl
  | both left right ihLeft ihRight =>
      have word : Text.uppered "AND" = "AND" := uppered_text .and
      rw [both, ofValue_logic, ihLeft, ihRight, word]
      rfl
  | either left right ihLeft ihRight =>
      have word : Text.uppered "OR" = "OR" := uppered_text .or
      rw [either, ofValue_logic, ihLeft, ihRight, word]
      rfl

end Tree

end Query

namespace Worker

open Query (Tree)

/-- What a client gets for a compiled query: the object of its tree, or nothing for a blank one. -/
def treeObject (tree : Option Tree) : Value := Value.ofOption (tree.map Tree.toValue)

theorem toValue_eq_object (t : Tree) : ∃ members, t.toValue = .object members ∧ "type" ∈ Members.names members := by
  cases t <;> exact ⟨_, rfl, List.mem_cons_self⟩

theorem ofValue_treeObject {text : String} {tree : Option Tree} (parsed : Query.parse text = .ok tree) :
    Search.ofValue (treeObject tree) = .ok (tree.map Search.query) := by
  cases tree with
  | none => rfl
  | some t =>
      obtain ⟨members, object, named⟩ := toValue_eq_object t
      have read := Tree.ofValue_toValue (Query.parse_isQuery parsed)
      rw [object] at read
      have isNamed : (Members.names members).contains "type" = true := List.contains_iff_mem.mpr named
      rw [treeObject, Option.map_some, Value.ofOption, object, Search.ofValue, if_pos isNamed, read]
      rfl

theorem compileQuery_eq_tree {text : String} {tree : Option Tree} :
    compileQuery (.text text) = .ok (.compiled (.ok tree)) ↔ Query.parse text = .ok tree := by
  unfold compileQuery
  dsimp only
  split <;> simp_all

theorem compileQuery_eq_report {text message : String} :
    compileQuery (.text text) = .ok (.compiled (.error message)) ↔
      ∃ fault, Query.parse text = .error (.query fault) ∧ fault.message = message := by
  unfold compileQuery
  dsimp only
  split <;> simp_all

/-- It makes no difference to a filter request in which of two ways its search is given, if both stand for the same. -/
theorem serveFilters_congr (clock : Calendar.Clock) (s : Session) (payload : Members Value) {query other : Value}
    (same : Search.ofValue query = Search.ofValue other) :
    serveFilters clock s ⟨.applyFilters, Members.put payload "query" query⟩ =
      serveFilters clock s ⟨.applyFilters, Members.put payload "query" other⟩ := by
  have search (v : Value) : Request.get ⟨.applyFilters, Members.put payload "query" v⟩ "query" .null = v := by
    rw [Request.get, Members.get?_put, if_pos rfl, Option.getD_some]
  have get (v : Value) {name : String} (differs : name ≠ "query") (otherwise : Value) :
      Request.get ⟨.applyFilters, Members.put payload "query" v⟩ name otherwise =
        (Members.get? payload name).getD otherwise := by
    rw [Request.get, Members.get?_put, if_neg differs]
  have sort := fun v => get v (by decide : "sort" ≠ "query")
  have structured := fun v => get v (by decide : "structured" ≠ "query")
  have operation := fun v => get v (by decide : "operation" ≠ "query")
  unfold serveFilters
  simp only [search, sort, structured, operation, same]

theorem serveFilters_refused (clock : Calendar.Clock) (s : Session) (payload : Members Value) {text : String}
    {fault : Fault} (refused : Query.parse text = .error fault) :
    let service := serveFilters clock s ⟨.applyFilters, Members.put payload "query" (.text text)⟩
    service.session = s ∧ service.outcome = .error fault ∧ service.reports = [] := by
  have search : Request.get ⟨.applyFilters, Members.put payload "query" (.text text)⟩ "query" .null = .text text := by
    rw [Request.get, Members.get?_put, if_pos rfl, Option.getD_some]
  have noSearch : Search.ofValue (.text text) = .error fault := by
    rw [Search.ofValue, Search.ofText, refused]
    rfl
  unfold serveFilters
  simp only [search, noSearch, Outcome.error_bind, and_self]

/-- The object that a client gets for a query is the one of the tree of the text, and describes that tree. A filter
request does the same with it as with the text: it leads to the same session, the same outcome and the same reports. Where
the client gets a report instead, the text is refused with that report, and the session stays as it is. -/
theorem compiled_query_serves (clock : Calendar.Clock) (s : Session) (text : String) (payload : Members Value) :
    let compiled := (serveRequest clock s ⟨.parseAdvancedQuery, [("text", .text text)]⟩).outcome
    let filtered := fun query => serveRequest clock s ⟨.applyFilters, Members.put payload "query" query⟩
    (∀ tree, compiled = .ok (.compiled (.ok tree)) →
      Query.parse text = .ok tree ∧ (∀ t, tree = some t → Tree.ofValue (treeObject tree) = .ok t) ∧
        (tree = none → treeObject tree = .null) ∧ filtered (treeObject tree) = filtered (.text text)) ∧
    ∀ message, compiled = .ok (.compiled (.error message)) →
      ∃ fault : Query.Fault, (filtered (.text text)).outcome = .error (.query fault) ∧
        Fault.message (.query fault) = message ∧ (filtered (.text text)).session = s := by
  intro compiled filtered
  refine ⟨fun tree replied => ?_, fun message replied => ?_⟩
  · have parsed := compileQuery_eq_tree.mp replied
    have sameSearch : Search.ofValue (treeObject tree) = Search.ofValue (.text text) := by
      rw [ofValue_treeObject parsed, Search.ofValue, Search.ofText, parsed]
      rfl
    refine ⟨parsed, ?_, ?_, serveFilters_congr clock s payload sameSearch⟩
    · rintro t rfl
      exact Tree.ofValue_toValue (Query.parse_isQuery parsed)
    · rintro rfl
      rfl
  · obtain ⟨fault, refused, isMessage⟩ := compileQuery_eq_report.mp replied
    obtain ⟨session, outcome, -⟩ := serveFilters_refused clock s payload refused
    exact ⟨fault, outcome, isMessage, session⟩

def strangers : Tree := .not (.rule ⟨.text "user", .text "in", .list [.text "bob", .text "eve"]⟩)

theorem compiled_query_serves_strangers :
    let filtered := fun query => serveRequest (.ofSeconds 0 0) (.new 100) ⟨.applyFilters, [("query", query)]⟩
    compileQuery (.text "NOT user:IN(bob, eve)") = .ok (.compiled (.ok (some strangers))) ∧
      filtered strangers.toValue = filtered (.text "NOT user:IN(bob, eve)") ∧
      compileQuery (.text "\"disk") = .ok (.compiled (.error
        "Query parse error: Unterminated quoted string near '\"disk' (at position 0)")) ∧
      (filtered (.text "\"disk")).session = .new 100 := by
  have read : Query.tokens "NOT user:IN(bob, eve)" = .ok [⟨.keyword .not, "NOT", 0⟩,
      ⟨.term (Query.listCondition "user".toList ["bob".toList, "eve".toList]), "user:IN(bob, eve)", 4⟩] := by
    with_unfolding_all rfl
  have negated := Query.Derives.operand
    (.not (.primary (.term (Query.listCondition "user".toList ["bob".toList, "eve".toList]))))
  have parsed : Query.parse "NOT user:IN(bob, eve)" = .ok (some strangers) :=
    (Query.parse_of_scans (.of_tokens read)).mpr (.conjunction negated)
  have compiled := compileQuery_eq_tree.mpr parsed
  have unread : Query.tokens "\"disk" = .error (.query ⟨.unterminatedQuote, "\"disk", some 0⟩) := by
    with_unfolding_all rfl
  have refused : Query.parse "\"disk" = .error (.query ⟨.unterminatedQuote, "\"disk", some 0⟩) := by
    rw [Query.parse, unread]
    rfl
  have report : Query.Fault.message ⟨.unterminatedQuote, "\"disk", some 0⟩ =
      "Query parse error: Unterminated quoted string near '\"disk' (at position 0)" := by decide +kernel
  have reported := compileQuery_eq_report.mpr ⟨_, refused, report⟩
  obtain ⟨trees, -⟩ := compiled_query_serves (.ofSeconds 0 0) (.new 100) "NOT user:IN(bob, eve)" []
  obtain ⟨-, reports⟩ := compiled_query_serves (.ofSeconds 0 0) (.new 100) "\"disk" []
  obtain ⟨-, -, -, same⟩ := trees (some strangers) compiled
  obtain ⟨fault, -, -, unchanged⟩ := reports _ reported
  exact ⟨compiled, same, reported, unchanged⟩

end Worker

end LogAnalysis
