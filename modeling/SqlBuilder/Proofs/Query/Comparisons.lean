import SqlBuilder.Proofs.Query.Condition
import SqlBuilder.Proofs.Query.Parts
import SqlBuilder.Proofs.Sql.Text

/-!
What becomes of the values in a filter that are no filters themselves. Main statement: a query whose filter
is compiled is the query without a filter and, if there are lookups, a clause with one comparison for each of
them; so there is one for each value exactly if all values are lookups.
-/

namespace SqlBuilder

open Recorded

namespace Filter

mutual

/-- All that stands in a filter besides its nodes, in order. -/
def leaves : Filter → List Filter
  | .node _ _ children => leavesOf children
  | leaf => [leaf]
termination_by structural filter => filter

def leavesOf : List Filter → List Filter
  | [] => []
  | child :: children => leaves child ++ leavesOf children
termination_by structural children => children

end

def lookup? : Filter → Option (String × Value)
  | .lookup key operand => some (key, operand)
  | _ => none

mutual

theorem filterMap_leaves : ∀ filter : Filter, filter.leaves.filterMap lookup? = filter.lookups
  | .lookup _ _ => rfl
  | .other _ => rfl
  | .node _ _ children => filterMap_leavesOf children
termination_by structural filter => filter

theorem filterMap_leavesOf : ∀ children : List Filter,
    (leavesOf children).filterMap lookup? = lookupsOf children
  | [] => rfl
  | child :: children => by
    rw [leavesOf, lookupsOf, List.filterMap_append, filterMap_leaves child, filterMap_leavesOf children]
termination_by structural children => children

end

theorem length_lookups_eq_iff (filter : Filter) :
    filter.lookups.length = filter.leaves.length ↔ ∀ leaf ∈ filter.leaves, leaf.lookup?.isSome = true := by
  rw [← filterMap_leaves]
  exact List.filterMap_length_eq_length

theorem operands_ofParts_ne_nil {connector : Connector} {negated : Bool} {parts : List Condition}
    (hparts : ∀ part ∈ parts, part.operands ≠ []) (h : Condition.ofParts connector negated parts ≠ []) :
    (Condition.ofParts connector negated parts).operands ≠ [] := by
  rw [Condition.operands_ofParts]
  cases parts with
  | nil => exact absurd rfl h
  | cons part parts =>
    rw [List.flatMap_cons]
    exact List.append_ne_nil_of_left_ne_nil (hparts part List.mem_cons_self) _

mutual

/-- A condition that is not empty compares something. -/
theorem operands_compile_ne_nil {dialect : Dialect} {context : Value} :
    ∀ (filter : Filter) {condition : Condition},
      (compile dialect context filter).outcome = .ok condition → condition ≠ [] → condition.operands ≠ []
  | .lookup key operand => by
    intro h _
    obtain ⟨sql, -, rfl⟩ := compile_lookup_eq_ok.mp h
    exact List.cons_ne_nil sql []
  | .other value => by
    intro h hne
    exact absurd (compile_other_eq_ok.mp h).2 hne
  | .node connector negated children => by
    intro h hne
    obtain ⟨parts, hparts, rfl⟩ := compile_node_eq_ok.mp h
    exact operands_ofParts_ne_nil (operands_compileEach_ne_nil children hparts) hne
termination_by structural filter => filter

theorem operands_compileEach_ne_nil {dialect : Dialect} {context : Value} :
    ∀ (children : List Filter) {parts : List Condition},
      (compileEach dialect context children).outcome = .ok parts → ∀ part ∈ parts, part.operands ≠ []
  | [] => by
    intro h
    obtain rfl := compileEach_nil_eq_ok.mp h
    simp
  | child :: children => by
    intro h
    obtain ⟨part, rest, hpart, hrest, rfl⟩ := compileEach_cons_eq_ok.mp h
    rw [List.forall_mem_append]
    refine ⟨?_, operands_compileEach_ne_nil children hrest⟩
    cases part with
    | nil => simp [enclosePart]
    | cons token part =>
      have hne : Condition.operands (token :: part) ≠ [] :=
        operands_compile_ne_nil child hpart (List.cons_ne_nil _ _)
      cases child <;> simpa [enclosePart] using hne
termination_by structural children => children

end

end Filter

theorem Sql.separated_append (separator : String) {parts : List Sql} (h : parts ≠ []) (more : List Sql) :
    separated separator (parts ++ more) =
      separated separator parts ++ (more.map fun part => code separator ++ part).flatten := by
  induction more generalizing parts with
  | nil => simp
  | cons part more ih =>
    have hsplit : parts ++ part :: more = (parts ++ [part]) ++ more := by simp
    rw [hsplit, ih (by simp), separated_append_singleton separator h]
    simp

namespace Query

/-- The same query for all rows of its table. -/
def unfiltered (q : Query) : Query :=
  { q with filter := none }

/-- The clause of a statement with these comparisons in it; there is no clause without any. -/
inductive IsClause : Sql → List Sql → Prop where
  | absent : IsClause [] []
  | present {condition : Condition} : condition.operands ≠ [] →
      IsClause (Sql.code " " ++ (Sql.code "where " ++ condition.sql)) condition.operands

variable {dialect : Dialect} {q : Query} {sql : Sql}

/-- The parts of a condition as they stand in a statement. -/
def clauseOf (parts : List Sql) : Sql :=
  (parts.map fun part => Sql.code " " ++ part).flatten

theorem isClause_whereSql {filter : Filter} (hfilter : q.filter = some filter) {parts : List Sql}
    (h : (q.whereSql dialect).outcome = .ok parts) :
    ∃ comparisons, IsClause (clauseOf parts) comparisons ∧
      List.Forall₂ (fun lookup comparison =>
        (Filter.compileLookup dialect q.context lookup.1 lookup.2).outcome = .ok comparison)
        filter.lookups comparisons := by
  rcases whereSql_eq_ok h with ⟨hnone, rfl⟩ | ⟨filter', condition, hfilter', hcondition, hne, rfl⟩
  · rw [lookups_of_filter hfilter] at hnone
    rw [hnone]
    exact ⟨[], .absent, .nil⟩
  · obtain rfl := Option.some.inj (hfilter.symm.trans hfilter')
    refine ⟨condition.operands, ?_, Filter.operands_of_compile filter hcondition⟩
    have hclause := IsClause.present (Filter.operands_compile_ne_nil filter hcondition hne)
    simpa [clauseOf] using hclause

/-- A statement is made of what it is without a filter and of the clause in the middle of it. -/
def Splits (dialect : Dialect) (q : Query) (compiled : Query → Recorded Sql) : Prop :=
  ∀ sql, (compiled q).outcome = .ok sql → ∃ head parts tail, (q.whereSql dialect).outcome = .ok parts ∧
    sql = head ++ clauseOf parts ++ tail ∧ (compiled q.unfiltered).outcome = .ok (head ++ tail)

theorem splits_writeTail (dialect : Dialect) (q : Query) : Splits dialect q (writeTail dialect) := by
  intro sql h
  obtain ⟨parts, returning, hparts, hreturning, rfl⟩ := writeTail_eq_ok.mp h
  exact ⟨[], parts, returning, hparts, rfl, writeTail_eq_ok.mpr ⟨[], returning, rfl, hreturning, rfl⟩⟩

theorem splits_selectSql (dialect : Dialect) (q : Query) : Splits dialect q (selectSql dialect) := by
  intro sql h
  obtain ⟨given, columns, table, parts, ordering, limit, lock, hgiven, hcolumns, htable, hparts, hordering,
    hlimit, hlock, rfl⟩ := selectSql_eq_ok.mp h
  refine ⟨Sql.separated " " [Sql.code "select " ++ columns, Sql.code "from", table], parts,
    clauseOf (ordering ++ limit ++ lock), hparts, ?_, ?_⟩
  · simp only [List.append_assoc]
    rw [Sql.separated_append " " (List.cons_ne_nil _ _)]
    simp [clauseOf]
  · refine selectSql_eq_ok.mpr ⟨given, columns, table, [], ordering, limit, lock, hgiven, hcolumns, htable, rfl,
      hordering, hlimit, hlock, ?_⟩
    rw [List.append_nil, List.append_assoc _ ordering, List.append_assoc _ (ordering ++ limit),
      Sql.separated_append " " (List.cons_ne_nil _ _)]
    rfl

theorem splits_deleteSql (dialect : Dialect) (q : Query) : Splits dialect q (deleteSql dialect) := by
  intro sql h
  obtain ⟨table, written, htable, hwritten, rfl⟩ := deleteSql_eq_ok.mp h
  obtain ⟨head, parts, tail, hparts, rfl, hunfiltered⟩ := splits_writeTail dialect q written hwritten
  refine ⟨Sql.code "delete from " ++ table ++ head, parts, tail, hparts, by simp, ?_⟩
  exact deleteSql_eq_ok.mpr ⟨table, head ++ tail, htable, hunfiltered, by simp⟩

theorem splits_setSql (dialect : Dialect) (q : Query) (values : List (Value × Value)) :
    Splits dialect q (setSql dialect · values) := by
  intro sql h
  obtain ⟨assignments, table, written, hassignments, htable, hwritten, rfl⟩ := setSql_eq_ok.mp h
  obtain ⟨head, parts, tail, hparts, rfl, hunfiltered⟩ := splits_writeTail dialect q written hwritten
  refine ⟨Sql.code "update " ++ table ++ Sql.code " set " ++ Sql.separated ", " assignments ++ head, parts,
    tail, hparts, by simp, ?_⟩
  exact setSql_eq_ok.mpr ⟨assignments, table, head ++ tail, hassignments, htable, hunfiltered, by simp⟩

theorem Splits.of_eq {compiled compiled' : Query → Recorded Sql} (h : Splits dialect q compiled')
    (hsame : compiled q = compiled' q) (hunfiltered : compiled q.unfiltered = compiled' q.unfiltered) :
    Splits dialect q compiled := by
  intro sql hsql
  rw [hsame] at hsql
  rw [hunfiltered]
  exact h sql hsql

theorem splits_fail (dialect : Dialect) (q : Query) (e : Error) : Splits dialect q fun _ => .fail e := by
  intro sql h
  cases h

theorem splits_updateSql (dialect : Dialect) (q : Query) : Splits dialect q (updateSql dialect) := by
  cases htrue : q.payload.isTrue with
  | false =>
    refine (splits_fail dialect q .updateEmpty).of_eq ?_ ?_ <;> simp [updateSql, unfiltered, htrue]
  | true =>
    cases hpayload : q.payload with
    | dict values =>
      rw [hpayload] at htrue
      refine (splits_setSql dialect q values).of_eq ?_ ?_ <;> simp [updateSql, unfiltered, hpayload, htrue]
    | _ =>
      rw [hpayload] at htrue
      refine (splits_fail dialect q .noAttribute).of_eq ?_ ?_ <;>
        simp [updateSql, unfiltered, hpayload, htrue]

/-- Queries of these methods are made for the rows that their filter tells. -/
def takesFilter : Method → Bool
  | .select | .first | .pluck | .update | .delete => true
  | _ => false

theorem splits_sql (dialect : Dialect) {q : Query} (h : takesFilter q.method = true) :
    Splits dialect q (Query.sql dialect) := by
  cases hmethod : q.method with
  | select | first | pluck =>
    refine (splits_selectSql dialect q).of_eq ?_ ?_ <;> simp [Query.sql, unfiltered, hmethod]
  | update => refine (splits_updateSql dialect q).of_eq ?_ ?_ <;> simp [Query.sql, unfiltered, hmethod]
  | delete => refine (splits_deleteSql dialect q).of_eq ?_ ?_ <;> simp [Query.sql, unfiltered, hmethod]
  | _ =>
    rw [hmethod] at h
    cases h

/-- The statement that a query makes of this SQL. -/
def statementOf (q : Query) (sql : Sql) : Statement :=
  { Statement.ofSql sql q.method with pluck := q.pluck, options := q.options }

/-- The statement is the one for all rows with the clause of these comparisons in it. -/
def RestrictsBy (dialect : Dialect) (q : Query) (statement : Statement) (comparisons : List Sql) : Prop :=
  ∃ head clause tail, statement = q.statementOf (head ++ clause ++ tail) ∧
    (q.unfiltered.compile dialect).outcome = .ok (q.statementOf (head ++ tail)) ∧
    IsClause clause comparisons

/-- Of all that stands in a filter, at any depth, the lookups are compared and nothing else is. So every value
has its comparison exactly if all are lookups, and without any lookup the statement is for all rows. -/
theorem comparisons_complete_iff {dialect : Dialect} {q : Query} {filter : Filter} {statement : Statement}
    (hmethod : takesFilter q.method = true) (hfilter : q.filter = some filter)
    (h : (q.compile dialect).outcome = .ok statement) :
    ∃ comparisons, RestrictsBy dialect q statement comparisons ∧
      List.Forall₂ (fun lookup comparison =>
        (Filter.compileLookup dialect q.context lookup.1 lookup.2).outcome = .ok comparison)
        filter.lookups comparisons ∧
      (comparisons.length = filter.leaves.length ↔
        ∀ leaf ∈ filter.leaves, leaf.lookup?.isSome = true) := by
  obtain ⟨sql, hsql, h⟩ := bind_outcome_eq_ok.mp h
  obtain rfl := Except.ok.inj h
  obtain ⟨head, parts, tail, hparts, rfl, hunfiltered⟩ := splits_sql dialect hmethod sql hsql
  obtain ⟨comparisons, hclause, hcomparisons⟩ := isClause_whereSql hfilter hparts
  refine ⟨comparisons, ⟨head, clauseOf parts, tail, rfl, ?_, hclause⟩, hcomparisons, ?_⟩
  · exact bind_outcome_eq_ok.mpr ⟨_, hunfiltered, rfl⟩
  · rw [← hcomparisons.length_eq]
    exact Filter.length_lookups_eq_iff filter

/-- An update of the rows that two lookups tell, with a text beside them in the filter. -/
def partlyCompared : Query :=
  { table := .text "users"
    method := .update
    payload := .dict [(.text "age", .int 3)]
    filter := some (.node .or false
      [.lookup "id" (.int 7), .node .and true [.other (.text "active"), .lookup "age__lt" (.int 18)]]) }

theorem partlyCompared_comparisons :
    let dialect : Dialect := .snowflake true none
    let filter : Filter := .node .or false
      [.lookup "id" (.int 7), .node .and true [.other (.text "active"), .lookup "age__lt" (.int 18)]]
    let statement : Statement := {
      sql := .text "update \"USERS\" set \"AGE\" = ? where \"ID\" = ? or (not (\"AGE\" < ?))"
      bindings := [.int 3, .int 7, .int 18]
      method := .update }
    takesFilter partlyCompared.method = true ∧ partlyCompared.filter = some filter ∧
      (partlyCompared.compile dialect).outcome = .ok statement ∧
      ∃ comparisons, RestrictsBy dialect partlyCompared statement comparisons ∧
        List.Forall₂ (fun lookup comparison =>
          (Filter.compileLookup dialect .null lookup.1 lookup.2).outcome = .ok comparison)
          filter.lookups comparisons ∧
        (comparisons.length = filter.leaves.length ↔
          ∀ leaf ∈ filter.leaves, leaf.lookup?.isSome = true) := by
  intro dialect filter statement
  have hcompiled : (partlyCompared.compile dialect).outcome = .ok statement := rfl
  exact ⟨rfl, rfl, hcompiled, comparisons_complete_iff rfl rfl hcompiled⟩

/-- A deletion whose filter holds a text alone is the deletion of all rows. -/
theorem text_not_compared :
    let filter : Filter := .node .and false [.other (.text "id = 1")]
    let q := (Query.on (.text "users")).whereFilter filter |>.delete []
    let statement : Statement := { sql := .text "delete from \"USERS\"", method := .delete }
    filter.leaves.length = 1 ∧ (q.compile (.snowflake true none)).outcome = .ok statement ∧
      (q.unfiltered.compile (.snowflake true none)).outcome = .ok statement :=
  ⟨rfl, rfl, rfl⟩

end Query

end SqlBuilder
