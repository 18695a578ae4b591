import SqlBuilder.Proofs.Filter.Operands
import SqlBuilder.Proofs.Query.Comparisons
import SqlBuilder.Proofs.Query.RowCount

/-!
SQL of the caller's own among the values of a query. Main statement: it stands as it is in the place of its
value, in rows, in assignments and in comparisons, and no binding is SQL exactly if no member of a list that
a column is looked for in is.
-/

namespace SqlBuilder

open Recorded

namespace Filter

/-- The members of the list that a lookup looks for its column in. -/
def members (lookup : String × Value) : List Value :=
  match Comparison.named? (splitKey lookup.1).2 with
  | some .member => lookup.2.items?.getD []
  | _ => []

/-- How the column of a lookup is tested: for null, which binds nothing, or by a comparison with the operand. -/
inductive Tests (dialect : Dialect) (context : Value) (lookup : String × Value) (sql : Sql) : Prop
  | null {column : Sql} {test : String} : (dialect.wrap (splitKey lookup.1).1 context).outcome = .ok column →
      lookup.2.isNull = true → test ∈ [" is null", " is not null"] → sql.text = column.text ++ test →
      sql.bindings = [] → Tests dialect context lookup sql
  | operand {column : Sql} {comparison : Comparison} :
      (dialect.wrap (splitKey lookup.1).1 context).outcome = .ok column →
      Comparison.named? (splitKey lookup.1).2 = some comparison →
      Compares column.text comparison lookup.2 sql → Tests dialect context lookup sql

section

variable {dialect : Dialect} {context : Value} {lookup : String × Value} {sql : Sql}

theorem tests_of_compileLookup (h : (compileLookup dialect context lookup.1 lookup.2).outcome = .ok sql) :
    Tests dialect context lookup sql := by
  cases hnull : lookup.2.isNull with
  | true =>
    obtain ⟨column, test, hcolumn, htest, rfl⟩ := compileLookup_eq_ok.mp h
    rw [comparisonTest_of_null hnull] at htest
    obtain ⟨text, hmem, rfl⟩ := nullTest_eq_code htest
    refine .null hcolumn hnull hmem (by rw [Sql.text_append, Sql.text_code]) ?_
    rw [Sql.bindings_append, bindings_wrap hcolumn, Sql.bindings_code, List.nil_append]
  | false =>
    obtain ⟨comparison, column, hnamed, hcolumn, hcompares⟩ := compileLookup_compares hnull h
    exact .operand hcolumn hnamed hcompares

theorem isRaw_boundOperand {operand : Value} (h : operand.isRaw = false) (comparison : Comparison) :
    (boundOperand comparison operand).isRaw = false := by
  rw [boundOperand]
  split
  · rfl
  · exact h

/-- What a test binds is no SQL, unless it is a member of a list. -/
theorem Tests.isRaw_bindings_iff (h : Tests dialect context lookup sql) :
    (∀ b ∈ sql.bindings, b.isRaw = false) ↔ ∀ item ∈ members lookup, item.isRaw = false := by
  cases h with
  | null _ hnull _ _ hbindings =>
    have hitems : lookup.2.items? = none := by
      cases hvalue : lookup.2 with
      | null => rfl
      | _ =>
        rw [hvalue] at hnull
        cases hnull
    rw [hbindings, members, hitems]
    split <;> simp
  | @operand column comparison _ hnamed hcompares =>
    obtain ⟨written, hwrites, -⟩ := hcompares
    rw [members, hnamed]
    generalize sql.bindings = bindings at hwrites ⊢
    generalize lookup.2 = operand at hwrites ⊢
    cases hwrites with
    | members hitems _ => rw [hitems]; rfl
    | fragment hne => simp [hne]
    | bound hne hraw => simp [hne, isRaw_boundOperand hraw comparison]

end

theorem isRaw_bindings_tests_iff {dialect : Dialect} {context : Value} {lookups : List (String × Value)}
    {tests : List Sql} (h : List.Forall₂ (Tests dialect context) lookups tests) :
    (∀ b ∈ tests.flatMap Sql.bindings, b.isRaw = false) ↔
      ∀ lookup ∈ lookups, ∀ item ∈ members lookup, item.isRaw = false := by
  induction h with
  | nil => simp
  | cons htest _ ih =>
    rw [List.flatMap_cons, List.forall_mem_append, List.forall_mem_cons, ih, htest.isRaw_bindings_iff]

end Filter

namespace Query

variable {dialect : Dialect} {q : Query}

/-! ### Conditions -/

theorem bindings_condition (condition : Condition) :
    condition.sql.bindings = condition.operands.flatMap Sql.bindings := by
  induction condition with
  | nil => rfl
  | cons token condition ih =>
    have hcons : Condition.sql (token :: condition) = token.sql ++ Condition.sql condition := List.flatMap_cons
    rw [hcons, Sql.bindings_append, ih]
    cases token <;> rfl

theorem IsClause.bindings {clause : Sql} {comparisons : List Sql} (h : IsClause clause comparisons) :
    clause.bindings = comparisons.flatMap Sql.bindings := by
  cases h with
  | absent => rfl
  | present => simp [bindings_condition]

/-- The lookups of a query are tested in its clause, in their order. -/
theorem exists_tests {parts : List Sql} (h : (q.whereSql dialect).outcome = .ok parts) :
    ∃ tests, IsClause (clauseOf parts) tests ∧ List.Forall₂ (Filter.Tests dialect q.context) q.lookups tests := by
  rcases whereSql_eq_ok h with ⟨hnone, rfl⟩ | ⟨filter, -, hfilter, -⟩
  · exact ⟨[], .absent, hnone ▸ .nil⟩
  · obtain ⟨tests, hclause, htests⟩ := isClause_whereSql hfilter h
    rw [lookups_of_filter hfilter]
    exact ⟨tests, hclause, htests.imp fun _ _ => Filter.tests_of_compileLookup⟩

/-! ### Assignments -/

/-- A column is given a value. -/
def Assigns (dialect : Dialect) (context : Value) (assignment : Value × Value) (sql : Sql) : Prop :=
  ∃ column slot, (dialect.wrapValue assignment.1 context).outcome = .ok column ∧ Stands assignment.2 slot ∧
    sql.text = column.text ++ " = " ++ slot.text ∧ sql.bindings = slot.value?.toList

theorem assigns_of_assignmentSql {assignment : Value × Value} {sql : Sql}
    (h : (q.assignmentSql dialect assignment).outcome = .ok sql) : Assigns dialect q.context assignment sql := by
  obtain ⟨column, hcolumn, rfl⟩ := assignmentSql_eq_ok.mp h
  obtain ⟨slot, hstands, htext, hbindings⟩ := exists_stands assignment.2
  refine ⟨column, slot, hcolumn, hstands, ?_, ?_⟩
  · rw [Sql.text_append, Sql.text_append, Sql.text_code, htext]
  · rw [Sql.bindings_append, Sql.bindings_append, Sql.bindings_of_naming (Dialect.naming_of_wrapValue hcolumn),
      Sql.bindings_code, List.nil_append, List.nil_append, hbindings]

theorem Assigns.isRaw_bindings {context : Value} {assignment : Value × Value} {sql : Sql}
    (h : Assigns dialect context assignment sql) : ∀ b ∈ sql.bindings, b.isRaw = false := by
  obtain ⟨column, slot, -, hstands, -, hbindings⟩ := h
  rw [hbindings]
  generalize assignment.2 = value at hstands
  cases hstands with
  | fragment sql => simp [Slot.value?]
  | bound hraw => simpa [Slot.value?] using hraw

/-! ### What is bound besides -/

theorem bindings_orderingSql {parts : List Sql} (h : (q.orderingSql dialect).outcome = .ok parts) :
    ∀ part ∈ parts, part.bindings = [] := by
  rcases parts_of_orderingSql h with ⟨-, rfl⟩ | ⟨fields, orders, -, horders, rfl⟩
  · simp
  · have hnone : ∀ order ∈ orders, order.bindings = [] := by
      refine forall_mem_mapM horders fun field _ order horder => ?_
      obtain ⟨name, -, horder⟩ := bind_outcome_eq_ok.mp horder
      obtain ⟨column, hcolumn, horder⟩ := bind_outcome_eq_ok.mp horder
      obtain rfl := Except.ok.inj horder
      rw [Sql.bindings_append, Filter.bindings_wrap hcolumn, Sql.bindings_code, List.append_nil]
    have hordering : (Sql.separated ", " orders).bindings = [] := by
      rw [Sql.bindings_separated, List.flatMap_eq_nil_iff]
      exact hnone
    simpa using hordering

theorem bindings_clauseOf (parts : List Sql) : (clauseOf parts).bindings = parts.flatMap Sql.bindings := by
  induction parts with
  | nil => rfl
  | cons part parts ih =>
    have hcons : clauseOf (part :: parts) = Sql.code " " ++ part ++ clauseOf parts := rfl
    rw [hcons, Sql.bindings_append, Sql.bindings_append, ih, Sql.bindings_code, List.nil_append, List.flatMap_cons]

theorem bindings_of_quiet {parts : List Sql} (h : ∀ part ∈ parts, part.Quiet) :
    ∀ part ∈ parts, part.bindings = [] :=
  fun part hpart => ((h part hpart).binds []).bindings

variable {parts : List Sql}

/-- Only the condition of a selection binds anything. -/
theorem bindings_selectSql (hparts : (q.whereSql dialect).outcome = .ok parts) {sql : Sql}
    (h : (q.selectSql dialect).outcome = .ok sql) : sql.bindings = (clauseOf parts).bindings := by
  obtain ⟨given, columns, table, condition, ordering, limit, lock, -, hcolumns, htable, hcondition, hordering,
    hlimit, hlock, rfl⟩ := selectSql_eq_ok.mp h
  obtain rfl : parts = condition := Except.ok.inj (hparts.symm.trans hcondition)
  have hlimitParts := bindings_of_quiet (quiet_limitSql hlimit)
  have hlockParts := bindings_of_quiet (quiet_lockSql hlock)
  have horderParts := bindings_orderingSql hordering
  rw [← List.flatMap_eq_nil_iff] at hlimitParts hlockParts horderParts
  rw [Sql.bindings_separated, bindings_clauseOf]
  simp [hlimitParts, hlockParts, horderParts, Sql.bindings_of_naming (Dialect.naming_of_columnize hcolumns),
    Sql.bindings_of_naming (naming_of_tableSql htable)]

theorem bindings_writeTail (hparts : (q.whereSql dialect).outcome = .ok parts) {tail : Sql}
    (h : (q.writeTail dialect).outcome = .ok tail) : tail.bindings = (clauseOf parts).bindings := by
  obtain ⟨condition, returning, hcondition, hreturning, rfl⟩ := writeTail_eq_ok.mp h
  obtain rfl : parts = condition := Except.ok.inj (hparts.symm.trans hcondition)
  rw [Sql.bindings_append, bindings_of_returningSql hreturning, List.append_nil]
  rfl

theorem bindings_deleteSql (hparts : (q.whereSql dialect).outcome = .ok parts) {sql : Sql}
    (h : (q.deleteSql dialect).outcome = .ok sql) : sql.bindings = (clauseOf parts).bindings := by
  obtain ⟨table, tail, htable, htail, rfl⟩ := deleteSql_eq_ok.mp h
  rw [Sql.bindings_append, Sql.bindings_append, Sql.bindings_of_naming (naming_of_tableSql htable),
    bindings_writeTail hparts htail]
  rfl

theorem isRaw_bindings_updateSql_iff (hparts : (q.whereSql dialect).outcome = .ok parts) {sql : Sql}
    (h : (q.updateSql dialect).outcome = .ok sql) :
    (∀ b ∈ sql.bindings, b.isRaw = false) ↔ ∀ b ∈ (clauseOf parts).bindings, b.isRaw = false := by
  obtain ⟨entries, assigned, table, tail, -, hassigned, htable, htail, rfl⟩ := parts_of_updateSql h
  have hbound : ∀ b ∈ (Sql.separated ", " assigned).bindings, b.isRaw = false := by
    rw [Sql.bindings_separated, List.forall_mem_flatMap]
    exact forall_mem_of_forall₂ hassigned fun _ _ _ hassigns => (assigns_of_assignmentSql hassigns).isRaw_bindings
  have hset : (Sql.code "update " ++ table ++ Sql.code " set ").bindings = [] := by
    simp [Sql.bindings_of_naming (naming_of_tableSql htable)]
  rw [Sql.bindings_append, Sql.bindings_append, hset, List.nil_append, bindings_writeTail hparts htail,
    List.forall_mem_append]
  exact and_iff_right hbound

/-- Where a query is made for the rows of its filter, only the filter decides whether SQL is bound. -/
theorem isRaw_bindings_sql_iff (hmethod : takesFilter q.method = true)
    (hparts : (q.whereSql dialect).outcome = .ok parts) {sql : Sql} (h : (q.sql dialect).outcome = .ok sql) :
    (∀ b ∈ sql.bindings, b.isRaw = false) ↔ ∀ b ∈ (clauseOf parts).bindings, b.isRaw = false := by
  unfold Query.sql at h
  split at h
  · rw [bindings_selectSql hparts h]
  · rw [bindings_selectSql hparts h]
  · rw [bindings_selectSql hparts h]
  · next hinsert =>
    rw [hinsert] at hmethod
    cases hmethod
  · exact isRaw_bindings_updateSql_iff hparts h
  · rw [bindings_deleteSql hparts h]
  · next htruncate =>
    rw [htruncate] at hmethod
    cases hmethod
  · cases h

/-! ### Statements -/

/-- Every value that a query was given has its place in the statement: cells in the tuples of their rows,
assigned values behind their columns, and operands in the comparisons of the clause. -/
structure PlacesValues (dialect : Dialect) (q : Query) (statement : Statement) : Prop where
  cells : q.method = .insert → columnUnion q.rows ≠ [] →
    ∃ insertion : Insertion, insertion.Holds dialect q q.rows ∧ statement.sql = .text insertion.text ∧
      statement.bindings = insertion.bindings
  assigned : q.method = .update → ∃ entries assigned table tail, q.payload = .dict entries ∧
    List.Forall₂ (Assigns dialect q.context) entries assigned ∧
    statement = q.statementOf
      (Sql.code "update " ++ table ++ Sql.code " set " ++ Sql.separated ", " assigned ++ tail)
  tested : takesFilter q.method = true → ∃ tests, RestrictsBy dialect q statement tests ∧
    List.Forall₂ (Filter.Tests dialect q.context) q.lookups tests

theorem toStatement_of_sql {sql table : Sql} (htable : (q.tableSql dialect).outcome = .ok table)
    (h : (q.sql dialect).outcome = .ok sql) : (q.toStatement dialect).outcome = .ok (q.statementOf sql) := by
  rw [toStatement, if_pos (isTrue_of_tableSql htable), compile]
  exact bind_outcome_eq_ok.mpr ⟨sql, h, rfl⟩

/-- An insert with columns has its table written. -/
theorem exists_table_of_insert (hmethod : q.method = .insert) (hcolumns : columnUnion q.rows ≠ []) {sql : Sql}
    (h : (q.sql dialect).outcome = .ok sql) : ∃ table, (q.tableSql dialect).outcome = .ok table := by
  obtain ⟨item, items, hitems, hrows⟩ := items_of_rows (rows_ne_nil_of_columnUnion hcolumns)
  rw [sql_insert hmethod hitems hrows] at h
  obtain ⟨table, htable, -⟩ := bind_outcome_eq_ok.mp h
  exact ⟨table, htable⟩

theorem exists_cells (hmethod : q.method = .insert) (hcolumns : columnUnion q.rows ≠ []) {sql : Sql}
    (h : (q.sql dialect).outcome = .ok sql) :
    ∃ insertion : Insertion, insertion.Holds dialect q q.rows ∧
      (q.statementOf sql).sql = .text insertion.text ∧ sql.bindings = insertion.bindings := by
  obtain ⟨table, htable⟩ := exists_table_of_insert hmethod hcolumns h
  obtain ⟨insertion, hholds, -, htext, hbindings⟩ :=
    exists_insertion hmethod hcolumns (toStatement_of_sql htable h)
  exact ⟨insertion, hholds, htext, hbindings⟩

theorem placesValues_of_sql {sql : Sql} (h : (q.sql dialect).outcome = .ok sql) :
    PlacesValues dialect q (q.statementOf sql) where
  cells hmethod hcolumns := exists_cells hmethod hcolumns h
  assigned hmethod := by
    unfold Query.sql at h
    rw [hmethod] at h
    obtain ⟨entries, assigned, table, tail, hentries, hassigned, -, -, rfl⟩ := parts_of_updateSql h
    exact ⟨entries, assigned, table, tail, hentries, hassigned.imp fun _ _ => assigns_of_assignmentSql, rfl⟩
  tested hmethod := by
    obtain ⟨head, parts, tail, hparts, rfl, hunfiltered⟩ := splits_sql dialect hmethod sql h
    obtain ⟨tests, hclause, htests⟩ := exists_tests hparts
    exact ⟨tests, ⟨head, clauseOf parts, tail, rfl, bind_outcome_eq_ok.mpr ⟨_, hunfiltered, rfl⟩, hclause⟩, htests⟩

/-- What the tuples of an insert bind is no SQL. -/
theorem Insertion.Holds.isRaw_bindings {insertion : Insertion} {rows : List Row}
    (h : insertion.Holds dialect q rows) : ∀ b ∈ insertion.bindings, b.isRaw = false := by
  have hslots : ∀ line ∈ insertion.grid, ∀ slot ∈ line, ∀ b, slot.value? = some b → b.isRaw = false := by
    refine forall_mem_of_forall₂ h.grid fun row _ line hline => forall_mem_of_forall₂ hline ?_
    intro column _ slot hfills b hbound
    cases hfills with
    | bound _ hraw =>
      obtain rfl := Option.some.inj hbound
      exact hraw
    | _ => cases hbound
  intro b hb
  obtain ⟨slot, hslot, hbound⟩ := List.mem_filterMap.mp hb
  obtain ⟨line, hline, hmem⟩ := List.mem_flatten.mp hslot
  exact hslots line hline slot hmem b hbound

theorem bindings_defaultRowSql {table sql : Sql} (htable : table.bindings = [])
    (h : (defaultRowSql dialect table).outcome = .ok sql) : sql.bindings = [] := by
  cases dialect with
  | ansi supportsReturning =>
    obtain rfl := Except.ok.inj h
    simp [htable]
  | snowflake folds hook =>
    obtain rfl := Except.ok.inj h
    rfl

/-- Without any column nothing is bound. -/
theorem bindings_of_columnless (hcolumns : columnUnion q.rows = []) {sql : Sql}
    (h : (q.insertSql dialect).outcome = .ok sql) : sql.bindings = [] := by
  rcases parts_of_insertSql h with ⟨-, rfl⟩ | ⟨item, items, table, -, -, htable, hwritten⟩
  · rfl
  · rw [insertRowsSql_empty q hcolumns] at hwritten
    exact bindings_defaultRowSql (Sql.bindings_of_naming (naming_of_tableSql htable)) hwritten

theorem isRaw_bindings_insertSql (hmethod : q.method = .insert) {sql : Sql}
    (h : (q.sql dialect).outcome = .ok sql) : ∀ b ∈ sql.bindings, b.isRaw = false := by
  by_cases hcolumns : columnUnion q.rows = []
  · rw [sql_of_insert hmethod] at h
    rw [bindings_of_columnless hcolumns h]
    exact List.forall_mem_nil _
  · obtain ⟨insertion, hholds, -, hbindings⟩ := exists_cells hmethod hcolumns h
    rw [hbindings]
    exact hholds.isRaw_bindings

theorem bindings_truncateSql {sql : Sql} (h : (q.truncateSql dialect).outcome = .ok sql) : sql.bindings = [] := by
  obtain ⟨table, htable, h⟩ := bind_outcome_eq_ok.mp h
  obtain rfl := Except.ok.inj h
  rw [Sql.bindings_append, Sql.bindings_of_naming (naming_of_tableSql htable), Sql.bindings_code]
  rfl

/-- Statements that are not made for the rows of a filter bind no SQL. -/
theorem isRaw_bindings_of_not_takesFilter (hmethod : takesFilter q.method = false) {sql : Sql}
    (h : (q.sql dialect).outcome = .ok sql) : ∀ b ∈ sql.bindings, b.isRaw = false := by
  cases hquery : q.method with
  | insert => exact isRaw_bindings_insertSql hquery h
  | truncate =>
    rw [Query.sql, hquery] at h
    rw [bindings_truncateSql h]
    exact List.forall_mem_nil _
  | raw | schema | other name =>
    rw [Query.sql, hquery] at h
    cases h
  | _ =>
    rw [hquery] at hmethod
    cases hmethod

/-- Every value has its place in a compiled statement. SQL among the values stands there as it is, and none of it
is bound exactly if none of it is a member of a list that a column is looked for in. -/
theorem fragments_bound_iff {statement : Statement} (h : (q.compile dialect).outcome = .ok statement) :
    PlacesValues dialect q statement ∧
      ((∀ b ∈ statement.bindings, b.isRaw = false) ↔ (takesFilter q.method = true →
        ∀ lookup ∈ q.lookups, ∀ item ∈ Filter.members lookup, item.isRaw = false)) := by
  obtain ⟨sql, hsql, h⟩ := bind_outcome_eq_ok.mp h
  obtain rfl := Except.ok.inj h
  refine ⟨placesValues_of_sql hsql, ?_⟩
  change (∀ b ∈ sql.bindings, b.isRaw = false) ↔ _
  cases hmethod : takesFilter q.method with
  | false => exact iff_of_true (isRaw_bindings_of_not_takesFilter hmethod hsql) (fun h => by cases h)
  | true =>
    obtain ⟨head, parts, tail, hparts, -, -⟩ := splits_sql dialect hmethod sql hsql
    obtain ⟨tests, hclause, htests⟩ := exists_tests hparts
    rw [isRaw_bindings_sql_iff hmethod hparts hsql, hclause.bindings, Filter.isRaw_bindings_tests_iff htests]
    exact ⟨fun hmembers _ => hmembers, fun hmembers => hmembers rfl⟩

/-- An update with SQL in an assignment and in a comparison, and without any in a list. -/
def fragmentUpdate : Query :=
  { table := .text "jobs"
    method := .update
    payload := .dict [(.text "tries", .raw "tries + 1"), (.text "state", .text "open")]
    filter := some (.node .or false
      [.lookup "due__lt" (.raw "now()"), .node .and true [.lookup "id__in" (.list [.int 1, .int 2])]]) }

theorem fragmentUpdate_places :
    let statement : Statement := {
      sql := .text
        "update \"JOBS\" set \"TRIES\" = tries + 1, \"STATE\" = ? where \"DUE\" < now() or (not (\"ID\" in (?, ?)))"
      bindings := [.text "open", .int 1, .int 2]
      method := .update }
    (fragmentUpdate.compile (.snowflake true none)).outcome = .ok statement ∧
      PlacesValues (.snowflake true none) fragmentUpdate statement ∧
      ((∀ b ∈ statement.bindings, b.isRaw = false) ↔ (takesFilter fragmentUpdate.method = true →
        ∀ lookup ∈ fragmentUpdate.lookups, ∀ item ∈ Filter.members lookup, item.isRaw = false)) := by
  intro statement
  have hcompiled : (fragmentUpdate.compile (.snowflake true none)).outcome = .ok statement := rfl
  exact ⟨hcompiled, fragments_bound_iff hcompiled⟩

/-- SQL in a list is bound and does not stand in the statement. -/
theorem fragment_in_list_bound :
    let q := (Query.on (.text "t")).filterBy [("id__in", .list [.raw "1", .int 2])]
    let statement : Statement := {
      sql := .text "select * from \"t\" where \"id\" in (?, ?)", bindings := [.raw "1", .int 2], method := .select }
    (q.compile (.ansi false)).outcome = .ok statement ∧ ¬ ∀ b ∈ statement.bindings, b.isRaw = false :=
  ⟨rfl, by simp [Value.isRaw]⟩

end Query

end SqlBuilder
