import SqlBuilder.Proofs.Filter.Operands
import SqlBuilder.Proofs.Query.Comparisons
import SqlBuilder.Proofs.Query.Insertion
import SqlBuilder.Proofs.Query.Refinement

/-!
What a write returns. Main statement: where rows can be returned, a write is the one that returns nothing, and
what it returns stands once behind it, exactly if it is no insert of rows without any column; and where nothing
is returned, no write changes.
-/

namespace SqlBuilder

open Recorded

theorem Recorded.outcome_bind_ok {α β : Type} {x : Recorded α} {a : α} (h : x.outcome = .ok a)
    (f : α → Recorded β) : (x >>= f).outcome = (f a).outcome := by
  rw [outcome_bind, h]
  rfl

theorem Recorded.outcome_bind_congr {α β : Type} {x : Recorded α} {f g : α → Recorded β}
    (h : ∀ a, x.outcome = .ok a → (f a).outcome = (g a).outcome) : (x >>= f).outcome = (x >>= g).outcome := by
  rw [outcome_bind, outcome_bind]
  cases hx : x.outcome with
  | error e => rfl
  | ok a => exact h a hx

/-! ### SQL that returns nothing -/

/-- The library writes here that rows are returned. -/
def Piece.opensReturning : Piece → Bool
  | .code text => Text.occursIn "returning".toList text.toList
  | _ => false

namespace Sql

def ReturnsNothing (sql : Sql) : Prop :=
  ∀ piece ∈ sql, piece.opensReturning = false

theorem ReturnsNothing.append {a b : Sql} (ha : ReturnsNothing a) (hb : ReturnsNothing b) :
    ReturnsNothing (a ++ b) :=
  List.forall_mem_append.mpr ⟨ha, hb⟩

theorem returnsNothing_code {text : String} (h : Text.occursIn "returning".toList text.toList = false) :
    ReturnsNothing (code text) := by
  simpa [ReturnsNothing, code, Piece.opensReturning] using h

theorem returnsNothing_separated {separator : String}
    (h : Text.occursIn "returning".toList separator.toList = false) {parts : List Sql}
    (hparts : ∀ part ∈ parts, ReturnsNothing part) : ReturnsNothing (separated separator parts) :=
  forall_mem_separated h hparts

theorem returnsNothing_naming {sql : Sql} (h : ∀ piece ∈ sql, piece.IsNaming) : ReturnsNothing sql := by
  intro piece hpiece
  have hnaming := h piece hpiece
  cases piece with
  | code text =>
    simp only [Piece.IsNaming, List.mem_cons, List.not_mem_nil, or_false] at hnaming
    rcases hnaming with rfl | rfl | rfl | rfl <;> decide
  | _ => rfl

theorem returnsNothing_ofValue (value : Value) : ReturnsNothing (ofValue value) := by
  cases value <;> simp [ReturnsNothing, ofValue, Piece.opensReturning]

end Sql

namespace Filter

open Sql

variable {dialect : Dialect} {context : Value}

theorem returnsNothing_operandSql (comparison : Comparison) (operand : Value) :
    ReturnsNothing (operandSql comparison operand) := by
  cases hraw : operand.isRaw with
  | true =>
    cases operand with
    | raw sql => simp [ReturnsNothing, operandSql, Piece.opensReturning]
    | _ => cases hraw
  | false => simp [operandSql_of_not_raw hraw, ReturnsNothing, Piece.opensReturning]

theorem returnsNothing_comparisonTest {lookup : String} {operand : Value} {test : Sql}
    (h : comparisonTest lookup operand = .ok test) : ReturnsNothing test := by
  cases hnull : operand.isNull with
  | true =>
    rw [comparisonTest_of_null hnull] at h
    obtain ⟨text, htext, rfl⟩ := nullTest_eq_code h
    have hwords : ∀ word ∈ [" is null", " is not null"],
        Text.occursIn "returning".toList word.toList = false := by decide
    exact returnsNothing_code (hwords text htext)
  | false =>
    rw [comparisonTest_of_not_null hnull] at h
    split at h
    · cases h
    · obtain ⟨items, -, -, rfl⟩ := membershipTest_eq_ok h
      have hslots : ∀ part ∈ items.map fun item => [Piece.slot item], ReturnsNothing part := by
        simp [ReturnsNothing, Piece.opensReturning]
      exact ((returnsNothing_code (by decide)).append (returnsNothing_separated (by decide) hslots)).append
        (returnsNothing_code (by decide))
    · next comparison _ _ =>
      obtain rfl := Except.ok.inj h
      have hoperator : ReturnsNothing (code (" " ++ comparison.operator ++ " ")) :=
        returnsNothing_code (by cases comparison <;> decide)
      exact hoperator.append (returnsNothing_operandSql comparison operand)

theorem returnsNothing_compileLookup {key : String} {operand : Value} {sql : Sql}
    (h : (compileLookup dialect context key operand).outcome = .ok sql) : ReturnsNothing sql := by
  obtain ⟨column, test, hcolumn, htest, rfl⟩ := compileLookup_eq_ok.mp h
  exact (returnsNothing_naming (Dialect.naming_of_wrap hcolumn)).append (returnsNothing_comparisonTest htest)

theorem returnsNothing_condition {condition : Condition}
    (h : ∀ sql ∈ condition.operands, ReturnsNothing sql) : ReturnsNothing condition.sql := by
  intro piece hpiece
  obtain ⟨token, htoken, hmem⟩ := List.mem_flatMap.mp hpiece
  cases token with
  | operand sql =>
    have hoperand : sql ∈ condition.operands := List.mem_filterMap.mpr ⟨_, htoken, rfl⟩
    exact h sql hoperand piece hmem
  | connector c =>
    obtain rfl := List.mem_singleton.mp hmem
    cases c <;> decide
  | _ =>
    obtain rfl := List.mem_singleton.mp hmem
    decide

theorem returnsNothing_compile {filter : Filter} {condition : Condition}
    (h : (compile dialect context filter).outcome = .ok condition) : ReturnsNothing condition.sql := by
  exact returnsNothing_condition (forall_mem_of_forall₂ (operands_of_compile filter h)
    fun _ _ _ hsql => returnsNothing_compileLookup hsql)

end Filter

namespace Query

open Sql

/-- The same query without anything to return. -/
def unreturned (q : Query) : Query :=
  { q with returning := .ok [] }

/-- Queries of these methods change rows, which they can return. -/
def isWrite : Method → Bool
  | .insert | .update | .delete => true
  | _ => false

variable {dialect : Dialect} {q : Query}

theorem returningSql_of_none (h : q.returning = .ok []) : q.returningSql dialect = pure [] := by
  rw [returningSql, h]
  rfl

theorem returningSql_of_unsupported (h : dialect.supportsReturning = false) : q.returningSql dialect = pure [] := by
  rw [returningSql, h]
  simp

theorem returnsNothing_tableSql {table : Sql} (h : (q.tableSql dialect).outcome = .ok table) :
    ReturnsNothing table :=
  returnsNothing_naming (naming_of_tableSql h)

theorem returnsNothing_whereSql {parts : List Sql} (h : (q.whereSql dialect).outcome = .ok parts) :
    ReturnsNothing (parts.map fun sql => Sql.code " " ++ sql).flatten := by
  rcases whereSql_eq_ok h with ⟨-, rfl⟩ | ⟨filter, condition, -, hcondition, -, rfl⟩
  · simp [ReturnsNothing]
  · have hwhere : ReturnsNothing (Sql.code "where " ++ condition.sql) :=
      (returnsNothing_code (by decide)).append (Filter.returnsNothing_compile hcondition)
    have hblank : ReturnsNothing (Sql.code " ") := returnsNothing_code (by decide)
    simpa using hblank.append hwhere

theorem returnsNothing_assignmentSql {assignment : Value × Value} {sql : Sql}
    (h : (q.assignmentSql dialect assignment).outcome = .ok sql) : ReturnsNothing sql := by
  obtain ⟨column, hcolumn, rfl⟩ := assignmentSql_eq_ok.mp h
  exact ((returnsNothing_naming (Dialect.naming_of_wrapValue hcolumn)).append
    (returnsNothing_code (by decide))).append (returnsNothing_ofValue assignment.2)

theorem returnsNothing_tupleSql (columns : List String) (row : Row) : ReturnsNothing (tupleSql columns row) := by
  have hcells : ∀ cell ∈ columns.map (cellSql row), ReturnsNothing cell := by
    intro cell hcell
    obtain ⟨column, -, rfl⟩ := List.mem_map.mp hcell
    rw [cellSql]
    split
    · exact returnsNothing_ofValue _
    · exact returnsNothing_code (by decide)
  exact ((returnsNothing_code (by decide)).append (returnsNothing_separated (by decide) hcells)).append
    (returnsNothing_code (by decide))

theorem returnsNothing_writeTail (hnone : q.returning = .ok []) {tail : Sql}
    (h : (q.writeTail dialect).outcome = .ok tail) : ReturnsNothing tail := by
  obtain ⟨parts, returning, hparts, hreturning, rfl⟩ := writeTail_eq_ok.mp h
  rw [returningSql_of_none hnone] at hreturning
  obtain rfl := Except.ok.inj hreturning
  rw [List.append_nil]
  exact returnsNothing_whereSql hparts

theorem returnsNothing_deleteSql (hnone : q.returning = .ok []) {sql : Sql}
    (h : (q.deleteSql dialect).outcome = .ok sql) : ReturnsNothing sql := by
  obtain ⟨table, tail, htable, htail, rfl⟩ := deleteSql_eq_ok.mp h
  exact ((returnsNothing_code (by decide)).append (returnsNothing_tableSql htable)).append
    (returnsNothing_writeTail hnone htail)

theorem returnsNothing_updateSql (hnone : q.returning = .ok []) {sql : Sql}
    (h : (q.updateSql dialect).outcome = .ok sql) : ReturnsNothing sql := by
  obtain ⟨entries, assigned, table, tail, -, hassigned, htable, htail, rfl⟩ := parts_of_updateSql h
  have hset : ReturnsNothing (separated ", " assigned) :=
    returnsNothing_separated (by decide)
      (forall_mem_of_forall₂ hassigned fun _ _ _ hassignment => returnsNothing_assignmentSql hassignment)
  exact ((((returnsNothing_code (by decide)).append (returnsNothing_tableSql htable)).append
    (returnsNothing_code (by decide))).append hset).append (returnsNothing_writeTail hnone htail)

theorem returnsNothing_insertRowsSql (hnone : q.returning = .ok []) {table sql : Sql} {rows : List Row}
    (htable : ReturnsNothing table) (h : (q.insertRowsSql dialect table rows).outcome = .ok sql) :
    ReturnsNothing sql := by
  by_cases hcolumns : columnUnion rows = []
  · rw [insertRowsSql_empty q hcolumns] at h
    cases dialect with
    | ansi supportsReturning =>
      obtain rfl := Except.ok.inj h
      exact ((returnsNothing_code (by decide)).append htable).append (returnsNothing_code (by decide))
    | snowflake folds hook =>
      obtain rfl := Except.ok.inj h
      exact List.forall_mem_nil _
  · obtain ⟨names, returning, hnames, hreturning, rfl⟩ := (insertRowsSql_eq_ok hcolumns).mp h
    rw [returningSql_of_none hnone] at hreturning
    obtain rfl := Except.ok.inj hreturning
    have htuples : ∀ part ∈ rows.map (tupleSql (columnUnion rows)), ReturnsNothing part :=
      List.forall_mem_map.mpr fun row _ => returnsNothing_tupleSql _ row
    rw [List.append_nil]
    exact (((((returnsNothing_code (by decide)).append htable).append (returnsNothing_code (by decide))).append
      (returnsNothing_naming (Dialect.naming_of_columnize hnames))).append (returnsNothing_code (by decide))).append
      (returnsNothing_separated (by decide) htuples)

theorem returnsNothing_insertSql (hnone : q.returning = .ok []) {sql : Sql}
    (h : (q.insertSql dialect).outcome = .ok sql) : ReturnsNothing sql := by
  rcases parts_of_insertSql h with ⟨-, rfl⟩ | ⟨item, items, table, -, -, htable, hwritten⟩
  · exact List.forall_mem_nil _
  · exact returnsNothing_insertRowsSql hnone (returnsNothing_tableSql htable) hwritten

/-- No write opens a clause for what it returns if there is nothing to return. -/
theorem returnsNothing_sql (hwrite : isWrite q.method = true) (hnone : q.returning = .ok []) {sql : Sql}
    (h : (q.sql dialect).outcome = .ok sql) : ReturnsNothing sql := by
  unfold Query.sql at h
  cases hmethod : q.method with
  | insert =>
    rw [hmethod] at h
    exact returnsNothing_insertSql hnone h
  | update =>
    rw [hmethod] at h
    exact returnsNothing_updateSql hnone h
  | delete =>
    rw [hmethod] at h
    exact returnsNothing_deleteSql hnone h
  | _ =>
    rw [hmethod] at hwrite
    cases hwrite

/-! ### What is returned stands behind -/

/-- What is returned, put behind a write. -/
def appendReturning (dialect : Dialect) (q : Query) (body : Sql) : Recorded Sql := do
  return body ++ (← q.returningSql dialect)

/-- The first of two computations ends as the second one does once what is returned is put behind it. -/
def Appends (dialect : Dialect) (q : Query) (x y : Recorded Sql) : Prop :=
  x.outcome = (y >>= q.appendReturning dialect).outcome

theorem Appends.after {x y : Recorded Sql} (h : q.Appends dialect x y) (head : Sql) :
    q.Appends dialect (x >>= fun tail => pure (head ++ tail)) (y >>= fun tail => pure (head ++ tail)) := by
  have hwhole : (x >>= fun tail => pure (head ++ tail)).outcome =
      (y >>= q.appendReturning dialect >>= fun tail => pure (head ++ tail)).outcome := by
    rw [outcome_bind, outcome_bind, h]
  rw [Appends, hwhole, bind_assoc, bind_assoc]
  simp only [appendReturning, bind_assoc, pure_bind, List.append_assoc]

theorem appends_bind {α : Type} {x : Recorded α} {f g : α → Recorded Sql}
    (h : ∀ a, x.outcome = .ok a → q.Appends dialect (f a) (g a)) : q.Appends dialect (x >>= f) (x >>= g) := by
  rw [Appends, bind_assoc]
  exact outcome_bind_congr h

/-- All writes end like this, but for one. -/
theorem appends_returning (dialect : Dialect) (q : Query) (body : Sql) :
    q.Appends dialect
      (do
        let returning ← q.returningSql dialect
        q.warnReturning dialect
        return body ++ returning)
      (do
        let returning ← q.unreturned.returningSql dialect
        q.unreturned.warnReturning dialect
        return body ++ returning) := by
  have hnone : q.unreturned.returningSql dialect = pure [] := returningSql_of_none rfl
  rw [hnone, pure_bind, Appends, bind_assoc, outcome_bind_ok (outcome_warnReturning _ dialect), pure_bind,
    appendReturning]
  refine outcome_bind_congr fun returning _ => ?_
  rw [outcome_bind_ok (outcome_warnReturning _ dialect), List.append_nil]

theorem appends_writeTail (dialect : Dialect) (q : Query) :
    q.Appends dialect (q.writeTail dialect) (q.unreturned.writeTail dialect) :=
  appends_bind fun _ _ => appends_returning dialect q _

theorem appends_deleteSql (dialect : Dialect) (q : Query) :
    q.Appends dialect (q.deleteSql dialect) (q.unreturned.deleteSql dialect) :=
  appends_bind fun _ _ => (appends_writeTail dialect q).after _

theorem appends_updateSql (dialect : Dialect) (q : Query) :
    q.Appends dialect (q.updateSql dialect) (q.unreturned.updateSql dialect) := by
  have hpayload : q.unreturned.payload = q.payload := rfl
  unfold updateSql
  rw [hpayload]
  split
  · rfl
  split
  · exact appends_bind fun _ _ => appends_bind fun _ _ => (appends_writeTail dialect q).after _
  · rfl

theorem appends_insertRowsSql {rows : List Row} (hcolumns : columnUnion rows ≠ []) (table : Sql) :
    q.Appends dialect (q.insertRowsSql dialect table rows) (q.unreturned.insertRowsSql dialect table rows) := by
  rw [insertRowsSql_columns q hcolumns, insertRowsSql_columns q.unreturned hcolumns]
  exact appends_bind fun _ _ => appends_returning dialect q _

theorem appends_insertSql (hcolumns : columnUnion q.rows ≠ []) (dialect : Dialect) :
    q.Appends dialect (q.insertSql dialect) (q.unreturned.insertSql dialect) := by
  refine appends_bind fun items hitems => ?_
  cases items with
  | nil =>
    rw [rows_eq_of_ofValues hitems rfl] at hcolumns
    exact absurd rfl hcolumns
  | cons item items =>
    refine appends_bind fun table _ => appends_bind fun rows hrows => ?_
    rw [rows_eq_of_ofValues hitems hrows] at hcolumns
    exact appends_insertRowsSql hcolumns table

/-- Without any column the insert is over before anything is returned. -/
theorem outcome_insertSql_columnless (hcolumns : columnUnion q.rows = []) (dialect : Dialect) :
    (q.insertSql dialect).outcome = (q.unreturned.insertSql dialect).outcome := by
  refine outcome_bind_congr fun items hitems => ?_
  cases items with
  | nil => rfl
  | cons item items =>
    refine outcome_bind_congr fun table _ => outcome_bind_congr fun rows hrows => ?_
    rw [rows_eq_of_ofValues hitems hrows] at hcolumns
    rw [insertRowsSql_empty _ hcolumns, insertRowsSql_empty _ hcolumns]

/-- What is to be returned is not looked at. -/
def PassesReturning (q : Query) : Prop :=
  q.method = .insert ∧ columnUnion q.rows = []

theorem appends_sql (hwrite : isWrite q.method = true) (h : ¬ q.PassesReturning) (dialect : Dialect) :
    q.Appends dialect (q.sql dialect) (q.unreturned.sql dialect) := by
  have hmethod' : q.unreturned.method = q.method := rfl
  unfold Query.sql
  rw [hmethod']
  cases hmethod : q.method with
  | insert => exact appends_insertSql (fun hcolumns => h ⟨hmethod, hcolumns⟩) dialect
  | update => exact appends_updateSql dialect q
  | delete => exact appends_deleteSql dialect q
  | _ =>
    rw [hmethod] at hwrite
    cases hwrite

theorem outcome_sql_of_passesReturning (h : q.PassesReturning) (dialect : Dialect) :
    (q.sql dialect).outcome = (q.unreturned.sql dialect).outcome := by
  obtain ⟨hmethod, hcolumns⟩ := h
  have hmethod' : q.unreturned.method = .insert := hmethod
  rw [sql_of_insert hmethod, sql_of_insert hmethod']
  exact outcome_insertSql_columnless hcolumns dialect

/-- Where nothing is written for what is to be returned, all writes are as if there were nothing to return. -/
theorem outcome_sql_unreturned (hwrite : isWrite q.method = true) (h : q.returningSql dialect = pure []) :
    (q.sql dialect).outcome = (q.unreturned.sql dialect).outcome := by
  by_cases hpasses : q.PassesReturning
  · exact outcome_sql_of_passesReturning hpasses dialect
  · have hnothing : q.appendReturning dialect = pure := by
      funext body
      rw [appendReturning, h, pure_bind, List.append_nil]
    have happends := appends_sql hwrite hpasses dialect
    rwa [Appends, hnothing, bind_pure] at happends

/-- An insert that is written passes over what is to be returned if its rows are without any column. -/
theorem passesReturning_iff {sql : Sql} (h : (q.sql dialect).outcome = .ok sql) (hne : sql ≠ []) :
    q.PassesReturning ↔ q.method = .insert ∧ q.InsertsEmptyRows := by
  refine and_congr_right fun hmethod => ?_
  rw [sql_of_insert hmethod] at h
  rcases parts_of_insertSql h with ⟨-, rfl⟩ | ⟨item, items, table, hitems, hrows, -, -⟩
  · exact absurd rfl hne
  · rw [columnUnion_of_ofValues hrows, InsertsEmptyRows, hitems]
    simp

/-! ### Statements -/

/-- The statement is the one that returns nothing, and behind it stands, for the only time, what is returned. -/
def EndsReturning (dialect : Dialect) (q : Query) (columns : List Value) (statement : Statement) : Prop :=
  ∃ body written, (q.unreturned.sql dialect).outcome = .ok body ∧ body.ReturnsNothing ∧
    (dialect.columnize columns q.context).outcome = .ok written ∧ written.ReturnsNothing ∧
    statement = q.statementOf (body ++ (Sql.code " returning " ++ written))

theorem returningSql_eq_ok (hsupported : dialect.supportsReturning = true) {columns : List Value}
    (hcolumns : q.returning = .ok columns) (hsome : columns ≠ []) {sql : Sql} :
    (q.returningSql dialect).outcome = .ok sql ↔
      ∃ written, (dialect.columnize columns q.context).outcome = .ok written ∧
        sql = Sql.code " returning " ++ written := by
  have hgiven : (!q.returning.areGiven || !dialect.supportsReturning) = false := by
    obtain ⟨column, columns, rfl⟩ := List.exists_cons_of_ne_nil hsome
    rw [hcolumns, hsupported]
    rfl
  have hopened : q.returningSql dialect =
      dialect.columnize columns q.context >>= fun written => pure (Sql.code " returning " ++ written) := by
    rw [returningSql, hgiven, hcolumns]
    rfl
  rw [hopened, bind_outcome_eq_ok]
  simp [eq_comm]

/-- Every write that is not passed over ends with what it returns. -/
theorem endsReturning_of_sql (hwrite : isWrite q.method = true) (hpasses : ¬ q.PassesReturning)
    (hsupported : dialect.supportsReturning = true) {columns : List Value} (hcolumns : q.returning = .ok columns)
    (hsome : columns ≠ []) {sql : Sql} (h : (q.sql dialect).outcome = .ok sql) :
    q.EndsReturning dialect columns (q.statementOf sql) := by
  rw [appends_sql hwrite hpasses dialect] at h
  obtain ⟨body, hbody, h⟩ := bind_outcome_eq_ok.mp h
  obtain ⟨returning, hreturning, h⟩ := bind_outcome_eq_ok.mp h
  obtain rfl := Except.ok.inj h
  obtain ⟨written, hwritten, rfl⟩ := (returningSql_eq_ok hsupported hcolumns hsome).mp hreturning
  exact ⟨body, written, hbody, returnsNothing_sql (q := q.unreturned) hwrite rfl hbody, hwritten,
    returnsNothing_naming (Dialect.naming_of_columnize hwritten), rfl⟩

theorem not_endsReturning_of_passes (hpasses : q.PassesReturning) {sql : Sql}
    (h : (q.sql dialect).outcome = .ok sql) (columns : List Value) :
    ¬ q.EndsReturning dialect columns (q.statementOf sql) := by
  rintro ⟨body, written, hbody, -, -, -, hstatement⟩
  rw [outcome_sql_of_passesReturning hpasses dialect] at h
  obtain rfl : sql = body := Except.ok.inj (h.symm.trans hbody)
  -- the statement would be longer than itself
  have htext : sql.text = sql.text ++ (" returning " ++ written.text) := by
    simpa [statementOf, Statement.ofSql] using congrArg Statement.sql hstatement
  have hlength := congrArg String.length htext
  rw [String.length_append, String.length_append] at hlength
  have hword : " returning ".length = 11 := by decide
  omega

/-- Where rows can be returned, what a write returns stands behind it, unless it is an insert of rows without any
column, which leaves that out. Where they cannot, or where nothing is to be returned, the write is as if it
had not been asked for anything. -/
theorem endsReturning_iff (hwrite : isWrite q.method = true) :
    (∀ columns statement, dialect.supportsReturning = true → q.returning = .ok columns → columns ≠ [] →
      (q.compile dialect).outcome = .ok statement → statement.sql ≠ .text "" →
      (q.EndsReturning dialect columns statement ↔ ¬ (q.method = .insert ∧ q.InsertsEmptyRows))) ∧
    (dialect.supportsReturning = false ∨ q.returning = .ok [] →
      (q.compile dialect).outcome = (q.unreturned.compile dialect).outcome) := by
  refine ⟨fun columns statement hsupported hcolumns hsome h hne => ?_, fun hnone => ?_⟩
  · obtain ⟨sql, hsql, h⟩ := bind_outcome_eq_ok.mp h
    obtain rfl := Except.ok.inj h
    have hwritten : sql ≠ [] := by
      rintro rfl
      exact hne rfl
    rw [← passesReturning_iff hsql hwritten]
    by_cases hpasses : q.PassesReturning
    · exact iff_of_false (not_endsReturning_of_passes hpasses hsql columns) (fun h => h hpasses)
    · exact iff_of_true (endsReturning_of_sql hwrite hpasses hsupported hcolumns hsome hsql) hpasses
  · have hnothing : q.returningSql dialect = pure [] := by
      rcases hnone with hunsupported | hempty
      · exact returningSql_of_unsupported hunsupported
      · exact returningSql_of_none hempty
    rw [compile, compile, outcome_bind, outcome_bind, outcome_sql_unreturned hwrite hnothing]
    rfl

/-- An update of one row, which is to be returned in part. -/
def returningUpdate : Query :=
  { table := .text "users"
    method := .update
    payload := .dict [(.text "age", .int 3)]
    filter := some (.node .and false [.lookup "id" (.int 7)])
    returning := .ok [.text "id", .text "age as years"] }

theorem returningUpdate_endsReturning :
    let columns : List Value := [.text "id", .text "age as years"]
    let statement : Statement := {
      sql := .text "update \"users\" set \"age\" = ? where \"id\" = ? returning \"id\", \"age\" as \"years\""
      bindings := [.int 3, .int 7]
      method := .update }
    isWrite returningUpdate.method = true ∧ (Dialect.ansi true).supportsReturning = true ∧
      returningUpdate.returning = .ok columns ∧ columns ≠ [] ∧
      (returningUpdate.compile (.ansi true)).outcome = .ok statement ∧ statement.sql ≠ .text "" ∧
      (returningUpdate.EndsReturning (.ansi true) columns statement ↔
        ¬ (returningUpdate.method = .insert ∧ returningUpdate.InsertsEmptyRows)) ∧
      (Dialect.snowflake true none).supportsReturning = false ∧
      (returningUpdate.compile (.snowflake true none)).outcome =
        (returningUpdate.unreturned.compile (.snowflake true none)).outcome := by
  intro columns statement
  have hsome : columns ≠ [] := List.cons_ne_nil _ _
  have hcompiled : (returningUpdate.compile (.ansi true)).outcome = .ok statement := rfl
  have hwritten : statement.sql ≠ .text "" := by simp [statement]
  obtain ⟨hends, -⟩ := @endsReturning_iff (.ansi true) returningUpdate rfl
  obtain ⟨-, hunsupported⟩ := @endsReturning_iff (.snowflake true none) returningUpdate rfl
  exact ⟨rfl, rfl, rfl, hsome, hcompiled, hwritten, hends columns statement rfl rfl hsome hcompiled hwritten, rfl,
    hunsupported (.inl rfl)⟩

/-- An insert of one row without any column, which is to be returned in part. -/
def returningDefaults : Query :=
  { table := .text "t", method := .insert, payload := .list [.dict []], returning := .ok [.text "id"] }

/-- It is written as if there were nothing to return. -/
theorem returningDefaults_left_out :
    let statement : Statement := { sql := .text "insert into \"t\" default values", method := .insert }
    (Dialect.ansi true).supportsReturning = true ∧
      ((Dialect.ansi true).columnize [.text "id"] .null).outcome = .ok [.name "\"id\""] ∧
      (returningDefaults.compile (.ansi true)).outcome = .ok statement ∧
      ¬ returningDefaults.EndsReturning (.ansi true) [.text "id"] statement := by
  intro statement
  have hrows : returningDefaults.rows = [[]] := @rows_of_toValue returningDefaults [[]] rfl
  have hpasses : returningDefaults.PassesReturning := by
    rw [PassesReturning, hrows]
    exact ⟨rfl, rfl⟩
  have hsql : (returningDefaults.sql (.ansi true)).outcome =
      .ok [.code "insert into ", .name "\"t\"", .code " default values"] := by
    rw [sql_insert rfl rfl (Row.ofValues_toValue [[]])]
    rfl
  exact ⟨rfl, rfl, bind_outcome_eq_ok.mpr ⟨_, hsql, rfl⟩, not_endsReturning_of_passes hpasses hsql [.text "id"]⟩

end Query

end SqlBuilder
