import SqlBuilder.Proofs.Dialect.Hookless
import SqlBuilder.Proofs.Query.Naming
import SqlBuilder.Proofs.Query.Rows
import SqlBuilder.Proofs.Recorded.Relation

/-!
What the two dialects make of one query. Main statement: where nothing is folded and no hook is asked, they
fail alike, and what they compile differs in locks, in the word of a truncation and in rows without columns
alone.
-/

namespace SqlBuilder

open Recorded

/-! ### What does not depend on the dialect -/

namespace Dialect

variable (supportsReturning : Bool)

theorem wrap_snowflake : (snowflake false none).wrap = (ansi supportsReturning).wrap := by
  funext reference context
  rw [wrap_eq (hookless_snowflake false), wrap_eq (hookless_ansi supportsReturning)]
  rfl

theorem wrapValue_snowflake : (snowflake false none).wrapValue = (ansi supportsReturning).wrapValue := by
  funext reference context
  rw [wrapValue, wrapValue, wrap_snowflake supportsReturning]

theorem columnize_snowflake : (snowflake false none).columnize = (ansi supportsReturning).columnize := by
  funext columns context
  rw [columnize, columnize, wrapValue_snowflake supportsReturning]

end Dialect

namespace Filter

variable (supportsReturning : Bool) (context : Value)

theorem compileLookup_snowflake (key : String) (operand : Value) :
    compileLookup (.snowflake false none) context key operand =
      compileLookup (.ansi supportsReturning) context key operand := by
  rw [compileLookup, compileLookup, Dialect.wrap_snowflake supportsReturning]

mutual

theorem compile_snowflake : ∀ filter : Filter,
    compile (.snowflake false none) context filter = compile (.ansi supportsReturning) context filter
  | .lookup key operand => by rw [compile, compile, compileLookup_snowflake supportsReturning]
  | .other value => rfl
  | .node connector negated children => by rw [compile, compile, compileEach_snowflake children]
termination_by structural filter => filter

theorem compileEach_snowflake : ∀ children : List Filter,
    compileEach (.snowflake false none) context children =
      compileEach (.ansi supportsReturning) context children
  | [] => rfl
  | child :: children => by
    rw [compileEach, compileEach, compile_snowflake child, compileEach_snowflake children]
termination_by structural children => children

end

end Filter

namespace Query

variable (q : Query)

theorem tableSql_snowflake : q.tableSql (.snowflake false none) = q.tableSql (.ansi false) := by
  rw [tableSql, tableSql, Dialect.wrapValue_snowflake false]

theorem whereSql_snowflake : q.whereSql (.snowflake false none) = q.whereSql (.ansi false) := by
  unfold whereSql
  simp only [Filter.compile_snowflake false]

theorem orderingSql_snowflake : q.orderingSql (.snowflake false none) = q.orderingSql (.ansi false) := by
  have horder : q.orderSql (.snowflake false none) = q.orderSql (.ansi false) := by
    funext field
    rw [orderSql, orderSql, Dialect.wrap_snowflake false]
  rw [orderingSql, orderingSql, horder]

theorem assignmentSql_snowflake : q.assignmentSql (.snowflake false none) = q.assignmentSql (.ansi false) := by
  funext assignment
  rw [assignmentSql, assignmentSql, Dialect.wrapValue_snowflake false]

theorem returningSql_snowflake : q.returningSql (.snowflake false none) = q.returningSql (.ansi false) := by
  unfold returningSql
  simp [Dialect.supportsReturning]

theorem relates_writeTail : Relates Eq (q.writeTail (.ansi false)) (q.writeTail (.snowflake false none)) := by
  rw [writeTail, writeTail, whereSql_snowflake, returningSql_snowflake]
  refine relates_bind_same _ fun condition _ => relates_bind_same _ fun returning _ => ?_
  exact relates_bind_ok (outcome_warnReturning q _) (outcome_warnReturning q _) (relates_ok rfl rfl rfl)

/-! ### Statements -/

/-- How a row lock is asked for, at the end of a statement. -/
def lockSuffix : Option Lock → String
  | none => ""
  | some .update => " for update"
  | some .share => " for share"

/-- Rows are given, and none of them has a member. -/
def InsertsEmptyRows (q : Query) : Prop :=
  ∃ rows, q.payload.toItemsIfTrue = .ok rows ∧ rows ≠ [] ∧ ∀ row ∈ rows, row.items? = some []

/-- How the plain text of a statement differs from the other one. -/
def Differs (q : Query) (plain other : String) : Prop :=
  match q.method with
  | .select | .first | .pluck => plain = other ++ lockSuffix q.lock
  | .truncate => ∃ table, (q.tableSql (.ansi false)).outcome = .ok table ∧
      plain = "truncate table " ++ table.text ∧ other = "truncate " ++ table.text
  | .insert =>
    (q.InsertsEmptyRows ∧ ∃ table, (q.tableSql (.ansi false)).outcome = .ok table ∧
        plain = "insert into " ++ table.text ++ " default values" ∧ other = "") ∨
      (¬ q.InsertsEmptyRows ∧ plain = other)
  | _ => plain = other

/-- The same values are bound, in texts that differ as they may. -/
def Corresponds (q : Query) (plain other : Sql) : Prop :=
  plain.bindings = other.bindings ∧ q.Differs plain.text other.text

theorem lockSql_ansi : (q.lockSql (.ansi false)).outcome = .ok (match q.lock with
    | none => []
    | some .update => [Sql.code "for update"]
    | some .share => [Sql.code "for share"]) := by
  unfold lockSql
  cases q.lock with
  | none => rfl
  | some lock => cases lock <;> rfl

theorem lockSql_snowflake : (q.lockSql (.snowflake false none)).outcome = .ok [] := by
  unfold lockSql
  cases q.lock with
  | none => rfl
  | some lock => cases lock <;> rfl

/-- A lock is one more part at the end. -/
theorem text_separated_lock {parts : List Sql} (hparts : parts ≠ []) (lock : Option Lock) :
    let locked := Sql.separated " " (parts ++ match lock with
      | none => []
      | some .update => [Sql.code "for update"]
      | some .share => [Sql.code "for share"])
    locked.bindings = (Sql.separated " " parts).bindings ∧
      locked.text = (Sql.separated " " parts).text ++ lockSuffix lock := by
  cases lock with
  | none => simp [lockSuffix]
  | some lock =>
    cases lock with
    | update =>
      simp only [Sql.separated_append_singleton " " hparts]
      simp [lockSuffix]
    | share =>
      simp only [Sql.separated_append_singleton " " hparts]
      simp [lockSuffix]

theorem relates_selectSql (hdiffers : ∀ plain other, q.Differs plain other ↔ plain = other ++ lockSuffix q.lock) :
    Relates q.Corresponds (q.selectSql (.ansi false)) (q.selectSql (.snowflake false none)) := by
  rw [selectSql, selectSql, Dialect.columnize_snowflake false, tableSql_snowflake, whereSql_snowflake,
    orderingSql_snowflake]
  refine relates_bind_same _ fun given _ => relates_bind_same _ fun columns _ =>
    relates_bind_same _ fun table _ => relates_bind_same _ fun condition _ =>
    relates_bind_same _ fun ordering _ => relates_bind_same _ fun limit _ => ?_
  refine relates_bind_ok (lockSql_ansi q) (lockSql_snowflake q) (relates_ok rfl rfl ?_)
  have hlocked := text_separated_lock (List.cons_ne_nil (Sql.code "select " ++ columns)
    ([Sql.code "from", table] ++ condition ++ ordering ++ limit)) q.lock
  rw [Corresponds, hdiffers, List.append_nil]
  exact hlocked

theorem relates_truncateSql (hdiffers : ∀ plain other, q.Differs plain other ↔
      ∃ table, (q.tableSql (.ansi false)).outcome = .ok table ∧
        plain = "truncate table " ++ table.text ∧ other = "truncate " ++ table.text) :
    Relates q.Corresponds (q.truncateSql (.ansi false)) (q.truncateSql (.snowflake false none)) := by
  rw [truncateSql, truncateSql, tableSql_snowflake]
  refine relates_bind_same _ fun table htable => relates_ok rfl rfl ?_
  rw [Corresponds, hdiffers]
  exact ⟨by simp, table, htable, by simp, by simp⟩

theorem relates_setSql (values : List (Value × Value)) :
    Relates Eq (q.setSql (.ansi false) values) (q.setSql (.snowflake false none) values) := by
  rw [setSql, setSql, assignmentSql_snowflake, tableSql_snowflake]
  refine relates_bind_same _ fun assignments _ => relates_bind_same _ fun table _ => ?_
  refine q.relates_writeTail.bind fun tail tail' _ _ htail => ?_
  rw [htail]
  exact relates_ok rfl rfl rfl

theorem relates_updateSql : Relates Eq (q.updateSql (.ansi false)) (q.updateSql (.snowflake false none)) := by
  unfold updateSql
  split
  · exact .inl ⟨_, rfl, rfl⟩
  · split
    · exact q.relates_setSql _
    · exact .inl ⟨_, rfl, rfl⟩

theorem relates_deleteSql : Relates Eq (q.deleteSql (.ansi false)) (q.deleteSql (.snowflake false none)) := by
  rw [deleteSql, deleteSql, tableSql_snowflake]
  refine relates_bind_same _ fun table _ => ?_
  refine q.relates_writeTail.bind fun tail tail' _ _ htail => ?_
  rw [htail]
  exact relates_ok rfl rfl rfl

theorem relates_insertRowsSql {rows : List Row} (h : columnUnion rows ≠ []) (table : Sql) :
    Relates Eq (q.insertRowsSql (.ansi false) table rows)
      (q.insertRowsSql (.snowflake false none) table rows) := by
  rw [insertRowsSql_columns q h, insertRowsSql_columns q h, Dialect.columnize_snowflake false, returningSql_snowflake]
  refine relates_bind_same _ fun names _ => relates_bind_same _ fun returning _ => ?_
  exact relates_bind_ok (outcome_warnReturning q _) (outcome_warnReturning q _) (relates_ok rfl rfl rfl)

theorem relates_insertSql (hdiffers : ∀ plain other, q.Differs plain other ↔
      (q.InsertsEmptyRows ∧ ∃ table, (q.tableSql (.ansi false)).outcome = .ok table ∧
        plain = "insert into " ++ table.text ++ " default values" ∧ other = "") ∨
      (¬ q.InsertsEmptyRows ∧ plain = other)) :
    Relates q.Corresponds (q.insertSql (.ansi false)) (q.insertSql (.snowflake false none)) := by
  rw [insertSql, insertSql, tableSql_snowflake]
  refine relates_bind_same _ fun values hvalues => ?_
  have hempty : q.InsertsEmptyRows ↔ values ≠ [] ∧ ∀ row ∈ values, row.items? = some [] := by
    simp [InsertsEmptyRows, show q.payload.toItemsIfTrue = .ok values from hvalues]
  cases values with
  | nil =>
    refine relates_ok rfl rfl ⟨rfl, ?_⟩
    rw [hdiffers, hempty]
    simp
  | cons value values =>
    refine relates_bind_same _ fun table htable => relates_bind_same _ fun rows hrows => ?_
    have hcolumns := columnUnion_of_ofValues hrows
    by_cases hnone : columnUnion rows = []
    · rw [insertRowsSql_empty q hnone, insertRowsSql_empty q hnone]
      refine relates_ok rfl rfl ⟨?_, ?_⟩
      · simp [Sql.bindings_of_naming (naming_of_tableSql htable)]
        rfl
      · rw [hdiffers, hempty, ← hcolumns]
        exact .inl ⟨⟨List.cons_ne_nil _ _, hnone⟩, table, htable, by simp [String.append_assoc], rfl⟩
    · refine (q.relates_insertRowsSql hnone table).mono fun sql sql' hsql => ?_
      rw [← hsql]
      refine ⟨rfl, (hdiffers _ _).mpr (.inr ⟨?_, rfl⟩)⟩
      rw [hempty, ← hcolumns]
      exact fun h => hnone h.2

theorem relates_sql : Relates q.Corresponds (q.sql (.ansi false)) (q.sql (.snowflake false none)) := by
  unfold Query.sql
  cases hmethod : q.method with
  | select | first | pluck => exact q.relates_selectSql fun plain other => by rw [Differs, hmethod]
  | insert => exact q.relates_insertSql fun plain other => by rw [Differs, hmethod]
  | truncate => exact q.relates_truncateSql fun plain other => by rw [Differs, hmethod]
  | update =>
    refine q.relates_updateSql.mono fun sql sql' hsql => ?_
    rw [← hsql]
    exact ⟨rfl, by rw [Differs, hmethod]⟩
  | delete =>
    refine q.relates_deleteSql.mono fun sql sql' hsql => ?_
    rw [← hsql]
    exact ⟨rfl, by rw [Differs, hmethod]⟩
  | raw | schema | other name => exact .inl ⟨_, rfl, rfl⟩

/-- A query that fails in one of the dialects fails alike in the other one. Else the two statements are the
same but for their texts, and these are the same but for a lock, for the word of a truncation, and for an
insert of rows without members, which only the plain dialect has a statement for. -/
theorem compile_relates_snowflake :
    Relates (fun plain other : Statement => ∃ text otherText, plain.sql = .text text ∧
        other = { plain with sql := .text otherText } ∧ q.Differs text otherText)
      (q.compile (.ansi false)) (q.compile (.snowflake false none)) := by
  rw [compile, compile]
  refine q.relates_sql.bind fun plain other _ _ hcorresponds => ?_
  obtain ⟨hbindings, hdiffers⟩ := hcorresponds
  refine relates_ok rfl rfl ⟨plain.text, other.text, rfl, ?_, hdiffers⟩
  simp only [Statement.ofSql, hbindings]

end Query

end SqlBuilder
