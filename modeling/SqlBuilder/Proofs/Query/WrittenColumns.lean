import SqlBuilder.Proofs.Dialect.Coincidence
import SqlBuilder.Proofs.Query.Insertion

/-!
The columns that inserts and updates write to. Main statement: no column is written twice exactly if no two
of the given names are the same name for the database.
-/

namespace SqlBuilder.Query

open Name Recorded

/-- The columns as they were given. -/
def writtenColumns (q : Query) : List String :=
  match q.method with
  | .insert => columnUnion q.rows
  | .update => q.assignments.map (·.1)
  | _ => []

/-- The names stand in the column list of an insert, or before the values of an update. -/
def ListsColumns (q : Query) (names : List String) (text : String) : Prop :=
  match q.method with
  | .insert => ∃ table rest,
      text = "insert into " ++ table ++ " (" ++ ", ".intercalate names ++ ") values " ++ rest
  | .update => ∃ table rest,
      text = "update " ++ table ++ " set " ++ ", ".intercalate (List.zipWith
        (fun name assignment => name ++ " = " ++ (Sql.ofValue assignment.2).text) names q.assignments) ++ rest
  | _ => False

variable {dialect : Dialect} {q : Query}

theorem insert_listsColumns (hookless : dialect.Hookless) (hmethod : q.method = .insert)
    (hcolumns : columnUnion q.rows ≠ []) {statement : Statement}
    (h : (q.toStatement dialect).outcome = .ok statement) :
    ∃ text, statement.sql = .text text ∧
      q.ListsColumns ((columnUnion q.rows).map fun column => (dialect.written column).text) text := by
  obtain ⟨insertion, hholds, hsame, hsql, -⟩ := exists_insertion hmethod hcolumns h
  refine ⟨insertion.text, hsql, ?_⟩
  have hnames : insertion.names = (columnUnion q.rows).map fun column => (dialect.written column).text := by
    rw [← hsame]
    have hall := hholds.names
    generalize insertion.columns = columns, insertion.names = names at hall
    induction hall with
    | nil => rfl
    | cons hname _ ih =>
      obtain ⟨sql, hwritten, rfl⟩ := hname
      rw [Dialect.wrap_outcome hookless] at hwritten
      obtain rfl := Except.ok.inj hwritten
      rw [List.map_cons, ih]
  rw [ListsColumns, hmethod, ← hnames]
  refine ⟨insertion.table, ", ".intercalate (insertion.grid.map Insertion.tuple) ++ insertion.returning, ?_⟩
  change _ ++ _ ++ _ = _
  rw [String.append_assoc]

theorem update_listsColumns (hookless : dialect.Hookless) (hmethod : q.method = .update) {statement : Statement}
    (h : (q.toStatement dialect).outcome = .ok statement) :
    ∃ text, statement.sql = .text text ∧
      q.ListsColumns (q.assignments.map fun assignment => (dialect.written assignment.1).text) text := by
  rw [toStatement] at h
  split at h
  case isFalse => cases h
  obtain ⟨sql, hsql, h⟩ := bind_outcome_eq_ok.mp h
  obtain rfl := Except.ok.inj h
  rw [Query.sql, hmethod] at hsql
  change (q.updateSql dialect).outcome = .ok sql at hsql
  obtain ⟨entries, hentries, -, hsql⟩ := updateSql_eq_ok.mp hsql
  obtain ⟨parts, table, tail, hparts, -, -, rfl⟩ := setSql_eq_ok.mp hsql
  obtain rfl := assignments_written hookless hentries hparts
  refine ⟨_, rfl, ?_⟩
  rw [ListsColumns, hmethod]
  refine ⟨table.text, tail.text, ?_⟩
  have hassigned : (Sql.text ∘ fun assignment : String × Value =>
      dialect.written assignment.1 ++ Sql.code " = " ++ Sql.ofValue assignment.2) =
        fun assignment => (dialect.written assignment.1).text ++ " = " ++ (Sql.ofValue assignment.2).text :=
    funext fun assignment => by rw [Function.comp_apply, Sql.text_append, Sql.text_append, Sql.text_code]
  rw [Sql.text_append, Sql.text_append, Sql.text_append, Sql.text_append, Sql.text_separated, Sql.text_code,
    Sql.text_code, List.zipWith_map_left, List.zipWith_self, List.map_map, hassigned]

theorem nodup_written_iff (columns : List String) :
    (columns.map fun column => (dialect.written column).text).Nodup ↔
      columns.Pairwise fun a b =>
        ¬ dialect.SameReference (Reference.parse a.toList) (Reference.parse b.toList) := by
  rw [List.Nodup, List.pairwise_map]
  simp only [ne_eq, Dialect.text_written_eq_iff]

/-- An insert or update writes every column once exactly if no two of its columns are the same name for the
database. -/
theorem columns_written_once_iff (hookless : dialect.Hookless) {statement : Statement}
    (h : (q.toStatement dialect).outcome = .ok statement) (hcolumns : q.writtenColumns ≠ []) :
    ∃ text, statement.sql = .text text ∧
      q.ListsColumns (q.writtenColumns.map fun column => (dialect.written column).text) text ∧
      ((q.writtenColumns.map fun column => (dialect.written column).text).Nodup ↔
        q.writtenColumns.Pairwise fun a b =>
          ¬ dialect.SameReference (Reference.parse a.toList) (Reference.parse b.toList)) := by
  have hlists : ∃ text, statement.sql = .text text ∧
      q.ListsColumns (q.writtenColumns.map fun column => (dialect.written column).text) text := by
    cases hmethod : q.method with
    | insert =>
      simp only [writtenColumns, hmethod] at hcolumns ⊢
      exact insert_listsColumns hookless hmethod hcolumns h
    | update =>
      simp only [writtenColumns, hmethod, List.map_map]
      exact update_listsColumns hookless hmethod h
    | _ => simp [writtenColumns, hmethod] at hcolumns
  obtain ⟨text, hsql, hlists⟩ := hlists
  exact ⟨text, hsql, hlists, nodup_written_iff _⟩

/-- One column with its quotes and one that is folded. -/
def quotedUpdate : Query :=
  { table := .text "t", method := .update
    payload := .dict [(.text "\"id\"", .int 1), (.text "id", .raw "now()")] }

theorem quotedUpdate_columns :
    (Dialect.snowflake true none).Hookless ∧ quotedUpdate.writtenColumns ≠ [] ∧
    ∃ statement, (quotedUpdate.toStatement (.snowflake true none)).outcome = .ok statement ∧
      ∃ text, statement.sql = .text text ∧
        quotedUpdate.ListsColumns
          (quotedUpdate.writtenColumns.map fun column => ((Dialect.snowflake true none).written column).text)
          text ∧
        ((quotedUpdate.writtenColumns.map fun column =>
            ((Dialect.snowflake true none).written column).text).Nodup ↔
          quotedUpdate.writtenColumns.Pairwise fun a b =>
            ¬ (Dialect.snowflake true none).SameReference (Reference.parse a.toList)
              (Reference.parse b.toList)) := by
  have hcolumns : quotedUpdate.writtenColumns ≠ [] := by decide
  exact ⟨Dialect.hookless_snowflake true, hcolumns, _, rfl,
    columns_written_once_iff (Dialect.hookless_snowflake true) rfl hcolumns⟩

/-- Two rows that name one column in different cases. -/
def foldedRows : List Row :=
  [[("id", .int 1)], [("ID", .int 2)]]

def foldedInsert : Query :=
  { table := .text "t", method := .insert, payload := .list (foldedRows.map Row.toValue) }

/-- The names are told apart before they are folded, and so the column is written twice. -/
theorem foldedInsert_repeats :
    (foldedInsert.toStatement (.snowflake true none)).outcome = .ok {
      sql := .text "insert into \"T\" (\"ID\", \"ID\") values (DEFAULT, ?), (?, DEFAULT)"
      bindings := [.int 1, .int 2]
      method := .insert } ∧
    ¬ (foldedInsert.writtenColumns.map fun column =>
      ((Dialect.snowflake true none).written column).text).Nodup := by
  have hcolumns : foldedInsert.writtenColumns = ["ID", "id"] := by
    change columnUnion foldedInsert.rows = _
    rw [rows_of_toValue (q := foldedInsert) rfl]
    rfl
  have hupper : ((Dialect.snowflake true none).written "ID").text = "\"ID\"" := by
    rw [Dialect.written]
    rfl
  have hlower : ((Dialect.snowflake true none).written "id").text = "\"ID\"" := by
    rw [Dialect.written]
    rfl
  constructor
  · rw [foldedInsert, foldedRows, toStatement_insert rfl rfl rfl]
    rfl
  · rw [hcolumns, List.map_cons, List.map_cons, hupper, hlower]
    decide

end SqlBuilder.Query
