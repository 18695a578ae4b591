import SqlBuilder.Proofs.Recorded.Warnings
import SqlBuilder.Proofs.Schema.Columns

/-!
The modifiers of altered columns on Snowflake. Main statement: nullability and comment have a statement of their own
and a default is warned of, while a sign and a collation make no difference to what is compiled.
-/

namespace SqlBuilder.Schema

open Recorded

variable {target : Target} {table : Table} {column : Column}

namespace Column

/-- The column without its sign and its collation. -/
def reduced (column : Column) : Column :=
  { column with modifiers := { column.modifiers with isUnsigned := false, collation := none } }

def defaultWarning (column : Column) : String :=
  "Snowflake cannot change the default of existing column " ++ column.name.shown ++ "."

/-- Nullability and comment of the column, as far as they were set, are in a statement on it, and a default is in a
warning that names it. -/
structure Accounted (target : Target) (table : Table) (output : List Statement) (warnings : List String)
    (column : Column) : Prop where
  nullability : ∀ nullable, column.modifiers.nullable = some nullable →
    ∃ sql, Entry.Writes target table (.setNullability column nullable) sql ∧ Statement.ofSql sql .schema ∈ output
  comment : ∀ text, column.modifiers.comment = some text →
    ∃ sql, Entry.Writes target table (.columnComment column text) sql ∧ Statement.ofSql sql .schema ∈ output
  default : column.modifiers.default.isSome → column.defaultWarning ∈ warnings

end Column

namespace Table

/-! ### What is said of a modifier -/

theorem mem_entries_of_alterEntries {entry : Entry} (hmode : table.isAltered = true)
    (hcolumn : column ∈ table.altered)
    (hentry : entry ∈ column.alterEntries target.dialect ∨ entry ∈ column.commentEntries target.dialect) :
    entry ∈ table.entries target.dialect := by
  have hmem : entry ∈ table.alterEntries target.dialect := by
    rcases hentry with hentry | hentry
    · have haltered := List.mem_flatMap.mpr ⟨column, hcolumn, hentry⟩
      simp [alterEntries, haltered]
    · have hcomment := List.mem_flatMap.mpr ⟨column, hcolumn, hentry⟩
      simp [alterEntries, hcomment]
  simp [entries, hmode, hmem]

theorem mem_warnings_snowflakeAlter {result : List Sql × List Sql} (hdefault : column.modifiers.default.isSome)
    (h : (table.snowflakeAlter target column).outcome = .ok result) :
    column.defaultWarning ∈ (table.snowflakeAlter target column).warnings := by
  obtain ⟨columnName, hcolumnName, h⟩ := bind_outcome_eq_ok.mp h
  obtain ⟨name, hname, h⟩ := bind_outcome_eq_ok.mp h
  obtain ⟨type, htype, h⟩ := bind_outcome_eq_ok.mp h
  refine mem_warnings_bind_right hcolumnName (mem_warnings_bind_right hname (mem_warnings_bind_right htype ?_))
  simp only [hdefault, if_true]
  exact mem_warnings_bind_left List.mem_cons_self

variable {folds strict : Bool} {hook : Option Hook} {context : Value}

theorem mem_warnings_statements {sqls : List Sql} (hmode : table.isAltered = true)
    (hcolumn : column ∈ table.altered) (hdefault : column.modifiers.default.isSome)
    (h : (table.statements ⟨.snowflake folds hook, strict, context⟩).outcome = .ok sqls) :
    column.defaultWarning ∈ (table.statements ⟨.snowflake folds hook, strict, context⟩).warnings := by
  rw [statements, if_pos hmode] at h ⊢
  obtain ⟨main, hmain, -⟩ := bind_outcome_eq_ok.mp h
  obtain ⟨additions, hadditions, hmain⟩ := bind_outcome_eq_ok.mp hmain
  obtain ⟨results, hresults, -⟩ := bind_outcome_eq_ok.mp hmain
  obtain ⟨result, -, hresult⟩ := exists_mem_of_forall₂ (mapM_outcome_eq_ok.mp hresults) hcolumn
  have hwarned := mem_warnings_mapM hresults hcolumn (mem_warnings_snowflakeAlter hdefault hresult)
  exact mem_warnings_bind_left (mem_warnings_bind_right hadditions (mem_warnings_bind_left hwarned))

theorem mem_warnings_tableStatements {actions : List TableAction} {output : List Statement}
    (hmode : table.isAltered = true)
    (h : (tableStatements ⟨.snowflake folds hook, strict, context⟩ table actions).outcome = .ok output)
    (hcolumn : column ∈ (table.declare (.snowflake folds hook) actions).altered)
    (hdefault : column.modifiers.default.isSome) :
    column.defaultWarning ∈ (tableStatements ⟨.snowflake folds hook, strict, context⟩ table actions).warnings := by
  obtain ⟨built, hbuild, h⟩ := bind_outcome_eq_ok.mp h
  obtain rfl := build_eq_ok hbuild
  obtain ⟨sqls, hsqls, -⟩ := bind_outcome_eq_ok.mp h
  exact mem_warnings_bind_right hbuild
    (mem_warnings_bind_left (mem_warnings_statements hmode hcolumn hdefault hsqls))

/-! ### Modifiers that are not looked at -/

def reduceAltered (table : Table) : Table :=
  { table with columns := table.columns.map fun column => if column.isAltered then column.reduced else column }

/-- The columns of either kind are the same ones before and after. -/
theorem filter_columns_reduceAltered (kind : Bool → Bool) (table : Table) :
    table.reduceAltered.columns.filter (fun column => kind column.isAltered) =
      (table.columns.filter fun column => kind column.isAltered).map
        fun column => if column.isAltered then column.reduced else column := by
  rw [reduceAltered, List.filter_map]
  congr 2
  funext column
  cases h : column.isAltered <;> simp [h, Column.reduced]

theorem added_reduceAltered (table : Table) : table.reduceAltered.added = table.added := by
  have hadded := filter_columns_reduceAltered (!·) table
  rw [added, added, hadded, List.map_congr_left, List.map_id]
  intro column hcolumn
  have hnew : column.isAltered = false := by simpa using (List.mem_filter.mp hcolumn).2
  rw [if_neg (by simp [hnew]), id]

theorem altered_reduceAltered (table : Table) : table.reduceAltered.altered = table.altered.map Column.reduced := by
  have haltered := filter_columns_reduceAltered id table
  rw [altered, altered]
  refine haltered.trans (List.map_congr_left fun column hcolumn => ?_)
  have hold : column.isAltered = true := (List.mem_filter.mp hcolumn).2
  rw [if_pos hold]

theorem alterColumn_reduced (target : Target) (table : Table) (column : Column) :
    table.reduceAltered.alterColumn target column.reduced = table.alterColumn target column := by
  obtain ⟨dialect, strict, context⟩ := target
  cases dialect <;> rfl

theorem alterStatements_reduceAltered (target : Target) (table : Table) :
    table.reduceAltered.alterStatements target = table.alterStatements target := by
  have hadd : table.reduceAltered.addStatements target = table.addStatements target := by
    rw [addStatements, addStatements, added_reduceAltered]
    rfl
  have halter : table.reduceAltered.altered.mapM (table.reduceAltered.alterColumn target) =
      table.altered.mapM (table.alterColumn target) := by
    rw [altered_reduceAltered, List.mapM_map]
    exact congrArg (List.mapM · table.altered) (funext (alterColumn_reduced target table))
  rw [alterStatements, alterStatements, hadd, halter]
  rfl

/-- Whether the table is created or altered, signs and collations of its altered columns are not looked at. -/
theorem statements_reduceAltered (target : Target) (table : Table) :
    table.reduceAltered.statements target = table.statements target := by
  have hadded := added_reduceAltered table
  have hcreate : table.reduceAltered.createStatements target = table.createStatements target :=
    createStatements_withColumns hadded
  have hchanges : table.reduceAltered.changeStatements target = table.changeStatements target :=
    changeStatements_withColumns hadded
  rw [statements, statements, alterStatements_reduceAltered, hcreate, hchanges]
  rfl

/-- Whatever modifiers a definition gives the altered columns of a table that exists already: on Snowflake each
nullability and each comment is in a statement on its column, and each default in a warning that names it. The signs
and the collations are passed over: what is compiled and what is logged is the same without them. -/
theorem altered_modifiers_accounted {folds strict : Bool} {hook : Option Hook} {context : Value}
    {actions : List TableAction} {output : List Statement} (hmode : table.isAltered = true)
    (h : (tableStatements ⟨.snowflake folds hook, strict, context⟩ table actions).outcome = .ok output) :
    let target : Target := ⟨.snowflake folds hook, strict, context⟩
    let built := table.declare target.dialect actions
    (∀ column ∈ built.altered,
      column.Accounted target built output (tableStatements target table actions).warnings) ∧
    built.statements target = built.reduceAltered.statements target := by
  intro target built
  refine ⟨fun column hcolumn => ?_, (statements_reduceAltered target built).symm⟩
  have hstated : ∀ entry,
      entry ∈ column.alterEntries target.dialect ∨ entry ∈ column.commentEntries target.dialect →
      ∃ sql, Entry.Writes target built entry sql ∧ Statement.ofSql sql .schema ∈ output :=
    fun entry hentry => exists_statement_of_entry h (mem_entries_of_alterEntries hmode hcolumn hentry)
  constructor
  case nullability =>
    intro nullable hnullable
    exact hstated _ (.inl (by simp [Column.alterEntries, target, hnullable]))
  case comment =>
    intro text htext
    exact hstated _ (.inr (by simp [Column.commentEntries, target, htext]))
  case default =>
    exact fun hdefault => mem_warnings_tableStatements hmode h hcolumn hdefault

/-- An altered column with every modifier, next to a new one. -/
def modifiedActions : List TableAction := [
  .column (.text "a") (.fixed .text)
    [.unsigned, .alter, .notNullable, .defaultTo (.int 3), .comment (.text "c"), .collate (.text "de")],
  .column (.text "b") (.fixed .integer) []]

theorem modifiedActions_accounted :
    let target : Target := { dialect := .snowflake true none }
    let start : Table := { name := .text "t", isAltered := true }
    let built := start.declare target.dialect modifiedActions
    ∃ output, (tableStatements target start modifiedActions).outcome = .ok output ∧
      output.filterMap (·.sql.text?) = [
        "alter table \"T\" add \"B\" int",
        "alter table \"T\" alter column \"A\" set data type varchar(max)",
        "alter table \"T\" alter column \"A\" set not null",
        "comment on column \"T\".\"A\" is 'c'"] ∧
      (∀ column ∈ built.altered,
        column.Accounted target built output (tableStatements target start modifiedActions).warnings) ∧
      built.statements target = built.reduceAltered.statements target := by
  intro target start built
  exact ⟨_, rfl, by decide +kernel,
    @altered_modifiers_accounted start true false none .null modifiedActions _ rfl rfl⟩

/-- The sign and the collation of an altered column: nothing says them, and nothing is logged. -/
theorem altered_sign_ignored :
    let target : Target := { dialect := .snowflake true none }
    let actions : List TableAction :=
      [.column (.text "a") (.fixed .integer) [.unsigned, .collate (.text "de"), .alter]]
    tableStatements target { name := .text "t", isAltered := true } actions =
      ⟨.ok [{ sql := .text "alter table \"T\" alter column \"A\" set data type int", method := .schema }], []⟩ := by
  rfl

end Table

end SqlBuilder.Schema
