import SqlBuilder.Proofs.Schema.Entries
import SqlBuilder.Proofs.Sql.Text

/-!
The columns of a table in its statements. Main statement: each column is defined or altered by a statement under its
name, but for the altered columns of a table that is created, which make no difference to what is compiled.
-/

namespace SqlBuilder.Schema

open Recorded Sql

variable {target : Target} {table : Table} {column : Column}

/-! ### Statements on a column -/

/-- The statement creates the table with the column or adds it to the table, defined under its name, or alters it
by its name. -/
inductive Table.Defines (target : Target) (table : Table) (column : Column) : Sql → Prop
  | create {name columnName rest tail : Sql} {definitions : List Sql} :
      (table.nameSql target).outcome = .ok name →
      (column.wrappedName target.dialect target.context).outcome = .ok columnName →
      column.IsDefinedBy target table (columnName ++ (code " " ++ rest)) →
      columnName ++ (code " " ++ rest) ∈ definitions →
      Defines target table column
        (table.createHead ++ name ++ code " (" ++ separated ", " definitions ++ code ")" ++ tail)
  | add {name columnName rest : Sql} {definitions : List Sql} :
      (table.nameSql target).outcome = .ok name →
      (column.wrappedName target.dialect target.context).outcome = .ok columnName →
      column.IsDefinedBy target table (columnName ++ (code " " ++ rest)) →
      columnName ++ (code " " ++ rest) ∈ definitions →
      Defines target table column
        (code "alter table " ++ name ++ code " " ++
          separated ", " (definitions.map fun definition => code "add " ++ definition))
  | alter {name columnName type : Sql} :
      (table.nameSql target).outcome = .ok name →
      (column.wrappedName target.dialect target.context).outcome = .ok columnName →
      (column.typeSql target.dialect).outcome = .ok type →
      Defines target table column
        (code "alter table " ++ name ++ code " alter column " ++ columnName ++
          code (typeWord target.dialect) ++ type)

theorem Column.IsDefinedBy.eq_name_append {definition : Sql} (h : column.IsDefinedBy target table definition) :
    ∃ columnName rest, (column.wrappedName target.dialect target.context).outcome = .ok columnName ∧
      definition = columnName ++ (code " " ++ rest) := by
  obtain ⟨columnName, type, unsigned, comment, later, hname, -, -, -, rfl⟩ := h.exists_parts
  exact ⟨columnName, _, hname, separated_cons_cons ..⟩

namespace Table

theorem defines_of_writes_create {sql : Sql} (h : Entry.Writes target table .create sql)
    (hcolumn : column ∈ table.added) : table.Defines target column sql := by
  cases h with
  | create hname hdefinitions htail =>
    obtain ⟨definition, hmem, hdefined⟩ := exists_mem_of_forall₂ hdefinitions hcolumn
    obtain ⟨columnName, rest, hcolumnName, rfl⟩ := hdefined.eq_name_append
    exact .create hname hcolumnName hdefined hmem

theorem defines_of_writes_add {sql : Sql} (h : Entry.Writes target table .add sql)
    (hcolumn : column ∈ table.added) : table.Defines target column sql := by
  cases h with
  | add hname hdefinitions =>
    obtain ⟨definition, hmem, hdefined⟩ := exists_mem_of_forall₂ hdefinitions hcolumn
    obtain ⟨columnName, rest, hcolumnName, rfl⟩ := hdefined.eq_name_append
    exact .add hname hcolumnName hdefined hmem

theorem defines_of_writes_setType {sql : Sql} (h : Entry.Writes target table (.setType column) sql) :
    table.Defines target column sql := by
  cases h with
  | setType hname hcolumnName htype => exact .alter hname hcolumnName htype

theorem setType_mem_alterEntries (dialect : Dialect) (column : Column) :
    Entry.setType column ∈ column.alterEntries dialect := by
  cases dialect <;> simp [Column.alterEntries]

/-- There is an entry for each column, unless it is altered where the table is created. -/
theorem exists_entry (hcolumn : column ∈ table.columns)
    (hmode : table.isAltered = true ∨ column.isAltered = false) :
    ∃ entry ∈ table.entries target.dialect,
      ∀ sql, Entry.Writes target table entry sql → table.Defines target column sql := by
  cases haltered : column.isAltered with
  | false =>
    have hadded : column ∈ table.added := List.mem_filter.mpr ⟨hcolumn, by simp [haltered]⟩
    cases hmode' : table.isAltered with
    | false =>
      refine ⟨.create, ?_, fun sql hsql => defines_of_writes_create hsql hadded⟩
      simp [entries, hmode', createEntries]
    | true =>
      refine ⟨.add, ?_, fun sql hsql => defines_of_writes_add hsql hadded⟩
      have hsome : table.added.isEmpty = false := by
        rw [List.isEmpty_eq_false_iff]
        exact List.ne_nil_of_mem hadded
      simp [entries, hmode', alterEntries, addEntries, hsome]
  | true =>
    have hmode' : table.isAltered = true := by simpa [haltered] using hmode
    have hcolumn : column ∈ table.altered := List.mem_filter.mpr ⟨hcolumn, haltered⟩
    refine ⟨.setType column, ?_, fun sql hsql => defines_of_writes_setType hsql⟩
    have hmem : Entry.setType column ∈ table.altered.flatMap (Column.alterEntries target.dialect) :=
      List.mem_flatMap.mpr ⟨column, hcolumn, setType_mem_alterEntries target.dialect column⟩
    simp [entries, hmode', alterEntries, hmem]

/-! ### Columns that are not looked at -/

section

variable {columns : List Column} (hadded : ({ table with columns } : Table).added = table.added)

include hadded

theorem nullableKey?_withColumns (names : List Value) :
    nullableKey? { table with columns } names = table.nullableKey? names := by
  induction names with
  | nil => rfl
  | cons name names ih =>
    rw [nullableKey?, nullableKey?, ih, addedNamed?, addedNamed?, hadded]

/-- Of the columns, further changes look at the new ones only. -/
theorem changeStatements_withColumns :
    changeStatements target { table with columns } = table.changeStatements target := by
  funext change
  cases change with
  | primary names key =>
    rw [changeStatements, changeStatements, primary, primary, nullableKey?_withColumns hadded]
    rfl
  | _ => rfl

theorem createStatements_withColumns :
    createStatements target { table with columns } = table.createStatements target := by
  rw [createStatements, createStatements, hadded]
  rfl

end

theorem added_withAdded (table : Table) : ({ table with columns := table.added } : Table).added = table.added := by
  simp [added]

theorem statements_withAdded (hmode : table.isAltered = false) :
    table.statements target = statements target { table with columns := table.added } := by
  have hadded := added_withAdded table
  have hcreated : ¬ table.isAltered = true := by simp [hmode]
  rw [statements, statements, if_neg hcreated, if_neg hcreated, createStatements_withColumns hadded,
    changeStatements_withColumns hadded]

/-- Whatever columns a definition gives a table, whose compilation succeeds: each of them is defined or altered by
a statement under its name as it is written, unless it is an altered column and the table is created. Those columns
are lost: the table is compiled, with the same statements and the same log, as if they were not there. -/
theorem columns_defined_or_lost {actions : List TableAction} {output : List Statement}
    (h : (tableStatements target table actions).outcome = .ok output) :
    let built := table.declare target.dialect actions
    (∀ column ∈ built.columns, built.isAltered = true ∨ column.isAltered = false →
      ∃ sql, built.Defines target column sql ∧ Statement.ofSql sql .schema ∈ output) ∧
    (built.isAltered = false →
      built.statements target = statements target { built with columns := built.added }) := by
  intro built
  refine ⟨fun column hcolumn hmode => ?_, statements_withAdded⟩
  obtain ⟨entry, hentry, hdefines⟩ := exists_entry hcolumn hmode
  obtain ⟨sql, hwritten, hsql⟩ := exists_statement_of_entry h hentry
  exact ⟨sql, hdefines sql hwritten, hsql⟩

/-- New and altered columns in turns, in a table that exists already. -/
def mixedActions : List TableAction := [
  .column (.text "a") (.fixed .integer) [.alter],
  .column (.text "b") (.string (.int 9)) [.notNullable],
  .timestamps (.bool true) false [.alter],
  .column (.text "c") (.fixed .date) []]

theorem mixedActions_defined :
    let target : Target := { dialect := .snowflake true none }
    let start : Table := { name := .text "t", isAltered := true }
    let built := start.declare target.dialect mixedActions
    ∃ output, (tableStatements target start mixedActions).outcome = .ok output ∧
      output.filterMap (·.sql.text?) = [
        "alter table \"T\" add \"B\" varchar(9) not null, add \"C\" date",
        "alter table \"T\" alter column \"A\" set data type int",
        "alter table \"T\" alter column \"CREATED_AT\" set data type timestamp_tz",
        "alter table \"T\" alter column \"UPDATED_AT\" set data type timestamp_tz"] ∧
      (∀ column ∈ built.columns, built.isAltered = true ∨ column.isAltered = false →
        ∃ sql, built.Defines target column sql ∧ Statement.ofSql sql .schema ∈ output) ∧
      (built.isAltered = false →
        built.statements target = statements target { built with columns := built.added }) := by
  intro target start built
  exact ⟨_, rfl, by decide +kernel, @columns_defined_or_lost target start mixedActions _ rfl⟩

/-- A table that is created with a new column and an altered one: nothing is compiled for the second, and nothing
is logged. -/
theorem altered_column_lost :
    let target : Target := { dialect := .snowflake true none }
    let actions : List TableAction := [.column (.text "a") (.fixed .integer) [.alter],
      .column (.text "b") (.fixed .integer) []]
    tableStatements target { name := .text "t" } actions =
      ⟨.ok [{ sql := .text "create table \"T\" (\"B\" int)", method := .schema }], []⟩ := by
  rfl

end Table

end SqlBuilder.Schema
