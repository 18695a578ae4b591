import SqlBuilder.Proofs.Schema.Entries

/-!
The statements of a migration in their order. Main statement: a migration is compiled change by change, and a
change of a table to the entries of the table that its actions describe.
-/

namespace SqlBuilder.Schema

open Recorded

variable {target : Target}

/-- The statements of a table are those of its entries. -/
def Table.LaidOut (target : Target) (table : Table) (output : List Statement) : Prop :=
  List.Forall₂ (fun entry statement => ∃ sql, Entry.Writes target table entry sql ∧
    statement = Statement.ofSql sql .schema) (table.entries target.dialect) output

/-- What a change is compiled to: the entries of the table that its actions describe, or one statement. -/
def Change.LaidOut (target : Target) (output : List Statement) : Change → Prop
  | .createTable name ifNotExists actions =>
    (({ name, ifNotExists } : Table).declare target.dialect actions).LaidOut target output
  | .alterTable name actions =>
    (({ name, isAltered := true } : Table).declare target.dialect actions).LaidOut target output
  | _ => ∃ statement, output = [statement]

theorem Table.laidOut_of_statements {table : Table} {actions : List TableAction} {output : List Statement}
    (h : (tableStatements target table actions).outcome = .ok output) :
    (table.declare target.dialect actions).LaidOut target output := by
  obtain ⟨sqls, rfl, hwrites⟩ := tableStatements_eq_ok h
  rw [LaidOut, List.forall₂_map_right_iff]
  exact hwrites.imp fun entry sql hwrites => ⟨sql, hwrites, rfl⟩

theorem Change.laidOut_of_statements {change : Change} {output : List Statement}
    (h : (change.statements target).outcome = .ok output) : change.LaidOut target output := by
  cases change with
  | createTable name ifNotExists actions => exact Table.laidOut_of_statements h
  | alterTable name actions => exact Table.laidOut_of_statements h
  | raw sql bindings => exact ⟨_, (Except.ok.inj h).symm⟩
  | renameTable old new =>
    obtain ⟨oldName, -, h⟩ := bind_outcome_eq_ok.mp h
    obtain ⟨newName, -, h⟩ := bind_outcome_eq_ok.mp h
    exact ⟨_, (Except.ok.inj h).symm⟩
  | _ =>
    obtain ⟨statement, -, h⟩ := bind_outcome_eq_ok.mp h
    exact ⟨_, (Except.ok.inj h).symm⟩

/-- What a migration is compiled to falls into what its changes are compiled to, in their order. For a table
that is, when it is created, the statement that creates it, the last comment that it was given and the comments
of its new columns; when it is altered, one statement that adds all new columns if there are any, for each
altered column its type and at most one statement on nulls, the comment of the table, and the comments of new and
then of altered columns. Further changes follow in their order, one statement each, but for indexes and
rejected keys. -/
theorem migration_laid_out (folds strict : Bool) (hook : Option Hook) {migration : Migration}
    {statements : List Statement}
    (h : (migration.statements (.snowflake folds hook) strict).outcome = .ok statements) :
    let target : Target := ⟨.snowflake folds hook, strict, migration.context⟩
    ∃ outputs, statements = outputs.flatten ∧
      List.Forall₂ (fun change output => (change.statements target).outcome = .ok output ∧
        change.LaidOut target output) migration.changes outputs := by
  obtain ⟨outputs, hflatten, hall⟩ := Migration.statements_eq_ok h
  exact ⟨outputs, hflatten,
    hall.imp fun change output houtput => ⟨houtput, Change.laidOut_of_statements houtput⟩⟩

/-- Calls on columns and on the table in turns: two comments, an index, a key that is rejected, and a column
that is altered before another one is added. -/
def interleaved : Migration where
  changes := [
    .createTable (.text "t") false [
      .comment (.text "first"),
      .column (.text "a") (.fixed .integer) [.comment (.text "it's"), .index .null],
      .further (.primary [.text "a"] .null),
      .column (.text "b") (.fixed .date) [.unique .null],
      .comment (.text "last")],
    .dropTable (.text "u") true,
    .alterTable (.text "t") [
      .column (.text "a") (.string .null) [.alter, .comment .null, .nullable],
      .further (.renameColumn (.text "b") (.text "d")),
      .comment (.text "new"),
      .column (.text "c") (.fixed .uuid) [.comment (.text "key"), .primary .null]]]

theorem interleaved_laid_out :
    let target : Target := { dialect := .snowflake true none }
    ∃ statements, (interleaved.statements (.snowflake true none) false).outcome = .ok statements ∧
      statements.filterMap (·.sql.text?) = [
        "create table \"T\" (\"A\" int, \"B\" date)",
        "comment on table \"T\" is 'last'",
        "comment on column \"T\".\"A\" is 'it''s'",
        "alter table \"T\" add constraint \"T_B_UNIQUE\" unique (\"B\")",
        "drop table if exists \"U\"",
        "alter table \"T\" add \"C\" char(36) not null",
        "alter table \"T\" alter column \"A\" set data type varchar(255)",
        "alter table \"T\" alter column \"A\" drop not null",
        "comment on table \"T\" is 'new'",
        "comment on column \"T\".\"C\" is 'key'",
        "comment on column \"T\".\"A\" is NULL",
        "alter table \"T\" rename column \"B\" to \"D\"",
        "alter table \"T\" add constraint \"T_PKEY\" primary key (\"C\")"] ∧
      ∃ outputs, statements = outputs.flatten ∧
        List.Forall₂ (fun change output => (change.statements target).outcome = .ok output ∧
          change.LaidOut target output) interleaved.changes outputs :=
  ⟨_, rfl, by decide +kernel, @migration_laid_out true false none interleaved _ rfl⟩

end SqlBuilder.Schema
