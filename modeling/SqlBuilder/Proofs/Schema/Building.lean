import SqlBuilder.Proofs.Recorded.Outcome
import SqlBuilder.Schema.Table

/-!
Tables as their definitions describe them. Main statement: a definition that can be carried out gives the
columns and the changes of its actions in their order, and of comments and of parents the last.
-/

namespace SqlBuilder.Schema

open Recorded

/-- What an action makes of the column that it is called on. -/
def ColumnAction.modify (dialect : Dialect) (column : Column) : ColumnAction → Column
  | .nullable => column.setNullable true
  | .notNullable => column.setNullable false
  | .defaultTo value => column.setDefault value
  | .comment text => column.setComment text
  | .unsigned => column.setUnsigned
  | .collate collation => column.setCollation collation
  | .alter => column.setAltered
  | .primary _ =>
    match dialect with
    | .ansi _ => column
    | .snowflake .. => column.setNullable false
  | .unique _ | .index _ | .failing _ => column

/-- What an action on a column of this name asks of its table. -/
def ColumnAction.changes (dialect : Dialect) (name : Value) : ColumnAction → List TableChange
  | .primary key => [.primary [name] key]
  | .unique key => [.unique [name] key]
  | .index key =>
    match dialect with
    | .ansi _ => [.index [name] key .null]
    | .snowflake .. => []
  | _ => []

namespace TableAction

/-- The columns that an action adds, before the actions on them. -/
def declared (dialect : Dialect) : TableAction → List Column
  | .column name type _ => [{ name, type }]
  | .timestamps zoned defaultToNow _ =>
    [createdAt, updatedAt].map (timestampColumn dialect zoned defaultToNow)
  | _ => []

def columnActions : TableAction → List ColumnAction
  | .column _ _ actions => actions
  | .timestamps _ _ actions => actions
  | _ => []

def columns (dialect : Dialect) (action : TableAction) : List Column :=
  (action.declared dialect).map fun column => action.columnActions.foldl (ColumnAction.modify dialect) column

def changes (dialect : Dialect) : TableAction → List TableChange
  | .further change => [change]
  | action => action.columnActions.flatMap fun columnAction =>
      (action.declared dialect).flatMap fun column => columnAction.changes dialect column.name

def comment? : TableAction → Option Value
  | .comment text => some text
  | _ => none

def parent? : TableAction → Option Value
  | .inherits parent => some parent
  | _ => none

end TableAction

/-- The table that a list of actions describes. -/
def Table.declare (dialect : Dialect) (table : Table) (actions : List TableAction) : Table :=
  { table with
    columns := table.columns ++ actions.flatMap (TableAction.columns dialect)
    changes := table.changes ++ actions.flatMap (TableAction.changes dialect)
    comment := (actions.filterMap TableAction.comment?).getLast?.or table.comment
    parent := (actions.filterMap TableAction.parent?).getLast?.or table.parent }

/-- The table with these changes after its own. -/
def Table.addChanges (table : Table) (changes : List TableChange) : Table :=
  { table with changes := table.changes ++ changes }

theorem Table.addChanges_nil (table : Table) : table.addChanges [] = table := by
  rw [addChanges, List.append_nil]

theorem Table.addChanges_addChanges (table : Table) (first second : List TableChange) :
    (table.addChanges first).addChanges second = table.addChanges (first ++ second) := by
  rw [addChanges, addChanges, addChanges, List.append_assoc]

variable {dialect : Dialect} {table : Table}

namespace ColumnAction

theorem name_modify (column : Column) (action : ColumnAction) :
    (action.modify dialect column).name = column.name := by
  cases action <;> cases dialect <;> rfl

theorem apply_eq_ok {action : ColumnAction} {column : Column} {result : Table × Column}
    (h : (action.apply dialect (table, column)).outcome = .ok result) :
    result = (table.addChanges (action.changes dialect column.name), action.modify dialect column) := by
  cases action <;> cases dialect <;> cases h <;> simp [changes, modify, Table.addChange, Table.addChanges]

theorem applyEach_eq_ok {action : ColumnAction} {columns : List Column} {result : Table × List Column}
    (h : (action.applyEach dialect table columns).outcome = .ok result) :
    result = (table.addChanges (columns.flatMap fun column => action.changes dialect column.name),
      columns.map fun column => action.modify dialect column) := by
  induction columns generalizing table result with
  | nil =>
    obtain rfl := Except.ok.inj h
    rw [List.flatMap_nil, Table.addChanges_nil]
    rfl
  | cons column columns ih =>
    obtain ⟨first, hfirst, h⟩ := bind_outcome_eq_ok.mp h
    obtain rfl := apply_eq_ok hfirst
    obtain ⟨rest, hrest, h⟩ := bind_outcome_eq_ok.mp h
    obtain rfl := ih hrest
    obtain rfl := Except.ok.inj h
    rw [Table.addChanges_addChanges]
    rfl

/-- Actions are carried out one after the other, each of them on all of the columns. -/
theorem foldlM_applyEach_eq_ok {actions : List ColumnAction} {columns : List Column}
    {result : Table × List Column}
    (h : (actions.foldlM (fun state action => applyEach dialect state.1 action state.2)
      (table, columns)).outcome = .ok result) :
    result = (table.addChanges (actions.flatMap fun action =>
        columns.flatMap fun column => action.changes dialect column.name),
      columns.map fun column => actions.foldl (modify dialect) column) := by
  induction actions generalizing table columns result with
  | nil =>
    obtain rfl := Except.ok.inj h
    rw [List.flatMap_nil, Table.addChanges_nil]
    simp
  | cons action actions ih =>
    rw [List.foldlM_cons] at h
    obtain ⟨state, hstate, h⟩ := bind_outcome_eq_ok.mp h
    obtain rfl := applyEach_eq_ok hstate
    obtain rfl := ih h
    rw [Table.addChanges_addChanges]
    simp [List.flatMap_map, name_modify, Function.comp_def]

end ColumnAction

namespace Table

theorem declare_nil (dialect : Dialect) (table : Table) : table.declare dialect [] = table := by
  simp [declare]

theorem declare_cons (dialect : Dialect) (table : Table) (action : TableAction) (actions : List TableAction) :
    (table.declare dialect [action]).declare dialect actions = table.declare dialect (action :: actions) := by
  have hsplit : action :: actions = [action] ++ actions := rfl
  rw [hsplit]
  simp only [declare, List.flatMap_append, List.filterMap_append, List.getLast?_append, List.append_assoc,
    Option.or_assoc]

theorem declare_singleton (dialect : Dialect) (table : Table) (action : TableAction) :
    table.declare dialect [action] = { table with
      columns := table.columns ++ action.columns dialect
      changes := table.changes ++ action.changes dialect
      comment := action.comment?.or table.comment
      parent := action.parent?.or table.parent } := by
  simp [declare]

theorem addColumns_eq_ok {columns : List Column} {actions : List ColumnAction} {result : Table}
    (h : (table.addColumns dialect columns actions).outcome = .ok result) :
    result = { table with
      columns := table.columns ++ columns.map fun column => actions.foldl (ColumnAction.modify dialect) column
      changes := table.changes ++ actions.flatMap fun action =>
        columns.flatMap fun column => action.changes dialect column.name } := by
  obtain ⟨state, hstate, h⟩ := bind_outcome_eq_ok.mp h
  obtain rfl := ColumnAction.foldlM_applyEach_eq_ok hstate
  exact (Except.ok.inj h).symm

theorem apply_eq_ok {action : TableAction} {result : Table}
    (h : (action.apply dialect table).outcome = .ok result) : result = table.declare dialect [action] := by
  cases action with
  | column | timestamps =>
    rw [addColumns_eq_ok h, declare_singleton]
    rfl
  | further | comment | inherits =>
    obtain rfl := Except.ok.inj h
    simp [declare_singleton, addChange, TableAction.columns, TableAction.changes, TableAction.declared,
      TableAction.columnActions, TableAction.comment?, TableAction.parent?]
  | failing error => cases h

/-- A definition that is carried out gives the table that its actions describe. -/
theorem build_eq_ok {actions : List TableAction} {built : Table}
    (h : (table.build dialect actions).outcome = .ok built) : built = table.declare dialect actions := by
  induction actions generalizing table with
  | nil =>
    rw [declare_nil]
    exact (Except.ok.inj h).symm
  | cons action actions ih =>
    rw [build, List.foldlM_cons] at h
    obtain ⟨next, hnext, h⟩ := bind_outcome_eq_ok.mp h
    obtain rfl := apply_eq_ok hnext
    rw [ih h, declare_cons]

end Table

end SqlBuilder.Schema
