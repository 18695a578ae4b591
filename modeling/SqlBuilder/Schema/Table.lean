import SqlBuilder.Dialect
import SqlBuilder.Schema.Column

/-!
Tables under construction. A definition is a list of actions, which is carried out anew every time the
table is compiled.
-/

namespace SqlBuilder.Schema

/-- What a foreign key refers to, and what happens to it. -/
structure ForeignKey where
  columns : List Value
  table : Value
  references : List Value
  name : Value := .null
  onDelete : Value := .null
  onUpdate : Value := .null

/-- Changes to a table besides its columns; a name that counts as false is made up from the table's. -/
inductive TableChange where
  | primary (columns : List Value) (name : Value)
  | dropPrimary (name : Value)
  | unique (columns : List Value) (name : Value)
  | dropUnique (columns : List Value) (name : Value)
  | index (columns : List Value) (name kind : Value)
  | dropIndex (columns : List Value) (name : Value)
  | foreign (key : ForeignKey)
  | dropForeign (columns : List Value) (name : Value)
  | dropColumns (columns : List Value)
  | renameColumn (old new : Value)

inductive ColumnAction where
  | nullable
  | notNullable
  | defaultTo (value : Value)
  | comment (text : Value)
  | unsigned
  | collate (collation : Value)
  | alter
  | primary (name : Value)
  | unique (name : Value)
  | index (name : Value)
  /-- An action whose arguments make no sense. -/
  | failing (error : Error)

inductive TableAction where
  | column (name : Value) (type : ColumnType) (actions : List ColumnAction)
  | timestamps (zoned : Value) (defaultToNow : Bool) (actions : List ColumnAction)
  | further (change : TableChange)
  | comment (text : Value)
  | inherits (parent : Value)
  /-- An action whose arguments make no sense. -/
  | failing (error : Error)

/-- Names and texts are kept as they were given, and fail only where they are to be written. -/
structure Table where
  name : Value
  /-- The table exists already and is changed. -/
  isAltered : Bool := false
  ifNotExists : Bool := false
  columns : List Column := []
  changes : List TableChange := []
  comment : Option Value := none
  parent : Option Value := none

namespace Table

def added (table : Table) : List Column :=
  table.columns.filter (!·.isAltered)

def altered (table : Table) : List Column :=
  table.columns.filter (·.isAltered)

def addChange (change : TableChange) (table : Table) : Table :=
  { table with changes := table.changes ++ [change] }

end Table

def noIndexesWarning : String := "Snowflake does not support the creation of indexes."

/-- A column's keys and indexes are changes of its table. Snowflake refuses nullable keys, so there a
key makes its column not nullable, and it has no indexes. -/
def ColumnAction.apply (dialect : Dialect) (state : Table × Column) (action : ColumnAction) :
    Recorded (Table × Column) :=
  let (table, column) := state
  match action, dialect with
  | .nullable, _ => return (table, column.setNullable true)
  | .notNullable, _ => return (table, column.setNullable false)
  | .defaultTo value, _ => return (table, column.setDefault value)
  | .comment text, _ => return (table, column.setComment text)
  | .unsigned, _ => return (table, column.setUnsigned)
  | .collate collation, _ => return (table, column.setCollation collation)
  | .alter, _ => return (table, column.setAltered)
  | .primary name, .ansi _ => return (table.addChange (.primary [column.name] name), column)
  | .primary name, .snowflake .. =>
    return (table.addChange (.primary [column.name] name), column.setNullable false)
  | .unique name, _ => return (table.addChange (.unique [column.name] name), column)
  | .index name, .ansi _ => return (table.addChange (.index [column.name] name .null), column)
  | .index _, .snowflake .. => do
    Recorded.warn noIndexesWarning
    return (table, column)
  | .failing error, _ => .fail error

/-- One action on each of several columns. -/
def ColumnAction.applyEach (dialect : Dialect) (table : Table) (action : ColumnAction) :
    List Column → Recorded (Table × List Column)
  | [] => return (table, [])
  | column :: columns => do
    let (table, column) ← action.apply dialect (table, column)
    let (table, columns) ← ColumnAction.applyEach dialect table action columns
    return (table, column :: columns)

/-- The columns join the table after all actions on them. -/
def Table.addColumns (dialect : Dialect) (columns : List Column) (actions : List ColumnAction)
    (table : Table) : Recorded Table := do
  let (table, columns) ←
    actions.foldlM (fun state action => action.applyEach dialect state.1 state.2) (table, columns)
  return { table with columns := table.columns ++ columns }

def currentTimestamp : Dialect → String
  | .ansi _ => "CURRENT_TIMESTAMP"
  | .snowflake .. => "current_timestamp()"

def timestampColumn (dialect : Dialect) (zoned : Value) (defaultToNow : Bool) (name : String) : Column :=
  let column : Column := { name := .text name, type := .timestamp zoned .null }
  if defaultToNow then (column.setNullable false).setDefault (.raw (currentTimestamp dialect))
  else column

def createdAt : String := "created_at"

def updatedAt : String := "updated_at"

def TableAction.apply (dialect : Dialect) (table : Table) : TableAction → Recorded Table
  | .column name type actions => table.addColumns dialect [{ name, type }] actions
  | .timestamps zoned defaultToNow actions =>
    table.addColumns dialect ([createdAt, updatedAt].map (timestampColumn dialect zoned defaultToNow))
      actions
  | .further change => return table.addChange change
  | .comment text => return { table with comment := some text }
  | .inherits parent => return { table with parent := some parent }
  | .failing error => .fail error

def Table.build (dialect : Dialect) (table : Table) (actions : List TableAction) : Recorded Table :=
  actions.foldlM (TableAction.apply dialect) table

end SqlBuilder.Schema
