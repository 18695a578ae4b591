import SqlBuilder.Schema.TableSql

/-!
Migrations: lists of changes to a database, compiled together in their order.
-/

namespace SqlBuilder.Schema

inductive Change where
  | createTable (name : Value) (ifNotExists : Bool) (actions : List TableAction)
  | alterTable (name : Value) (actions : List TableAction)
  | dropTable (name : Value) (ifExists : Bool)
  | renameTable (old new : Value)
  | hasTable (name : Value)
  | hasColumn (table column : Value)
  /-- Null asks for all columns. -/
  | columnInfo (table column : Value)
  | createSchema (name : Value) (ifNotExists : Bool)
  | dropSchema (name : Value) (ifExists cascade : Bool)
  | raw (sql : Value) (bindings : List Value)

structure Migration where
  changes : List Change := []
  context : Value := .null

namespace Migration

def add (change : Change) (migration : Migration) : Migration :=
  { migration with changes := migration.changes ++ [change] }

def inContext (context : Value) (migration : Migration) : Migration :=
  { migration with context }

end Migration

/-! ### Catalog queries -/

/-- A name as the catalog stores it: folded like an identifier, without quotes. -/
def catalogName (target : Target) (name : String) : Recorded String := do
  return Name.unquote (← target.dialect.wrapWith id name target.context)

/-- The same for a name of any kind. -/
def catalogValue (target : Target) (name : Value) : Recorded Value := do
  Name.unquoteValue (← target.dialect.wrapValueWith .identity name target.context)

/-- Schema and table of a reference. The table's name is looked at first. -/
def catalogReference (target : Target) (reference : Value) : Recorded (Option String × String) := do
  match (← Recorded.ofExcept (Name.atomsOf reference)).reverse with
  | [] => return (none, "")
  | [table] => return (none, ← catalogName target table)
  | table :: schema :: _ => do
    let table ← catalogName target table
    let schema ← catalogName target schema
    return (some schema, table)

def equalsValue (condition : String) (value : Value) : Sql :=
  [.code (condition ++ " = "), .slot value]

def selectFrom (view : String) (table : Value) (column : Option Value) : Sql :=
  equalsValue ("select * from information_schema." ++ view ++ " where table_name") table ++
    (column.map (equalsValue " and column_name")).getD []

/-- Without a schema the current one is meant. -/
def schemaCondition : Option String → Sql
  | none => Sql.code " and table_schema = current_schema()"
  | some schema =>
    if schema = "" then Sql.code " and table_schema = current_schema()"
    else equalsValue " and table_schema" (.text schema)

def catalogQuery (view table : String) (column : Option Value) (schema : Option String) : Sql :=
  selectFrom view (.text table) column ++ schemaCondition schema

/-- The plain dialect looks names up as they are. -/
def ansiCatalogQuery (view : String) (table : Value) (column : Option Value) : Sql :=
  selectFrom view table column ++ Sql.code " and table_schema = database()"

def lookUp (sql : Sql) (reshape : Reshape) : Statement :=
  { Statement.ofSql sql .schema with reshape := some reshape }

def tableQuery (target : Target) (table : Value) : Recorded Statement :=
  match target.dialect with
  | .ansi _ => return lookUp (ansiCatalogQuery "tables" table none) .hasRows
  | .snowflake .. => do
    let (schema, table) ← catalogReference target table
    return lookUp (catalogQuery "tables" table none schema) .hasRows

def columnQuery (target : Target) (table column : Value) : Recorded Statement :=
  match target.dialect with
  | .ansi _ => return lookUp (ansiCatalogQuery "columns" table (some column)) .hasRows
  | .snowflake .. => do
    let (schema, table) ← catalogReference target table
    let column ← catalogValue target column
    return lookUp (catalogQuery "columns" table (some column) schema) .hasRows

/-- The column that is wanted, as the catalog names it. -/
def wantedColumn (target : Target) : Value → Recorded Value
  | .null => return .null
  | column => catalogValue target column

def columnsQuery (target : Target) (table column : Value) : Recorded Statement :=
  match target.dialect with
  | .ansi _ => return lookUp (ansiCatalogQuery "columns" table none) (.columns column)
  | .snowflake .. => do
    let (schema, table) ← catalogReference target table
    let column ← wantedColumn target column
    return lookUp (catalogQuery "columns" table none schema) (.columns column)

/-! ### Compilation -/

def plain (sql : Sql) : List Statement :=
  [Statement.ofSql sql .schema]

def tableStatements (target : Target) (table : Table) (actions : List TableAction) :
    Recorded (List Statement) := do
  let table ← table.build target.dialect actions
  return (← table.statements target).map (Statement.ofSql · .schema)

def renameStatements (target : Target) (old new : Value) : Recorded (List Statement) := do
  let old ← Table.wrap target old
  let new ← Table.wrap target new
  return plain (match target.dialect with
    | .ansi _ => Sql.code "rename table " ++ old ++ Sql.code " to " ++ new
    | .snowflake .. => Sql.code "alter table " ++ old ++ Sql.code " rename to " ++ new)

def Change.statements (target : Target) : Change → Recorded (List Statement)
  | .createTable name ifNotExists actions => tableStatements target { name, ifNotExists } actions
  | .alterTable name actions => tableStatements target { name, isAltered := true } actions
  | .dropTable name ifExists =>
    return plain (Sql.code (if ifExists then "drop table if exists " else "drop table ") ++
      (← Table.wrap target name))
  | .renameTable old new => renameStatements target old new
  | .hasTable name => return [← tableQuery target name]
  | .hasColumn table column => return [← columnQuery target table column]
  | .columnInfo table column => return [← columnsQuery target table column]
  | .createSchema name ifNotExists =>
    return plain (Sql.code (if ifNotExists then "create schema if not exists " else "create schema ") ++
      (← Table.wrap target name))
  | .dropSchema name ifExists cascade =>
    return plain (Sql.code (if ifExists then "drop schema if exists " else "drop schema ") ++
      (← Table.wrap target name) ++ Sql.code (if cascade then " cascade" else ""))
  | .raw sql bindings => return [{ sql, bindings, method := .schema }]

def Migration.statements (dialect : Dialect) (strictPrimaryKeys : Bool) (migration : Migration) :
    Recorded (List Statement) := do
  let target : Target := { dialect, strictPrimaryKeys, context := migration.context }
  return (← migration.changes.mapM (Change.statements target)).flatten

end SqlBuilder.Schema
