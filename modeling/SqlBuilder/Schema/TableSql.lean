import SqlBuilder.Schema.ColumnSql
import SqlBuilder.Statement

/-!
Tables compiled to statements: the statement that creates or alters the table, then comments, then the
further changes in the order of their calls.
-/

namespace SqlBuilder.Schema

/-- What a table is compiled for. A strict compilation refuses nullable primary keys, others only warn. -/
structure Target where
  dialect : Dialect
  strictPrimaryKeys : Bool := false
  context : Value := .null

namespace Table

def nameSql (target : Target) (table : Table) : Recorded Sql :=
  target.dialect.wrapValue table.name target.context

def wrap (target : Target) (name : Value) : Recorded Sql :=
  target.dialect.wrapValue name target.context

def columnize (target : Target) (columns : List Value) : Recorded Sql :=
  target.dialect.columnize columns target.context

/-! ### Default names -/

/-- A name derived from a quoted one keeps its case, and so is quoted, too. -/
def derivedName (atom name : String) : String :=
  if Name.isQuoted atom then Name.quote name else name

/-- The table's name is taken without its schema and without quotes. -/
def primaryName (table : Table) : Except Error String := do
  let atom ← Name.lastAtomOf table.name
  return derivedName atom (Name.unquote atom ++ "_pkey")

def joinedNames (columns : List Value) : Except Error String := do
  return String.intercalate "_" (← columns.mapM fun column => column.text?.elim (.error .wrongType) .ok)

def indexName (table : Table) (columns : List Value) (suffix : String) : Except Error String := do
  let atom ← Name.lastAtomOf table.name
  let name := Name.unquote atom ++ "_" ++ (← joinedNames columns) ++ "_" ++ suffix
  return if Name.isQuoted atom then derivedName atom name else Text.lower name

/-- A given name, unless it counts as false. -/
def nameOr (fallback : Except Error String) (name : Value) : Except Error Value :=
  if name.isTrue then .ok name else .text <$> fallback

/-- The name of a key or an index. -/
def wrapNameOr (target : Target) (fallback : Except Error String) (name : Value) : Recorded Sql := do
  wrap target (← Recorded.ofExcept (nameOr fallback name))

/-! ### Creating and altering -/

/-- Only texts are comments; a value that counts as false is an empty one. -/
def commentLiteral (comment : Value) : Except Error Sql :=
  if comment.isTrue then literalSql <$> comment.toName else .ok (literalSql "")

def commentStatement (target : Target) (table : Table) (comment : Value) : Recorded Sql := do
  let name ← table.nameSql target
  let comment ← Recorded.ofExcept (commentLiteral comment)
  return match target.dialect with
    | .ansi _ => Sql.code "alter table " ++ name ++ Sql.code " comment = " ++ comment
    | .snowflake .. => Sql.code "comment on table " ++ name ++ Sql.code " is " ++ comment

def commentStatements (target : Target) (table : Table) : Recorded (List Sql) :=
  match table.comment with
  | none => return []
  | some comment => return [← table.commentStatement target comment]

/-- The comment in the statement that creates the table. -/
def commentClause (table : Table) : Except Error Sql :=
  match table.comment with
  | none => .ok []
  | some comment => return Sql.code " comment = " ++ (← commentLiteral comment)

def createHead (table : Table) : Sql :=
  Sql.code (if table.ifNotExists then "create table if not exists " else "create table ")

/-- The plain dialect has no inheritance, and says so. -/
def ansiCreate (target : Target) (table : Table) (definitions : List Sql) : Recorded (List Sql) := do
  let name ← table.nameSql target
  if table.parent.isSome then
    Recorded.warn ("Table inheritance is not supported by the " ++ target.dialect.name ++ " dialect.")
  let comment ← Recorded.ofExcept table.commentClause
  return [table.createHead ++ name ++ Sql.code " (" ++ Sql.separated ", " definitions ++ Sql.code ")" ++
    comment]

def parentSql (target : Target) (table : Table) : Recorded Sql :=
  match table.parent with
  | none => return []
  | some parent => return Sql.code " like (" ++ (← wrap target parent) ++ Sql.code ")"

def snowflakeCreate (target : Target) (table : Table) (definitions : List Sql) : Recorded (List Sql) := do
  let name ← table.nameSql target
  let parent ← table.parentSql target
  let comment ← table.commentStatements target
  return (table.createHead ++ name ++ Sql.code " (" ++ Sql.separated ", " definitions ++ Sql.code ")" ++
    parent) :: comment

/-- The definitions of columns, and the statements that follow later. -/
def definitions (target : Target) (table : Table) (columns : List Column) :
    Recorded (List Sql × List Sql) := do
  let results ← columns.mapM (Column.definition target.dialect target.context table.name)
  return (results.map (·.1), results.flatMap (·.2))

def createStatements (target : Target) (table : Table) : Recorded (List Sql) := do
  let (definitions, later) ← table.definitions target table.added
  let statements ← match target.dialect with
    | .ansi _ => table.ansiCreate target definitions
    | .snowflake .. => table.snowflakeCreate target definitions
  return statements ++ later

/-- All new columns in one statement, if there are any. -/
def addStatements (target : Target) (table : Table) : Recorded (List Sql × List Sql) := do
  if table.added.isEmpty then return ([], [])
  let (definitions, later) ← table.definitions target table.added
  let name ← table.nameSql target
  let additions := Sql.separated ", " (definitions.map fun definition => Sql.code "add " ++ definition)
  return ([Sql.code "alter table " ++ name ++ Sql.code " " ++ additions], later)

def ansiAlter (target : Target) (table : Table) (column : Column) : Recorded (List Sql × List Sql) := do
  let name ← table.nameSql target
  let columnName ← column.wrappedName target.dialect target.context
  let type ← column.typeSql target.dialect
  return ([Sql.code "alter table " ++ name ++ Sql.code " alter column " ++ columnName ++
    Sql.code " type " ++ type], [])

def nullabilityChange (start : Sql) (column : Column) : List Sql :=
  match column.modifiers.nullable with
  | none => []
  | some true => [start ++ Sql.code " drop not null"]
  | some false => [start ++ Sql.code " set not null"]

/-- Type, nullability and comment each have a statement of their own; a default cannot be changed. -/
def snowflakeAlter (target : Target) (table : Table) (column : Column) :
    Recorded (List Sql × List Sql) := do
  let columnName ← column.wrappedName target.dialect target.context
  let name ← table.nameSql target
  let start := Sql.code "alter table " ++ name ++ Sql.code " alter column " ++ columnName
  let type ← column.typeSql target.dialect
  if column.modifiers.default.isSome then
    Recorded.warn ("Snowflake cannot change the default of existing column " ++ column.name.shown ++ ".")
  let (_, later) ← column.commentSql target.dialect target.context table.name
  return ((start ++ Sql.code " set data type " ++ type) :: nullabilityChange start column, later)

def alterColumn (target : Target) (table : Table) (column : Column) : Recorded (List Sql × List Sql) :=
  match target.dialect with
  | .ansi _ => table.ansiAlter target column
  | .snowflake .. => table.snowflakeAlter target column

def alterStatements (target : Target) (table : Table) : Recorded (List Sql) := do
  let (additions, laterAdded) ← table.addStatements target
  let results ← table.altered.mapM (table.alterColumn target)
  let comment ← table.commentStatements target
  return additions ++ results.flatMap (·.1) ++ comment ++ laterAdded ++ results.flatMap (·.2)

/-! ### Further changes -/

def alterHead (name : Sql) : Sql :=
  Sql.code "alter table " ++ name

def addConstraint (target : Target) (table : Table) (name : Sql) (kind : String) (columns : List Value) :
    Recorded Sql := do
  let tableName ← table.nameSql target
  let columns ← columnize target columns
  return alterHead tableName ++ Sql.code " add constraint " ++ name ++ Sql.code (" " ++ kind ++ " (") ++
    columns ++ Sql.code ")"

def dropConstraint (target : Target) (table : Table) (name : Sql) : Recorded Sql := do
  let tableName ← table.nameSql target
  return alterHead tableName ++ Sql.code " drop constraint " ++ name

/-- The column of this name that the same definition adds; of several the last. -/
def addedNamed? (table : Table) (name : Value) : Option Column :=
  table.added.reverse.find? (·.name.equals name)

/-- The first listed column that the same definition adds without declaring it not nullable. Other
columns are taken to exist already. -/
def nullableKey? (table : Table) : List Value → Except Error (Option Value)
  | [] => .ok none
  | name :: names =>
    if !name.isKey then .error .wrongType
    else if (table.addedNamed? name).any (!·.isNotNullable) then .ok (some name)
    else nullableKey? table names

def nullableKeyWarning : String :=
  "Snowflake does not allow primary keys to contain nullable columns."

def addPrimary (target : Target) (table : Table) (columns : List Value) (name : Value) :
    Recorded (List Sql) := do
  let name ← wrapNameOr target table.primaryName name
  return [← table.addConstraint target name "primary key" columns]

def primary (target : Target) (table : Table) (columns : List Value) (name : Value) :
    Recorded (List Sql) :=
  match target.dialect with
  | .ansi _ => table.addPrimary target columns name
  | .snowflake .. => do
    match ← Recorded.ofExcept (table.nullableKey? columns) with
    | none => table.addPrimary target columns name
    | some column =>
      if target.strictPrimaryKeys then .fail (.primaryKeyNullable column.shown)
      else do
        Recorded.warn nullableKeyWarning
        return []

def dropPrimary (target : Target) (table : Table) (name : Value) : Recorded (List Sql) :=
  match target.dialect with
  | .ansi _ => do
    let name ← wrapNameOr target table.primaryName name
    return [← table.dropConstraint target name]
  | .snowflake .. => return [alterHead (← table.nameSql target) ++ Sql.code " drop primary key"]

def addUnique (target : Target) (table : Table) (columns : List Value) (name : Value) : Recorded Sql := do
  let name ← wrapNameOr target (table.indexName columns "unique") name
  table.addConstraint target name "unique" columns

/-- Unique and foreign keys are dropped alike, by the name that they have by default. -/
def dropKey (target : Target) (table : Table) (columns : List Value) (suffix : String) (name : Value) :
    Recorded Sql := do
  let name ← wrapNameOr target (table.indexName columns suffix) name
  table.dropConstraint target name

def index (target : Target) (table : Table) (columns : List Value) (name kind : Value) :
    Recorded (List Sql) :=
  match target.dialect with
  | .snowflake .. => do
    Recorded.warn noIndexesWarning
    return []
  | .ansi _ => do
    let name ← wrapNameOr target (table.indexName columns "index") name
    let kind := if kind.isTrue then [.raw kind.shown, .code " "] else []
    let tableName ← table.nameSql target
    let columns ← columnize target columns
    return [Sql.code "create " ++ kind ++ Sql.code "index " ++ name ++ Sql.code " on " ++ tableName ++
      Sql.code " (" ++ columns ++ Sql.code ")"]

def dropIndex (target : Target) (table : Table) (columns : List Value) (name : Value) :
    Recorded (List Sql) :=
  match target.dialect with
  | .snowflake .. => do
    Recorded.warn "Snowflake does not support the deletion of indexes."
    return []
  | .ansi _ =>
    return [Sql.code "drop index " ++ (← wrapNameOr target (table.indexName columns "index") name)]

/-- What happens on a deletion or an update, if anything does. -/
def onEvent (event : String) (action : Value) : Sql :=
  if action.isTrue then [.code (" on " ++ event ++ " "), .raw action.shown] else []

def foreign (target : Target) (table : Table) (key : ForeignKey) : Recorded Sql := do
  let name ← wrapNameOr target (table.indexName key.columns "foreign") key.name
  let tableName ← table.nameSql target
  let columns ← columnize target key.columns
  let referenced ← wrap target key.table
  let references ← columnize target key.references
  return alterHead tableName ++ Sql.code " add constraint " ++ name ++ Sql.code " foreign key (" ++
    columns ++ Sql.code ") references " ++ referenced ++ Sql.code " (" ++ references ++ Sql.code ")" ++
    onEvent "delete" key.onDelete ++ onEvent "update" key.onUpdate

def dropColumns (target : Target) (table : Table) (columns : List Value) : Recorded Sql :=
  match target.dialect with
  | .ansi _ => do
    let drops ← columns.mapM fun column => return Sql.code "drop column " ++ (← wrap target column)
    let tableName ← table.nameSql target
    return alterHead tableName ++ Sql.code " " ++ Sql.separated ", " drops
  | .snowflake .. => do
    let tableName ← table.nameSql target
    let columns ← columnize target columns
    return alterHead tableName ++ Sql.code " drop column " ++ columns

def renameColumn (target : Target) (table : Table) (old new : Value) : Recorded Sql := do
  let tableName ← table.nameSql target
  let old ← wrap target old
  let new ← wrap target new
  return alterHead tableName ++ Sql.code " rename column " ++ old ++ Sql.code " to " ++ new

def changeStatements (target : Target) (table : Table) : TableChange → Recorded (List Sql)
  | .primary columns name => table.primary target columns name
  | .dropPrimary name => table.dropPrimary target name
  | .unique columns name => return [← table.addUnique target columns name]
  | .dropUnique columns name => return [← table.dropKey target columns "unique" name]
  | .index columns name kind => table.index target columns name kind
  | .dropIndex columns name => table.dropIndex target columns name
  | .foreign key => return [← table.foreign target key]
  | .dropForeign columns name => return [← table.dropKey target columns "foreign" name]
  | .dropColumns columns => return [← table.dropColumns target columns]
  | .renameColumn old new => return [← table.renameColumn target old new]

def statements (target : Target) (table : Table) : Recorded (List Sql) := do
  let main ← if table.isAltered then table.alterStatements target else table.createStatements target
  let changes ← table.changes.mapM (table.changeStatements target)
  return main ++ changes.flatten

end Table

end SqlBuilder.Schema
