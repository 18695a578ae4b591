import SqlBuilder.Filter.Condition
import SqlBuilder.Query.Rows

/-!
Queries compiled to statements. The pieces of each statement are made in a fixed order, which decides
what is noted first and which of two mistakes is reported.
-/

namespace SqlBuilder.Query

def tableSql (dialect : Dialect) (q : Query) : Recorded Sql :=
  if q.table.isTrue then dialect.wrapValue q.table q.context else .fail .tableMissing

/-- The condition with its keyword, or nothing. A value by itself is no condition. -/
def whereSql (dialect : Dialect) (q : Query) : Recorded (List Sql) :=
  match q.filter with
  | none => return []
  | some (.other _) => .fail .noAttribute
  | some filter => do
    match ← filter.compile dialect q.context with
    | [] => return []
    | condition => return [Sql.code "where " ++ Condition.sql condition]

/-- A leading minus asks for descending order. -/
def splitDirection (field : String) : String × String :=
  match field.toList with
  | '-' :: rest => (String.ofList rest, "desc")
  | _ => (field, "asc")

def orderSql (dialect : Dialect) (q : Query) (field : Value) : Recorded Sql := do
  let (name, direction) := splitDirection (← field.toName)
  return (← dialect.wrap name q.context) ++ Sql.code (" " ++ direction)

def orderingSql (dialect : Dialect) (q : Query) : Recorded (List Sql) := do
  match ← Recorded.ofExcept q.ordering with
  | [] => return []
  | fields => return [Sql.code "order by " ++ Sql.separated ", " (← fields.mapM (orderSql dialect q))]

def limitSql (dialect : Dialect) (q : Query) : Except Error (List Sql) := do
  let limit := if q.method = .first then .int 1 else q.limit
  match ← dialect.limitClause limit q.offset with
  | [] => return []
  | clause => return [clause]

/-- Only the plain dialect locks rows. -/
def lockSql (dialect : Dialect) (q : Query) : Recorded (List Sql) :=
  match dialect, q.lock with
  | _, none => return []
  | .ansi _, some .update => return [Sql.code "for update"]
  | .ansi _, some .share => return [Sql.code "for share"]
  | .snowflake .., some .update => do
    Recorded.warn "table lock is not supported by snowflake dialect"
    return []
  | .snowflake .., some .share => do
    Recorded.warn "lock for share is not supported by snowflake dialect"
    return []

/-- Without any column all of them are meant. -/
def columnsOrAll : List Value → List Value
  | [] => [.text "*"]
  | columns => columns

def selectSql (dialect : Dialect) (q : Query) : Recorded Sql := do
  let columns ← Recorded.ofExcept q.columns
  let columns ← dialect.columnize (columnsOrAll columns) q.context
  let table ← q.tableSql dialect
  let condition ← q.whereSql dialect
  let ordering ← q.orderingSql dialect
  let limit ← Recorded.ofExcept (q.limitSql dialect)
  let lock ← q.lockSql dialect
  return Sql.separated " "
    ([Sql.code "select " ++ columns, Sql.code "from", table] ++ condition ++ ordering ++ limit ++ lock)

def returningSql (dialect : Dialect) (q : Query) : Recorded Sql := do
  if !q.returning.areGiven || !dialect.supportsReturning then return []
  let columns ← Recorded.ofExcept q.returning
  return Sql.code " returning " ++ (← dialect.columnize columns q.context)

/-- Snowflake returns no rows from a write. -/
def warnReturning (dialect : Dialect) (q : Query) : Recorded Unit :=
  match dialect with
  | .snowflake .. =>
    if q.returning.areGiven then Recorded.warn "returning is not supported by snowflake dialect"
    else pure ()
  | .ansi _ => pure ()

/-- A name added to an ascending list without repetitions. -/
def insertName (name : String) : List String → List String
  | [] => [name]
  | other :: rest =>
    if name = other then other :: rest
    else if name < other then name :: other :: rest
    else other :: insertName name rest

/-- All columns that occur in the rows, ascending. -/
def columnUnion (rows : List Row) : List String :=
  (rows.flatMap fun row => row.map (·.1)).foldr insertName []

def cellSql (row : Row) (column : String) : Sql :=
  match row.lookup column with
  | some value => Sql.ofValue value
  | none => Sql.code "DEFAULT"

def tupleSql (columns : List String) (row : Row) : Sql :=
  Sql.code "(" ++ Sql.separated ", " (columns.map (cellSql row)) ++ Sql.code ")"

/-- Rows without any column insert default values; Snowflake has no statement for that. -/
def defaultRowSql (dialect : Dialect) (table : Sql) : Recorded Sql :=
  match dialect with
  | .ansi _ => return Sql.code "insert into " ++ table ++ Sql.code " default values"
  | .snowflake .. => do
    Recorded.warn "insert of an empty row is not supported by snowflake dialect"
    return []

def insertRowsSql (dialect : Dialect) (q : Query) (table : Sql) (rows : List Row) : Recorded Sql := do
  let columns := columnUnion rows
  if columns.isEmpty then return ← defaultRowSql dialect table
  let names ← dialect.columnize (columns.map .text) q.context
  let returning ← q.returningSql dialect
  q.warnReturning dialect
  return Sql.code "insert into " ++ table ++ Sql.code " (" ++ names ++ Sql.code ") values " ++
    Sql.separated ", " (rows.map (tupleSql columns)) ++ returning

def insertSql (dialect : Dialect) (q : Query) : Recorded Sql := do
  match ← Recorded.ofExcept q.payload.toItemsIfTrue with
  | [] => return []
  | rows => do
    let table ← q.tableSql dialect
    q.insertRowsSql dialect table (← Recorded.ofExcept (Row.ofValues rows))

def assignmentSql (dialect : Dialect) (q : Query) (assignment : Value × Value) : Recorded Sql := do
  return (← dialect.wrapValue assignment.1 q.context) ++ Sql.code " = " ++ Sql.ofValue assignment.2

/-- A statement's condition and what it returns, which end updates and deletions. -/
def writeTail (dialect : Dialect) (q : Query) : Recorded Sql := do
  let condition ← q.whereSql dialect
  let returning ← q.returningSql dialect
  q.warnReturning dialect
  return (condition.map fun sql => Sql.code " " ++ sql).flatten ++ returning

def setSql (dialect : Dialect) (q : Query) (values : List (Value × Value)) : Recorded Sql := do
  let assignments ← values.mapM (q.assignmentSql dialect)
  let table ← q.tableSql dialect
  let tail ← q.writeTail dialect
  return Sql.code "update " ++ table ++ Sql.code " set " ++ Sql.separated ", " assignments ++ tail

def updateSql (dialect : Dialect) (q : Query) : Recorded Sql :=
  if !q.payload.isTrue then .fail .updateEmpty
  else
    match q.payload with
    | .dict values => q.setSql dialect values
    | _ => .fail .noAttribute

def deleteSql (dialect : Dialect) (q : Query) : Recorded Sql := do
  let table ← q.tableSql dialect
  let tail ← q.writeTail dialect
  return Sql.code "delete from " ++ table ++ tail

def truncateSql (dialect : Dialect) (q : Query) : Recorded Sql := do
  let keyword := match dialect with
    | .ansi _ => "truncate table "
    | .snowflake .. => "truncate "
  return Sql.code keyword ++ (← q.tableSql dialect)

def sql (dialect : Dialect) (q : Query) : Recorded Sql :=
  match q.method with
  | .select | .first | .pluck => q.selectSql dialect
  | .insert => q.insertSql dialect
  | .update => q.updateSql dialect
  | .delete => q.deleteSql dialect
  | .truncate => q.truncateSql dialect
  | method => .fail (.methodUnsupported method.name)

def compile (dialect : Dialect) (q : Query) : Recorded Statement := do
  let sql ← q.sql dialect
  return { Statement.ofSql sql q.method with pluck := q.pluck, options := q.options }

/-- A query without a table is refused before anything else is looked at. -/
def toStatement (dialect : Dialect) (q : Query) : Recorded Statement :=
  if q.table.isTrue then q.compile dialect else .fail .tableMissing

end SqlBuilder.Query
