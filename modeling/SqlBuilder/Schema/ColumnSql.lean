import SqlBuilder.Schema.Table

/-!
Columns written as definitions: name, type and modifiers. Snowflake knows neither enumerations nor
blobs, and keeps comments apart from the definition.
-/

namespace SqlBuilder.Schema

def quoteLiteral (s : String) : String :=
  String.ofList ('\'' :: Text.double '\'' s.toList ++ ['\''])

def literalSql (s : String) : Sql :=
  [.literal (quoteLiteral s)]

/-- A keyword with parameters in parentheses. -/
def withParameters (keyword : String) (parameters : List Sql) : Sql :=
  Sql.code (keyword ++ "(") ++ Sql.separated ", " parameters ++ Sql.code ")"

def givenSql (value : Value) : Sql :=
  [.raw value.shown]

/-- A keyword with a parameter that is left out unless it counts as true. -/
def withOptional (keyword : String) (parameter : Value) : Sql :=
  if parameter.isTrue then withParameters keyword [givenSql parameter] else Sql.code keyword

def numberSql (fallback : Int) : Value → Except Error Sql
  | .null => .ok (Sql.code (Value.intText fallback))
  | value => return Sql.code (Value.intText (← value.toInteger))

def withPrecision (keyword : String) (precision scale : Value) : Except Error Sql := do
  return withParameters keyword [← numberSql 8 precision, ← numberSql 2 scale]

def enumSql (keyword : String) (values : Value) : Except Error Sql :=
  match values.items? with
  | none => .error .wrongType
  | some values => .ok (withParameters keyword (values.map fun value => literalSql value.shown))

def stringSql (length : Value) : Sql :=
  withParameters "varchar" [if length.isTrue then givenSql length else Sql.code "255"]

def ansiType : ColumnType → Except Error Sql
  | .fixed type => .ok (Sql.code type.ansi)
  | .string length => .ok (stringSql length)
  | .floating precision scale => withPrecision "float" precision scale
  | .double .null _ => .ok (Sql.code "double")
  | .double precision scale => withPrecision "double" precision scale
  | .decimal precision scale => withPrecision "decimal" precision scale
  | .bit length => .ok (withOptional "bit" length)
  | .binary length =>
    .ok (if length.isTrue then withParameters "varbinary" [givenSql length] else Sql.code "blob")
  | .datetime _ precision => .ok (withOptional "datetime" precision)
  | .timestamp _ precision => .ok (withOptional "timestamp" precision)
  | .enum values => enumSql "enum" values
  | .set values => enumSql "set" values
  | .specific sql => .ok (givenSql sql)
  | .unknown name => .error (.columnTypeUnknown name)
  | .misused => .error .wrongType

def snowflakeTimestamp (zoned precision : Value) : Sql :=
  let keyword := if zoned.isTrue then "timestamp_tz" else "timestamp"
  match precision with
  | .null => Sql.code keyword
  | precision => withParameters keyword [givenSql precision]

def snowflakeType : ColumnType → Except Error Sql
  | .fixed type => .ok (Sql.code type.snowflake)
  | .string length => .ok (stringSql length)
  | .floating .null _ => .ok (Sql.code "real")
  | .floating precision scale => withPrecision "float" precision scale
  | .double .null _ => .ok (Sql.code "double precision")
  | .double precision scale => withPrecision "double" precision scale
  | .decimal .null _ => .ok (Sql.code "decimal")
  | .decimal precision scale => withPrecision "decimal" precision scale
  | .bit length =>
    .ok (withParameters "char" [if length.isTrue then givenSql length else Sql.code "1"])
  | .binary _ => .ok (Sql.code "varchar(max)")
  | .datetime zoned precision => .ok (snowflakeTimestamp zoned precision)
  | .timestamp zoned precision => .ok (snowflakeTimestamp zoned precision)
  | .enum _ => .ok (Sql.code "varchar(255)")
  | .set _ => .ok (Sql.code "varchar")
  | .specific sql => .ok (givenSql sql)
  | .unknown name => .error (.columnTypeUnknown name)
  | .misused => .error .wrongType

namespace Column

/-- Snowflake does not enforce the values of an enumeration, and says so. -/
def warnEnum (column : Column) : Recorded Unit :=
  match column.type with
  | .enum values =>
    if values.isTrue then
      Recorded.warn ("Snowflake does not support enum types; allowed values for " ++
        column.name.shown ++ " are not enforced.")
    else pure ()
  | _ => pure ()

def typeSql (dialect : Dialect) (column : Column) : Recorded Sql :=
  match dialect with
  | .ansi _ => Recorded.ofExcept (ansiType column.type)
  | .snowflake .. => do
    column.warnEnum
    Recorded.ofExcept (snowflakeType column.type)

def unsignedSql (dialect : Dialect) (column : Column) : Recorded (List Sql) :=
  if column.modifiers.isUnsigned then
    match dialect with
    | .ansi _ => return [Sql.code "unsigned"]
    | .snowflake .. => do
      Recorded.warn ("Snowflake does not support unsigned columns; ignoring for " ++
        column.name.shown ++ ".")
      return []
  else return []

def nullableSql (column : Column) : List Sql :=
  match column.modifiers.nullable with
  | none => []
  | some true => [Sql.code "null"]
  | some false => [Sql.code "not null"]

/-- A default is written as a constant, a fragment of SQL as it is. -/
def defaultValueSql : Value → Sql
  | .raw sql => [.raw sql]
  | .null => Sql.code "null"
  | .bool b => Sql.code (if b then "true" else "false")
  | .int n => Sql.code (Value.intText n)
  | .float x => Sql.code x.text
  | value => literalSql value.shown

def defaultSql (column : Column) : List Sql :=
  (column.modifiers.default.map fun value => Sql.code "default " ++ defaultValueSql value).toList

def collationSql (column : Column) : List Sql :=
  (column.modifiers.collation.map fun name => Sql.code "collate " ++ literalSql name.shown).toList

def wrappedName (dialect : Dialect) (context : Value) (column : Column) : Recorded Sql :=
  dialect.wrapValue column.name context

/-- The text of a comment on Snowflake; an empty one is removed. -/
def commentValueSql (comment : Value) : Sql :=
  if comment.isTrue then literalSql comment.shown else Sql.code "NULL"

/-- Snowflake's statement for a comment on a column of this table. -/
def commentStatement (dialect : Dialect) (context table : Value) (column : Column) (comment : Value) :
    Recorded Sql := do
  let table ← dialect.wrapValue table context
  let name ← column.wrappedName dialect context
  return Sql.code "comment on column " ++ table ++ Sql.code "." ++ name ++ Sql.code " is " ++
    commentValueSql comment

/-- A comment is part of the definition, or on Snowflake a statement that follows later. -/
def commentSql (dialect : Dialect) (context table : Value) (column : Column) :
    Recorded (List Sql × List Sql) :=
  match column.modifiers.comment, dialect with
  | none, _ => return ([], [])
  | some comment, .ansi _ =>
    return ([Sql.code "comment " ++ literalSql (if comment.isTrue then comment.shown else "")], [])
  | some comment, .snowflake .. => do
    return ([], [← column.commentStatement dialect context table comment])

/-- The definition, and the statements that follow later. -/
def definition (dialect : Dialect) (context table : Value) (column : Column) :
    Recorded (Sql × List Sql) := do
  let name ← column.wrappedName dialect context
  let type ← column.typeSql dialect
  let unsigned ← column.unsignedSql dialect
  let (comment, later) ← column.commentSql dialect context table
  let modifiers := unsigned ++ column.nullableSql ++ column.defaultSql ++ column.collationSql ++ comment
  return (Sql.separated " " ([name, type] ++ modifiers), later)

end Column

end SqlBuilder.Schema
