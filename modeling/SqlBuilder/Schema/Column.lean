import SqlBuilder.Value

/-!
Columns of a table under construction: a name, a type and modifiers.
-/

namespace SqlBuilder.Schema

/-- Types without parameters. The two incrementing ones are primary keys by themselves. -/
inductive FixedType where
  | increments | bigIncrements
  | integer | bigInteger | mediumInteger | smallInteger | tinyInteger
  | boolean
  | text | mediumText | longText
  | json | jsonb | uuid | date | time
  | blob | tinyBlob | mediumBlob | longBlob
  | varbinary
deriving DecidableEq, Repr

namespace FixedType

def named? : String → Option FixedType
  | "increments" => some .increments
  | "big_increments" => some .bigIncrements
  | "integer" => some .integer
  | "big_integer" => some .bigInteger
  | "medium_integer" => some .mediumInteger
  | "small_integer" => some .smallInteger
  | "tiny_integer" => some .tinyInteger
  | "boolean" => some .boolean
  | "text" => some .text
  | "medium_text" => some .mediumText
  | "long_text" => some .longText
  | "json" => some .json
  | "jsonb" => some .jsonb
  | "uuid" => some .uuid
  | "date" => some .date
  | "time" => some .time
  | "blob" => some .blob
  | "tiny_blob" => some .tinyBlob
  | "medium_blob" => some .mediumBlob
  | "long_blob" => some .longBlob
  | "varbinary" => some .varbinary
  | _ => none

/-- The size of a text column; any other word asks for the plain one. -/
def textOfSize : String → FixedType
  | "mediumtext" => .mediumText
  | "longtext" => .longText
  | _ => .text

def blobOfSize : String → FixedType
  | "tinyblob" => .tinyBlob
  | "mediumblob" => .mediumBlob
  | "longblob" => .longBlob
  | _ => .blob

def ansi : FixedType → String
  | .increments => "int unsigned not null auto_increment primary key"
  | .bigIncrements => "bigint unsigned not null auto_increment primary key"
  | .integer => "int"
  | .bigInteger => "bigint"
  | .mediumInteger => "mediumint"
  | .smallInteger => "smallint"
  | .tinyInteger => "tinyint"
  | .boolean => "boolean"
  | .text => "text"
  | .mediumText => "mediumtext"
  | .longText => "longtext"
  | .json => "json"
  | .jsonb => "json"
  | .uuid => "char(36)"
  | .date => "date"
  | .time => "time"
  | .blob => "blob"
  | .tinyBlob => "tinyblob"
  | .mediumBlob => "mediumblob"
  | .longBlob => "longblob"
  | .varbinary => "varbinary(255)"

def snowflake : FixedType → String
  | .increments => "integer identity(1,1) primary key not null"
  | .bigIncrements => "bigint identity(1,1) primary key not null"
  | .mediumInteger => "int"
  | .tinyInteger => "smallint"
  | .text => "varchar(max)"
  | .mediumText => "varchar(max)"
  | .longText => "varchar(max)"
  | .json => "variant"
  | .jsonb => "variant"
  | .blob => "binary"
  | .tinyBlob => "varchar(256)"
  | .mediumBlob => "varchar(16777218)"
  | .longBlob => "varchar(max)"
  | .varbinary => "varchar(max)"
  | type => type.ansi

end FixedType

/-- Parameters are checked when the column is written, not when it is declared. -/
inductive ColumnType where
  | fixed (type : FixedType)
  | string (length : Value)
  | floating (precision scale : Value)
  | double (precision scale : Value)
  | decimal (precision scale : Value)
  | bit (length : Value)
  | binary (length : Value)
  | datetime (zoned precision : Value)
  | timestamp (zoned precision : Value)
  | enum (values : Value)
  | set (values : Value)
  | specific (sql : Value)
  | unknown (name : String)
  /-- A known type with parameters that do not fit it. -/
  | misused

namespace ColumnType

/-- A type from up to two parameters, a missing one being `fallback`. -/
def withTwo (make : Value → Value → ColumnType) (first second : Value) : List Value → ColumnType
  | [] => make first second
  | [a] => make a second
  | [a, b] => make a b
  | _ => .misused

def withOne (make : Value → ColumnType) (fallback : Value) : List Value → ColumnType
  | [] => make fallback
  | [a] => make a
  | _ => .misused

def named (name : String) (args : List Value) : ColumnType :=
  match name with
  | "string" => withOne .string .null args
  | "floating" => withTwo .floating .null .null args
  | "double" => withTwo .double .null .null args
  | "decimal" => withTwo .decimal .null .null args
  | "bit" => withOne .bit .null args
  | "binary" => withOne .binary .null args
  | "datetime" => withTwo .datetime (.bool true) .null args
  | "timestamp" => withTwo .timestamp (.bool true) .null args
  | "enum" => withOne .enum (.tuple []) args
  | "set" => withOne .set (.tuple []) args
  | "specific_type" =>
    match args with
    | [sql] => .specific sql
    | _ => .misused
  | name =>
    match FixedType.named? name with
    | some type => .fixed type
    | none => .unknown name

/-- Such a column is a primary key by its type. -/
def isSelfKeyed : ColumnType → Bool
  | .fixed .increments => true
  | .fixed .bigIncrements => true
  | _ => false

end ColumnType

/-- Of each modifier the last setting counts. -/
structure Modifiers where
  isUnsigned : Bool := false
  nullable : Option Bool := none
  default : Option Value := none
  collation : Option Value := none
  comment : Option Value := none

structure Column where
  name : Value
  type : ColumnType
  modifiers : Modifiers := {}
  /-- The column exists already and is changed. -/
  isAltered : Bool := false

namespace Column

def isNotNullable (column : Column) : Bool :=
  column.modifiers.nullable = some false || column.type.isSelfKeyed

def setNullable (nullable : Bool) (column : Column) : Column :=
  { column with modifiers := { column.modifiers with nullable := some nullable } }

def setDefault (value : Value) (column : Column) : Column :=
  { column with modifiers := { column.modifiers with default := some value } }

def setComment (comment : Value) (column : Column) : Column :=
  { column with modifiers := { column.modifiers with comment := some comment } }

def setUnsigned (column : Column) : Column :=
  { column with modifiers := { column.modifiers with isUnsigned := true } }

def setCollation (collation : Value) (column : Column) : Column :=
  { column with modifiers := { column.modifiers with collation := some collation } }

def setAltered (column : Column) : Column :=
  { column with isAltered := true }

end Column

end SqlBuilder.Schema
