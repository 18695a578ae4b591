import SqlBuilder.Call
import SqlBuilder.Schema.Migration

/-!
Migrations built by calls: on the migration, on the tables in it, and on their columns. A call on a
table or a column whose arguments do not fit fails when the table is compiled, like the action it stands
for.
-/

namespace SqlBuilder.Schema

open Parameter

/-- A call on a table, with the calls on the column that it adds. -/
structure TableCall where
  call : Call
  chain : List Call := []

namespace ColumnAction

def ofCall? (c : Call) : Except Error ColumnAction := do
  match c.name with
  | "default_to" => return .defaultTo (← c.one (required "value"))
  | "comment" => return .comment (← c.one (required "text"))
  | "collate" => return .collate (← c.one (required "collation"))
  | "primary" => return .primary (← c.one (optional "constraint_name"))
  | "unique" => return .unique (← c.one (optional "index_name"))
  | "index" => return .index (← c.one (optional "index_name"))
  | "nullable" => do c.checkEmpty; return .nullable
  | "not_nullable" => do c.checkEmpty; return .notNullable
  | "unsigned" => do c.checkEmpty; return .unsigned
  | "alter" => do c.checkEmpty; return .alter
  | _ => throw .noAttribute

def ofCall (c : Call) : ColumnAction :=
  match ofCall? c with
  | .ok action => action
  | .error e => .failing e

end ColumnAction

/-- What a call that adds a column takes besides the name: by position, and by name only. -/
def typeParameters : String → List Parameter × List Parameter
  | "floating" | "double" | "decimal" => ([optional "precision", optional "scale"], [])
  | "string" | "binary" | "bit" => ([optional "length"], [])
  | "text" => ([optional "text_type"], [])
  | "blob" => ([optional "blob_type"], [])
  | "datetime" | "timestamp" => ([], [optional "use_tz" (.bool true), optional "precision"])
  | "enum" | "set" => ([required "values"], [])
  | "specific_type" => ([required "sql"], [])
  | _ => ([], [])

/-- The sizes of texts and byte strings have no calls of their own. -/
def sizedTypes : List String :=
  ["medium_text", "long_text", "tiny_blob", "medium_blob", "long_blob"]

/-- The word for a size; what cannot be looked up in a mapping is none. -/
def sizeWord (size : Value) : Except Error String :=
  if size.isTrue && !size.isKey then .error .wrongType else .ok (size.text?.getD "")

def typeOfCall (name : String) (args : List Value) : Except Error ColumnType := do
  match name, args with
  | "text", [size] => return .fixed (.textOfSize (← sizeWord size))
  | "blob", [size] => return .fixed (.blobOfSize (← sizeWord size))
  | "enum", [values] => return .enum (.tuple (← values.toItems))
  | "set", [values] => return .set (.tuple (← values.toItems))
  | name, args =>
    if sizedTypes.contains name then throw .noAttribute
    match ColumnType.named name args with
    | .unknown _ => throw .noAttribute
    | type => return type

namespace TableAction

/-- A change of some columns under a name that may be left out. -/
def namedChange (c : Call) (nameParameter : String) (make : List Value → Value → TableChange) :
    Except Error TableAction := do
  let (columns, name) ← c.two (required "columns") (optional nameParameter)
  return .further (make (← columns.toNames) name)

def ofIndexCall (c : Call) : Except Error TableAction := do
  match ← c.bind [required "columns", optional "index_name", optional "index_type"] with
  | [columns, name, kind] => return .further (.index (← columns.toNames) name kind)
  | _ => throw .wrongType

def ofForeignCall (c : Call) : Except Error TableAction := do
  match ← c.bind
      [required "columns", required "references_table", optional "references_columns" (.tuple [.text "id"])]
      [optional "constraint_name", optional "on_delete", optional "on_update"] with
  | [columns, table, references, name, onDelete, onUpdate] =>
    let columns ← columns.toNames
    let references ← references.toNames
    return .further (.foreign { columns, table, references, name, onDelete, onUpdate })
  | _ => throw .wrongType

def ofTimestampsCall (c : Call) (actions : List ColumnAction) : Except Error TableAction := do
  match ← c.bind [] [optional "use_tz" (.bool true), optional "default_to_now" (.bool false)] with
  | [zoned, defaultToNow] => return .timestamps zoned defaultToNow.isTrue actions
  | _ => throw .wrongType

/-- The name of a key column may be left out. -/
def nameParameter (type : String) : Parameter :=
  if type = "increments" ∨ type = "big_increments" then optional "name" (.text "id")
  else required "name"

def ofColumnCall (c : Call) (actions : List ColumnAction) : Except Error TableAction := do
  let (positional, keywords) := typeParameters c.name
  match ← c.bind (nameParameter c.name :: positional) keywords with
  | name :: args => return .column name (← typeOfCall c.name args) actions
  | [] => throw .wrongType

/-- What a type takes; nothing is said of a type that takes no notice of arguments. -/
def ownParameters? : String → Option (List Parameter)
  | "string" | "binary" | "bit" => some [optional "length"]
  | "floating" | "double" | "decimal" => some [optional "precision", optional "scale"]
  | "datetime" | "timestamp" => some [optional "use_tz" (.bool true), optional "precision"]
  | "enum" | "set" => some [optional "values" (.tuple [])]
  | "specific_type" => some [required "sql"]
  | _ => none

/-- A type by its name, with arguments by position and by name. -/
def typeGiven (type : Value) (arguments : Call) : ColumnType :=
  match ownParameters? type.shown, type with
  | some parameters, type =>
    match arguments.bind parameters with
    | .ok args => .named type.shown args
    | .error _ => .misused
  | none, .text name => .named name []
  | none, type => if type.isKey then .unknown type.shown else .misused

/-- The names of what a column is made with, which no further argument may take. -/
def takenNames : List String := ["self", "table"]

/-- A column of a type that is named by an argument; whether the further arguments fit it shows when the
column is written. -/
def ofTypedCall (c : Call) (actions : List ColumnAction) : Except Error TableAction := do
  match ← c.bindFirst [required "column_type", required "name"] with
  | ([type, name], rest) =>
    if rest.named.any fun (name, _) => takenNames.contains name then throw .wrongType
    return .column name (typeGiven type rest) actions
  | _ => throw .wrongType

def ofCall? (c : Call) (actions : List ColumnAction) : Except Error TableAction := do
  match c.name with
  | "timestamps" => ofTimestampsCall c actions
  | "_column" => ofTypedCall c actions
  | "primary" => namedChange c "constraint_name" .primary
  | "drop_primary" => return .further (.dropPrimary (← c.one (optional "constraint_name")))
  | "unique" => namedChange c "index_name" .unique
  | "drop_unique" => namedChange c "index_name" .dropUnique
  | "index" => ofIndexCall c
  | "drop_index" => namedChange c "index_name" .dropIndex
  | "foreign" => ofForeignCall c
  | "drop_foreign" => namedChange c "constraint_name" .dropForeign
  | "drop_column" => return .further (.dropColumns (← (← c.positional).mapM (·.toNames)).flatten)
  | "drop_timestamps" => do
    c.checkEmpty
    return .further (.dropColumns [.text createdAt, .text updatedAt])
  | "rename_column" => do
    let (old, new) ← c.two (required "old_name") (required "new_name")
    return .further (.renameColumn old new)
  | "comment" => return .comment (← c.one (required "text"))
  | "inherits" => return .inherits (← c.one (required "parent_table"))
  | _ => ofColumnCall c actions

def ofCall (c : TableCall) : TableAction :=
  match ofCall? c.call (c.chain.map ColumnAction.ofCall) with
  | .ok action => action
  | .error e => .failing e

end TableAction

namespace Migration

def dropSchemaOfCall (c : Call) (ifExists : Bool) : Except Error Change := do
  match ← c.bind [required "schema_name"] [optional "cascade" (.bool false)] with
  | [name, cascade] => return .dropSchema name ifExists cascade.isTrue
  | _ => throw .wrongType

/-- The change that a call makes; `build` are the calls on the table, where it has one. -/
def changeOfCall (c : Call) (build : List TableCall) : Except Error Change := do
  let actions := build.map TableAction.ofCall
  match c.name with
  | "create_table" => return .createTable (← c.one (required "table_name")) false actions
  | "create_table_if_not_exists" => return .createTable (← c.one (required "table_name")) true actions
  | "table" | "alter_table" => return .alterTable (← c.one (required "table_name")) actions
  | "drop_table" => return .dropTable (← c.one (required "table_name")) false
  | "drop_table_if_exists" => return .dropTable (← c.one (required "table_name")) true
  | "rename_table" => do
    let (old, new) ← c.two (required "old_name") (required "new_name")
    return .renameTable old new
  | "has_table" => return .hasTable (← c.one (required "table_name"))
  | "has_column" => do
    let (table, column) ← c.two (required "table_name") (required "column_name")
    return .hasColumn table column
  | "column_info" => do
    let (table, column) ← c.two (required "table_name") (optional "column_name")
    return .columnInfo table column
  | "create_schema" => return .createSchema (← c.one (required "schema_name")) false
  | "create_schema_if_not_exists" => return .createSchema (← c.one (required "schema_name")) true
  | "drop_schema" => dropSchemaOfCall c false
  | "drop_schema_if_exists" => dropSchemaOfCall c true
  | "raw" => do
    let (sql, bindings) ← c.two (required "sql") (optional "bindings" (.tuple []))
    return .raw sql (← bindings.toItems)
  | _ => throw .noAttribute

def call (c : Call) (build : List TableCall) (migration : Migration) : Except Error Migration := do
  match c.name with
  | "query_context" => return migration.inContext (← c.one (required "context"))
  | _ => return migration.add (← changeOfCall c build)

end Migration

end SqlBuilder.Schema
