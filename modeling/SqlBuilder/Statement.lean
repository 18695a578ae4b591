import SqlBuilder.Sql

/-!
Statements ready for a driver, and the responses that come back.
-/

namespace SqlBuilder

/-- What a statement was made by, which decides what its result is. -/
inductive Method where
  | raw | schema
  | select | first | pluck | insert | update | delete | truncate
  | other (name : String)
deriving DecidableEq, Repr

namespace Method

def name : Method → String
  | .raw => "raw"
  | .schema => "schema"
  | .select => "select"
  | .first => "first"
  | .pluck => "pluck"
  | .insert => "insert"
  | .update => "update"
  | .delete => "delete"
  | .truncate => "truncate"
  | .other name => name

def ofName : String → Method
  | "raw" => .raw
  | "schema" => .schema
  | "select" => .select
  | "first" => .first
  | "pluck" => .pluck
  | "insert" => .insert
  | "update" => .update
  | "delete" => .delete
  | "truncate" => .truncate
  | name => .other name

end Method

/-- How the response to a catalog query is reshaped: to whether it has rows, to the columns it
describes, or to the wanted one of them if it is there. -/
inductive Reshape where
  | hasRows
  | columns (wanted : Value)

/-- SQL that was compiled is a text; SQL of one's own may turn out to be none when it is sent. -/
structure Statement where
  sql : Value
  bindings : List Value := []
  method : Method := .raw
  reshape : Option Reshape := none
  pluck : Value := .null
  options : Value := .null

def Statement.ofSql (sql : Sql) (method : Method) : Statement :=
  { sql := .text sql.text, bindings := sql.bindings, method }

end SqlBuilder
