import SqlBuilder.Value

/-!
SQL as a sequence of pieces. The text of a statement and its bindings are both read off the pieces, so
a binding cannot lose its place.
-/

namespace SqlBuilder

/-- `code` is written by the library, `raw` by the caller; `name` is one written identifier, `literal`
one string constant, and `slot` a placeholder together with the value bound to it. -/
inductive Piece where
  | code (text : String)
  | raw (text : String)
  | name (text : String)
  | literal (text : String)
  | slot (value : Value)

abbrev Sql := List Piece

namespace Piece

def placeholder : String := "?"

def text : Piece → String
  | .code text => text
  | .raw text => text
  | .name text => text
  | .literal text => text
  | .slot _ => placeholder

def binding? : Piece → Option Value
  | .slot value => some value
  | _ => none

end Piece

namespace Sql

def text (sql : Sql) : String :=
  String.join (sql.map Piece.text)

def bindings (sql : Sql) : List Value :=
  sql.filterMap Piece.binding?

def code (text : String) : Sql :=
  [.code text]

def separated (separator : String) (parts : List Sql) : Sql :=
  List.intercalate (code separator) parts

/-- A value in its place: a fragment of SQL as it is, anything else as a placeholder. -/
def ofValue : Value → Sql
  | .raw sql => [.raw sql]
  | value => [.slot value]

end Sql

end SqlBuilder
