import SqlBuilder.Name.Given
import SqlBuilder.Recorded
import SqlBuilder.Sql
import SqlBuilder.Text.Case
import SqlBuilder.Value.Integer

/-!
How a dialect writes identifiers, references, column lists and limits.
-/

namespace SqlBuilder

/-- A caller's way of writing an identifier: given the identifier, the way the dialect would quote it,
and the context of the query. -/
structure Hook where
  write : String → (String → String) → Value → Except Error String
  /-- What becomes of an identifier that is no text. -/
  writeOther : Value → Quoting → Value → Except Error Value

/-- `snowflake` folds unquoted identifiers to upper case before it quotes them, unless it is told not
to; a hook takes over altogether. -/
inductive Dialect where
  | ansi (supportsReturning : Bool)
  | snowflake (folds : Bool) (hook : Option Hook)

namespace Dialect

def name : Dialect → String
  | .ansi _ => "ansi"
  | .snowflake .. => "snowflake"

def paramStyle (_ : Dialect) : String := "qmark"

def supportsReturning : Dialect → Bool
  | .ansi supportsReturning => supportsReturning
  | .snowflake .. => false

/-- Every call of a hook is noted. -/
def callHook (hook : Hook) (identifier : String) (quote : String → String) (context : Value) :
    Recorded String := do
  Recorded.note (.hooked (.text identifier) context)
  Recorded.ofExcept (hook.write identifier quote context)

def callHookOther (hook : Hook) (identifier : Value) (quoting : Quoting) (context : Value) :
    Recorded Value := do
  Recorded.note (.hooked identifier context)
  Recorded.ofExcept (hook.writeOther identifier quoting context)

/-- Unquoted names are stored in upper case; quoted ones keep their case. -/
def fold (identifier : String) : String :=
  if identifier.toList.head? = some Name.quoteMark then identifier else Text.upper identifier

/-- Writes an identifier with `quote` in the place of the dialect's own quoting. -/
def wrapWith (dialect : Dialect) (quote : String → String) (identifier : String) (context : Value) :
    Recorded String :=
  match dialect with
  | .ansi _ => pure (quote identifier)
  | .snowflake _ (some hook) => callHook hook identifier quote context
  | .snowflake folds none => pure (quote (if folds then fold identifier else identifier))

/-- The same for an identifier of any kind. Where identifiers are folded, the first character of one is
asked for. -/
def wrapValueWith (dialect : Dialect) (quoting : Quoting) (identifier context : Value) : Recorded Value :=
  match identifier, dialect with
  | .text name, dialect => return .text (← dialect.wrapWith quoting.text name context)
  | identifier, .ansi _ => Recorded.ofExcept (quoting.other identifier)
  | identifier, .snowflake _ (some hook) => callHookOther hook identifier quoting context
  | identifier, .snowflake _ none => return .text (← identifier.toName)

def wrapIdentifier (dialect : Dialect) (identifier : String) (context : Value) : Recorded String :=
  dialect.wrapWith Name.quote identifier context

def wrapName (dialect : Dialect) (name : List Char) (context : Value) : Recorded Sql := do
  return [.name (← dialect.wrapIdentifier (String.ofList name) context)]

def wrapAtom (dialect : Dialect) (atom : List Char) (context : Value) : Recorded Sql :=
  if atom = Name.star then pure (Sql.code "*") else dialect.wrapName atom context

def wrapAtoms (dialect : Dialect) (atoms : List (List Char)) (context : Value) : Recorded Sql := do
  return Sql.separated "." (← atoms.mapM (dialect.wrapAtom · context))

/-- A reference with every atom written as an identifier of its own. -/
def wrap (dialect : Dialect) (reference : String) (context : Value) : Recorded Sql := do
  let parsed := Name.Reference.parse reference.toList
  let atoms ← dialect.wrapAtoms parsed.atoms context
  match parsed.aliasName with
  | none => return atoms
  | some aliasName => return atoms ++ Sql.code " as " ++ (← dialect.wrapName aliasName context)

/-- A reference as it was given. What is no text fails here, when it is to be written. -/
def wrapValue (dialect : Dialect) (reference context : Value) : Recorded Sql := do
  dialect.wrap (← reference.toName) context

def columnize (dialect : Dialect) (columns : List Value) (context : Value) : Recorded Sql := do
  return Sql.separated ", " (← columns.mapM (dialect.wrapValue · context))

/-- One clause of a limit, absent for null. -/
def limitPart (keyword : String) : Value → Except Error (List Sql)
  | .null => .ok []
  | value => do
    let n ← value.toInteger
    return [Sql.code (keyword ++ " " ++ Value.intText n)]

def limitClause (_ : Dialect) (limit offset : Value) : Except Error Sql := do
  let limit ← limitPart "limit" limit
  let offset ← limitPart "offset" offset
  return Sql.separated " " (limit ++ offset)

end Dialect

end SqlBuilder
