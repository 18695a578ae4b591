import SqlBuilder.Call
import SqlBuilder.Dialect

/-!
Calls of a dialect's operations, each of which gives a value.
-/

namespace SqlBuilder.Dialect

open Parameter

/-- Ways of quoting that a call may name: in brackets, not at all, or else the usual one. -/
def quotingNamed : Value → Quoting
  | .text "bracket" => .bracket
  | .text "identity" => .identity
  | _ => .usual

/-- A call of an operation that takes a name and, if there is one, the context. -/
def callInContext (c : Call) (nameParameter : String) (f : Value → Value → Recorded Value) :
    Recorded Value := do
  let (name, context) ← c.two (required nameParameter) (optional "context")
  f name context

/-- Only a dialect that has hooks lets a call choose the quoting. -/
def callWrapWith (dialect : Dialect) (c : Call) : Recorded Value :=
  match dialect with
  | .ansi _ => .fail .noAttribute
  | .snowflake .. => do
    match ← Recorded.ofExcept (c.bind [required "value", required "orig_impl", optional "context"]) with
    | [name, quoting, context] => dialect.wrapValueWith (quotingNamed quoting) name context
    | _ => .fail .wrongType

def call (dialect : Dialect) (c : Call) : Recorded Value := do
  match c.name with
  | "quote_identifier" => Recorded.ofExcept (Quoting.usual.apply (← c.one (required "identifier")))
  | "wrap_identifier" => callInContext c "identifier" (dialect.wrapValueWith .usual)
  | "wrap" =>
    callInContext c "value" fun name context => return .text (← dialect.wrapValue name context).text
  | "format_table" =>
    callInContext c "table_name" fun name context => return .text (← dialect.wrapValue name context).text
  | "columnize" => do
    let (columns, context) ← c.two (required "columns") (optional "context")
    return .text (← dialect.columnize (← columns.toItems) context).text
  | "limit_clause" => do
    let (limit, offset) ← c.two (required "limit") (required "offset")
    return .text (← dialect.limitClause limit offset).text
  | "parameter_placeholder" => do
    let _ ← Recorded.ofExcept (c.one (optional "position"))
    return .text Piece.placeholder
  | "info" => return .list [.text dialect.name, .text dialect.paramStyle, .bool dialect.supportsReturning]
  | "custom_wrap_identifier" => callWrapWith dialect c
  | _ => .fail .noAttribute

end SqlBuilder.Dialect
