import SqlBuilder.Connection.Config
import SqlBuilder.Dialect

/-!
Adapters: a dialect together with the settings that statements are compiled and sent under.
-/

namespace SqlBuilder

/-- `config` is what connections are made with; statements that take `slowQueryMs` milliseconds are
warned about. -/
structure Adapter where
  dialect : Dialect
  /-- The caller's own way of writing identifiers. -/
  hook : Option Hook := none
  strictPrimaryKeys : Bool := false
  slowQueryMs : Int
  config : Connection.Config

namespace Adapter

/-! ### The threshold for slow statements -/

def slowQueryVariable : String := "SNOWBLAZE_SLOW_QUERY_MS"

def defaultSlowQueryMs : Int := 1000

/-- A variable that is no natural number counts as unset. -/
def naturalOf? (text : String) : Option Int :=
  match Number.readInt text.toList with
  | .ok n => if 0 ≤ n then some n else none
  | .error _ => none

/-- The given threshold, else the environment's, if there is one. -/
def slowQueryMs? (environment : Connection.Environment) (given : Value) : Except Error (Option Int) :=
  match given with
  | .null => .ok ((environment.lookup slowQueryVariable).bind naturalOf?)
  | given => return some (← given.toInteger)

/-! ### Making an adapter -/

/-- Values without a threshold leave it to the environment. -/
def ofConfig (environment : Connection.Environment) (dialect : Dialect) (config : Connection.Config)
    (slowQueryMs : Value) : Except Error Adapter := do
  let slowQueryMs := (← slowQueryMs? environment slowQueryMs).getD defaultSlowQueryMs
  return { dialect, config, slowQueryMs }

/-- `connection` is what the configuration is read from. -/
def make (environment : Connection.Environment) (dialect : Dialect)
    (slowQueryMs connection : Value) : Except Error Adapter := do
  ofConfig environment dialect (← Connection.Config.ofValue connection) slowQueryMs

/-! ### What an adapter is -/

def name (adapter : Adapter) : String :=
  match adapter.dialect with
  | .ansi _ => "base"
  | .snowflake .. => "snowflake"

/-- The package that the driver comes in. -/
def driverName (adapter : Adapter) : String :=
  match adapter.dialect with
  | .ansi _ => ""
  | .snowflake .. => "snowflake-connector-python"

/-- An adapter without a driver compiles statements and sends none. -/
def requireDriver (adapter : Adapter) : Except Error Unit :=
  match adapter.dialect with
  | .ansi _ => .error .notImplemented
  | .snowflake .. => .ok ()

/-- Writes an identifier with `quoting` in the place of the dialect's own, or as the hook does. -/
def wrapWith (adapter : Adapter) (quoting : Quoting) (identifier context : Value) : Recorded Value :=
  match adapter.hook, identifier with
  | some hook, .text name => return .text (← Dialect.callHook hook name quoting.text context)
  | some hook, identifier => Dialect.callHookOther hook identifier quoting context
  | none, identifier => adapter.dialect.wrapValueWith quoting identifier context

end Adapter

end SqlBuilder
