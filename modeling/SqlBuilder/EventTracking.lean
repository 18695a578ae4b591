import SqlBuilder.Session

/-!
A sample application that keeps users and the events they cause.
-/

namespace SqlBuilder.EventTracking

open Schema

def usersTable : List TableAction := [
  .column (.text "id") (.fixed .increments) [],
  .column (.text "email") (.string (.int 320)) [.notNullable, .unique .null],
  .column (.text "name") (.string .null) [],
  .timestamps (.bool true) true []]

def kindComment : Value := .text "Event type, e.g. login or purchase"

def eventsTable : List TableAction := [
  .column (.text "id") (.fixed .bigIncrements) [],
  .column (.text "user_id") (.fixed .integer) [.notNullable],
  .column (.text "kind") (.string (.int 64)) [.notNullable, .comment kindComment],
  .column (.text "payload") (.fixed .json) [],
  .column (.text "occurred_at") (.timestamp (.bool true) (.int 3)) [.notNullable],
  .further (.foreign {
    columns := [.text "user_id"], table := .text "users", references := [.text "id"],
    onDelete := .text "cascade" }),
  .further (.index [.text "user_id", .text "occurred_at"] .null .null),
  .comment (.text "Raw product events")]

def migration : Migration :=
  { changes := [
      .createTable (.text "users") true usersTable, .createTable (.text "events") true eventsTable] }

def recordEvents (events : List Value) : Query :=
  (Query.on (.text "events")).insert events []

/-- A user's latest events that are no heartbeats. -/
def recentEvents (user limit : Value) : Query :=
  let isUser := Filter.all [] [("user_id", user)]
  let isHeartbeat := Filter.all [] [("kind", .text "heartbeat")]
  (Query.on (.text "events")).select [.text "kind", .text "occurred_at"]
    |>.whereFilter (.combine .and isUser isHeartbeat.negate)
    |>.orderBy [.text "-occurred_at"]
    |>.limitTo limit

def defaultLimit : Value := .int 10

/-! ### A demonstration -/

def demoUser : Row :=
  [("id", .int 1), ("email", .text "ada@example.com")]

def demoEvents : List Row := [
  [("user_id", .int 1), ("kind", .text "login"), ("occurred_at", .text "2024-01-01 09:00:00")],
  [("user_id", .int 1), ("kind", .text "purchase"), ("occurred_at", .text "2024-01-01 09:05:00")]]

variable {δ : Type}

def insertAll (driver : Driver δ) (adapter : Adapter) (i : Nat) : List Query → Run (Session δ) Unit
  | [] => return ()
  | query :: queries => do
    let _ ← Session.runQuery driver adapter (some i) query
    insertAll driver adapter i queries

/-- The tables, a user and two events in one transaction, and then the events read back. -/
def exercise (driver : Driver δ) (adapter : Adapter) (i : Nat) : Run (Session δ) Result := do
  let _ ← Session.runMigration driver adapter (some i) migration
  let inserts := [(Query.on (.text "users")).insert [demoUser.toValue] [],
    recordEvents (demoEvents.map Row.toValue)]
  Transaction.alone (Transaction.enclose adapter.dialect (Session.host driver adapter (some i))
    (Transaction.onHost (insertAll driver adapter i inserts)))
  Session.runQuery driver adapter (some i) (recentEvents (.int 1) defaultLimit)

/-- The connection is closed whatever happens on it. -/
def exerciseOnce (driver : Driver δ) (adapter : Adapter) : Run (Session δ) Result := do
  let i ← Session.acquire driver adapter
  let outcome ← Run.attempt (exercise driver adapter i)
  Session.destroy driver i
  outcome

def dsnVariable : String := "SNOWBLAZE_DSN"

/-- Without a data source name, or with an empty one, the environment's is used. -/
def config (environment : Connection.Environment) (dsn : Option String) :
    Except Error Connection.Config :=
  match Connection.Dsn.given? dsn with
  | some dsn => Connection.Config.ofDsn dsn []
  | none => Connection.Config.ofEnvironment environment dsnVariable []

def demo (driver : Driver δ) (environment : Connection.Environment) (dsn : Option String) :
    Run (Session δ) Result := do
  let adapter ← Adapter.ofConfig environment (.snowflake true none) (← config environment dsn) .null
  exerciseOnce driver adapter

end SqlBuilder.EventTracking
