import SqlBuilder.Adapter
import SqlBuilder.Connection.Handle
import SqlBuilder.Driver
import SqlBuilder.Query.Compile
import SqlBuilder.Redaction
import SqlBuilder.Response
import SqlBuilder.Schema.Migration
import SqlBuilder.Sql.Placeholder
import SqlBuilder.Timing
import SqlBuilder.Transaction

/-!
Sessions: connections made through one adapter, and the statements sent over them.
-/

namespace SqlBuilder

/-- A driver that was found once is not looked for again. -/
structure Session (δ : Type) where
  driver : δ
  isLoaded : Bool := false
  handles : List Connection.Handle := []
  notes : List Note := []

/-- What a caller asks to have run. -/
inductive Request where
  | nothing
  | statement (statement : Statement)
  | many (requests : List Request)
  /-- No request at all. -/
  | malformed
deriving Inhabited

namespace Request

def sql (text : String) : Request :=
  .statement { sql := .text text }

/-- A member of a collection of requests. -/
def member : Value → Request
  | .null => .nothing
  | .text text => .sql text
  | _ => .malformed

/-- A text is a statement, and any other collection holds requests. -/
def ofValue : Value → Request
  | .null => .nothing
  | .text text => .sql text
  | value => (value.items?.map fun items => many (items.map member)).getD malformed

end Request

namespace Session

variable {δ α : Type}

def onDriver (x : Run δ α) : Run (Session δ) α :=
  Run.within (·.driver) (fun driver session => { session with driver }) x

def record (notes : List Note) : Run (Session δ) Unit :=
  Run.change fun session => { session with notes := session.notes ++ notes }

def ofRecorded (x : Recorded α) : Run (Session δ) α := do
  record x.notes
  Run.ofExcept x.outcome

def log (level : LogLevel) (message : String) : Run (Session δ) Unit :=
  record [.logged { level, message }]

def changeHandle (i : Nat) (f : Connection.Handle → Connection.Handle) : Run (Session δ) Unit :=
  Run.change fun session => { session with handles := session.handles.modify i f }

/-! ### Connections -/

def load (driver : Driver δ) : Run (Session δ) Unit := do
  if !(← Run.read (·.isLoaded)) then
    if ← Run.read fun session => driver.isInstalled session.driver then
      Run.change fun session => { session with isLoaded := true }
    else Run.fail .driverMissing

def connectingMessage (config : Connection.Config) : Except Error String := do
  return "Connecting to Snowflake " ++ (← config.label) ++
    " (autocommit=" ++ config.autocommit.shown ++ ")"

/-- Makes a connection and returns its number. -/
def acquire (driver : Driver δ) (adapter : Adapter) : Run (Session δ) Nat := do
  adapter.requireDriver
  load driver
  let settings ← adapter.config.driverSettings
  log .info (← connectingMessage adapter.config)
  onDriver (driver.connect settings)
  let i ← Run.read (·.handles.length)
  Run.change fun session =>
    { session with handles := session.handles ++ [.fresh settings] }
  return i

/-- Closes a connection. A failure to do so is kept as the reason of its disposal; it goes no further,
unless it is an interrupt. In any case nothing listens to the connection after that. -/
def destroy (driver : Driver δ) (i : Nat) : Run (Session δ) Unit := do
  let outcome ← Run.attempt (onDriver (driver.close i))
  changeHandle i (·.removeListeners)
  match outcome with
  | .ok () => return ()
  | .error e =>
    if e.isFailure then
      changeHandle i (·.dispose e)
      log .warning ("Failed to close Snowflake connection: " ++ e.message)
    else Run.fail e

/-- A connection is not asked whether it still works. -/
def validate (adapter : Adapter) (connection : Option Nat) : Except Error Bool := do
  adapter.requireDriver
  return connection.isSome

/-- Emits an event on a connection, and tells whether anything listens to it. -/
def emit (i : Nat) (event : String) (errors : List Error) : Run (Session δ) Bool := do
  match (← Run.read (·.handles))[i]? with
  | none => Run.fail .noAttribute
  | some handle =>
    let changed ← handle.emit event errors
    changeHandle i fun _ => changed
    return handle.hears event

/-! ### Statements -/

/-- Runs a piece of work with the clock read before and after, and logs how long it took. -/
def timed (driver : Driver δ) (adapter : Adapter) (statement : Statement) (work : Run (Session δ) α) :
    Run (Session δ) α := do
  let start ← onDriver driver.now
  let outcome ← Run.attempt work
  let finish ← onDriver driver.now
  record [.logged (← LogEntry.timed "snowflake.execute" statement.sql
    (.list (Redaction.values statement.bindings)) (.int adapter.slowQueryMs) start finish)]
  outcome

def execute (driver : Driver δ) (i : Nat) (statement : Statement) (options : List (Value × Value)) :
    Run (Session δ) (List Value) := do
  let bindings := if statement.bindings.isEmpty then none else some statement.bindings
  onDriver (driver.execute i statement.sql bindings options)
  onDriver (driver.rows i)

/-- Options of a statement; a value that counts as false has none. -/
def optionsOf (statement : Statement) : Except Error (List (Value × Value)) :=
  if statement.options.isTrue then statement.options.toMapping else .ok []

/-- Errors after which a connection is of no further use. -/
def losesConnection (e : Error) : Bool :=
  e.kind = .operational || e.kind = .interface

/-- Sends one statement and returns the response; an empty one is not sent. -/
def send (driver : Driver δ) (adapter : Adapter) (connection : Option Nat) (statement : Statement) :
    Run (Session δ) (Option Response) := do
  adapter.requireDriver
  if !statement.sql.isTrue then return none
  load driver
  Placeholder.check statement.sql statement.bindings
  match connection with
  | none => Run.fail .noAttribute
  | some i =>
    onDriver (driver.openCursor i)
    let options ← optionsOf statement
    match ← Run.attempt (timed driver adapter statement (execute driver i statement options)) with
    | .ok rows => return some { rows, rowCount := ← onDriver (driver.rowCount i) }
    | .error e =>
      if losesConnection e then
        let _ ← emit i Connection.Handle.errorEvent [e]
      Run.fail e

def runStatement (driver : Driver δ) (adapter : Adapter) (connection : Option Nat)
    (statement : Statement) : Run (Session δ) Result := do
  match ← send driver adapter connection statement with
  | none => return .value .null
  | some response => statement.result response

/-- A member of a list of requests; lists are not flattened. -/
def runMember (driver : Driver δ) (adapter : Adapter) (connection : Option Nat) :
    Request → Run (Session δ) Result
  | .nothing => runStatement driver adapter connection { sql := .text "" }
  | .statement statement => runStatement driver adapter connection statement
  | _ => do
    adapter.requireDriver
    Run.fail .noAttribute

/-- Runs statements in their order until one fails. -/
def run (driver : Driver δ) (adapter : Adapter) (connection : Option Nat) (request : Request) :
    Run (Session δ) Result := do
  match connection, request with
  | none, _ => Run.fail .connectionMissing
  | _, .nothing => Run.fail .wrongType
  | _, .malformed => Run.fail .wrongType
  | _, .statement statement => runStatement driver adapter connection statement
  | _, .many requests => return .many (← requests.mapM (runMember driver adapter connection))

def runQuery (driver : Driver δ) (adapter : Adapter) (connection : Option Nat) (query : Query) :
    Run (Session δ) Result := do
  run driver adapter connection (.statement (← ofRecorded (query.toStatement adapter.dialect)))

def runMigration (driver : Driver δ) (adapter : Adapter) (connection : Option Nat)
    (migration : Schema.Migration) : Run (Session δ) Result := do
  let statements ← ofRecorded (migration.statements adapter.dialect adapter.strictPrimaryKeys)
  run driver adapter connection (.many (statements.map .statement))

/-- Transactions are carried out over a connection. -/
def host (driver : Driver δ) (adapter : Adapter) (connection : Option Nat) :
    Transaction.Host (Session δ) where
  send sql := do let _ ← run driver adapter connection (.sql sql)
  warn message := log .warning message

end Session

end SqlBuilder
