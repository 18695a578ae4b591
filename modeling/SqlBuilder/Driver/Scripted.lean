import SqlBuilder.Driver

/-!
A driver that answers from a script and keeps a record of what it was asked, for rehearsals.
-/

namespace SqlBuilder.Driver

inductive Request where
  | connect (settings : List (Value × Value))
  | execute (sql : Value) (bindings : Option (List Value)) (options : List (Value × Value))
  | close

/-- What the driver answers. Without `rowCount` the rows are counted; `describes` tells whether
statements return rows, which otherwise they do if there are any. An execution error hits the statement
`failingSql` only, if one is named. -/
structure Scripted where
  rows : List Value := []
  rowCount : Value := .null
  describes : Value := .null
  connectError : Option Error := none
  executeError : Option Error := none
  closeError : Option Error := none
  failingSql : Value := .null
  isInstalled : Bool := true
  clock : List Value := []
  requests : List Request := []

namespace Scripted

def raise (e : Option Error) : Run Scripted Unit :=
  e.elim (pure ()) Run.fail

def record (request : Request) : Run Scripted Unit :=
  Run.change fun s => { s with requests := s.requests ++ [request] }

/-- Options are passed by name, beside the arguments that have these names already. -/
def requireNames (taken : List String) (options : List (Value × Value)) : Except Error Unit :=
  options.forM fun option =>
    match option.1 with
    | .text name => if taken.contains name then .error .wrongType else .ok ()
    | _ => .error .wrongType

def connect (settings : List (Value × Value)) : Run Scripted Unit := do
  requireNames [] settings
  record (.connect settings)
  raise (← Run.read (·.connectError))

def errorFor (sql : Value) (s : Scripted) : Option Error :=
  match s.failingSql with
  | .null => s.executeError
  | failing => if failing.equals sql then s.executeError else none

def execute (sql : Value) (bindings : Option (List Value)) (options : List (Value × Value)) :
    Run Scripted Unit := do
  requireNames ["self", "sql", "params"] options
  record (.execute sql bindings options)
  raise (← Run.read (errorFor sql))

def describesRows (s : Scripted) : Bool :=
  match s.describes with
  | .null => !s.rows.isEmpty
  | describes => describes.isTrue

def returned (s : Scripted) : List Value :=
  if s.describesRows then s.rows else []

def counted (s : Scripted) : Value :=
  match s.rowCount with
  | .null => .int s.rows.length
  | n => n

/-- A close that fails leaves no record. -/
def close : Run Scripted Unit := do
  raise (← Run.read (·.closeError))
  record .close

/-- The clock stands at zero once the script has run out. -/
def tick : Run Scripted Value := fun s =>
  match s.clock with
  | [] => (.ok (.int 0), s)
  | t :: clock => (.ok t, { s with clock })

def driver : Driver Scripted where
  isInstalled := Scripted.isInstalled
  connect := connect
  openCursor _ := pure ()
  execute _ := execute
  rows _ := Run.read returned
  rowCount _ := Run.read counted
  close _ := close
  now := tick

end Scripted

end SqlBuilder.Driver
