import SqlBuilder.Dialect
import SqlBuilder.Run

/-!
Transactions with boundaries inside them. The outermost boundary is a transaction of the database; one
inside another is a savepoint. Snowflake has no savepoints, so there only the outermost boundary is sent
and the others are warned about.
-/

namespace SqlBuilder

/-- The boundaries that are open, the innermost first: a savepoint by its name, the outermost one
without. Names of savepoints are numbered and never used again. -/
structure Transaction where
  boundaries : List (Option String) := []
  nextSavepoint : Nat := 1
deriving DecidableEq, Repr

inductive Crossing where
  | begin | commit | rollback
  | savepoint (name : String)
  | release (name : String)
  | rollbackTo (name : String)
deriving DecidableEq, Repr

/-- What is done at a boundary: a statement is sent, or a warning takes its place. -/
inductive Effect where
  | send (sql : String)
  | warn (message : String)
deriving DecidableEq, Repr

namespace Effect

/-- A statement about a savepoint, in a dialect that may have none. -/
def savepoint (dialect : Dialect) (sql : String) : Effect :=
  match dialect with
  | .ansi _ => .send sql
  | .snowflake .. => .warn "Snowflake does not support savepoints."

end Effect

namespace Transaction

def depth (transaction : Transaction) : Nat :=
  transaction.boundaries.length

/-- An effect with the state before it is taken and the state after it, which is not reached if the
effect fails. -/
structure Plan where
  effect : Effect
  before : Transaction
  after : Transaction
deriving DecidableEq, Repr

def savepointName (n : Nat) : String :=
  "sp_" ++ toString n

/-- A boundary is open once its statement has been sent; the name of its savepoint is used up before. -/
def planBegin (dialect : Dialect) (transaction : Transaction) : Plan :=
  match transaction.boundaries with
  | [] => {
      effect := .send "begin"
      before := transaction
      after := { transaction with boundaries := [none] } }
  | boundaries =>
    let name := savepointName transaction.nextSavepoint
    let counted := { transaction with nextSavepoint := transaction.nextSavepoint + 1 }
    { effect := .savepoint dialect ("savepoint " ++ name)
      before := counted
      after := { counted with boundaries := some name :: boundaries } }

/-- The innermost boundary is closed before its statement is sent. -/
def planClose (dialect : Dialect) (outermost savepoint : String) (missing : Error)
    (transaction : Transaction) : Except Error Plan :=
  match transaction.boundaries with
  | [] => .error missing
  | boundary :: boundaries =>
    let closed := { transaction with boundaries }
    .ok {
      effect := boundary.elim (.send outermost) fun name => .savepoint dialect (savepoint ++ name)
      before := closed
      after := closed }

def plan (dialect : Dialect) (crossing : Crossing) (transaction : Transaction) : Except Error Plan :=
  let unchanged (effect : Effect) : Plan := ⟨effect, transaction, transaction⟩
  match crossing with
  | .begin => .ok (transaction.planBegin dialect)
  | .commit => transaction.planClose dialect "commit" "release savepoint " .nothingToCommit
  | .rollback => transaction.planClose dialect "rollback" "rollback to savepoint " .nothingToRollBack
  | .savepoint name => .ok (unchanged (.savepoint dialect ("savepoint " ++ name)))
  | .release name => .ok (unchanged (.savepoint dialect ("release savepoint " ++ name)))
  | .rollbackTo name => .ok (unchanged (.savepoint dialect ("rollback to savepoint " ++ name)))

/-! ### Running -/

/-- What carries a transaction's effects out. -/
structure Host (σ : Type) where
  send : String → Run σ Unit
  warn : String → Run σ Unit

def Host.perform {σ : Type} (host : Host σ) : Effect → Run σ Unit
  | .send sql => host.send sql
  | .warn message => host.warn message

/-- A host's state together with the transaction on it. -/
structure Scope (σ : Type) where
  host : σ
  transaction : Transaction := {}

variable {σ α : Type}

def onHost (x : Run σ α) : Run (Scope σ) α :=
  Run.within (·.host) (fun host scope => { scope with host }) x

def enter (transaction : Transaction) : Run (Scope σ) Unit :=
  Run.change fun scope => { scope with transaction }

/-- A computation with a transaction of its own. -/
def alone (x : Run (Scope σ) α) : Run σ α := fun host =>
  ((x { host }).1, (x { host }).2.host)

def cross (dialect : Dialect) (host : Host σ) (crossing : Crossing) : Run (Scope σ) Unit := do
  let plan ← (← Run.read (·.transaction)).plan dialect crossing
  enter plan.before
  onHost (host.perform plan.effect)
  enter plan.after

/-- Runs a body inside a boundary of its own, which is committed in the end. A failure of the body rolls
back and goes on; an interrupt leaves the boundary open. -/
def enclose (dialect : Dialect) (host : Host σ) (body : Run (Scope σ) α) : Run (Scope σ) α := do
  cross dialect host .begin
  match ← Run.attempt body with
  | .ok a =>
    cross dialect host .commit
    return a
  | .error e =>
    if e.isFailure then cross dialect host .rollback
    Run.fail e

end Transaction

end SqlBuilder
