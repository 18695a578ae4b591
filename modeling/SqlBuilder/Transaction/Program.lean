import SqlBuilder.Transaction

/-!
Programs of boundaries, blocks and failures, run with a trace of the blocks that were entered, left and
failed.
-/

namespace SqlBuilder.Transaction

inductive Program where
  | cross (crossing : Crossing)
  | raise (e : Error)
  /-- A failure of the step is traced and goes no further. -/
  | guarded (step : Program)
  | block (steps : List Program)
deriving Inhabited

inductive Trace where
  | entered (depth : Nat)
  | caught (e : Error) (depth : Nat)
  | exited (depth : Nat)

/-- A host's state and the trace. -/
structure Traced (σ : Type) where
  host : σ
  trace : List Trace := []

namespace Program

variable {σ : Type}

def traced (host : Host σ) : Host (Traced σ) where
  send sql := Run.within (·.host) (fun host s => { s with host }) (host.send sql)
  warn message := Run.within (·.host) (fun host s => { s with host }) (host.warn message)

/-- Adds to the trace what `entry` makes of the current depth. -/
def trace (entry : Nat → Trace) : Run (Scope (Traced σ)) Unit :=
  Run.change fun scope =>
    { scope with host.trace := scope.host.trace ++ [entry scope.transaction.depth] }

/-- Interrupts pass every guard. -/
def guarding (step : Run (Scope (Traced σ)) Unit) : Run (Scope (Traced σ)) Unit := do
  match ← Run.attempt step with
  | .ok () => return ()
  | .error e => if e.isFailure then trace (.caught e) else Run.fail e

mutual

def run (dialect : Dialect) (host : Host σ) : Program → Run (Scope (Traced σ)) Unit
  | .cross crossing => Transaction.cross dialect (traced host) crossing
  | .raise e => Run.fail e
  | .guarded step => guarding (run dialect host step)
  | .block steps => do
    enclose dialect (traced host) do
      trace .entered
      runEach dialect host steps
    trace .exited
termination_by structural program => program

def runEach (dialect : Dialect) (host : Host σ) : List Program → Run (Scope (Traced σ)) Unit
  | [] => return ()
  | step :: steps => do
    run dialect host step
    runEach dialect host steps
termination_by structural steps => steps

end

end Program

end SqlBuilder.Transaction
