import SqlBuilder.Error
import SqlBuilder.Listeners

/-!
Connections that have been made: their settings, the error they were disposed of for, and listeners.
-/

namespace SqlBuilder.Connection

/-- What a listener on a connection does when its event is emitted. -/
inductive Reaction where
  | markDisposed
deriving DecidableEq, Repr

structure Handle where
  settings : List (Value × Value)
  disposed : Option Error := none
  listeners : Listeners Reaction := {}

namespace Handle

def errorEvent : String := "error"

/-- A new connection listens for errors. -/
def fresh (settings : List (Value × Value)) : Handle :=
  { settings, listeners := ({} : Listeners Reaction).on errorEvent .markDisposed }

/-- Disposal takes the one error that it is for. -/
def react (errors : List Error) (handle : Handle) : Reaction → Except Error Handle
  | .markDisposed =>
    match errors with
    | [e] => .ok { handle with disposed := some e }
    | _ => .error .wrongType

/-- Calls the listeners of an event. -/
def emit (event : String) (errors : List Error) (handle : Handle) : Except Error Handle :=
  (handle.listeners.of event).foldlM (react errors) handle

def hears (event : String) (handle : Handle) : Bool :=
  !(handle.listeners.of event).isEmpty

def dispose (e : Error) (handle : Handle) : Handle :=
  { handle with disposed := some e }

def removeListeners (handle : Handle) : Handle :=
  { handle with listeners := {} }

end Handle

end SqlBuilder.Connection
