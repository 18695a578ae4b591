import SqlBuilder.Listeners
import SqlBuilder.Run
import SqlBuilder.Text.Split

/-!
Listeners that are chosen by name, for trying out what listeners can do to each other: each one first
notes its call and then does what the part of its name before a colon says.
-/

namespace SqlBuilder.Listeners

/-- What a listener does besides noting its call. -/
inductive Deed where
  | nothing
  | raise
  /-- Registers a listener that does nothing. -/
  | add (event : String)
  | clear
  | emit (event : String)
deriving DecidableEq, Repr

def Deed.named (name : String) : Deed :=
  let (word, rest) := Text.cutAt ':' name.toList
  let event := String.ofList (rest.getD [])
  if word = "raise".toList then .raise
  else if word = "add".toList then .add event
  else if word = "clear".toList then .clear
  else if word = "emit".toList then .emit event
  else .nothing

structure Board where
  listeners : Listeners String := {}
  calls : List (String × List Value) := []

namespace Board

def changeListeners (f : Listeners String → Listeners String) : Run Board Unit :=
  Run.change fun board => { board with listeners := f board.listeners }

/-- Emissions may be nested up to `depth` deep. Those who are called are the listeners that the event
had when it was emitted. -/
def emit : Nat → String → List Value → Run Board Bool
  | 0, _, _ => Run.fail (.raised .runtime "maximum recursion depth exceeded")
  | depth + 1, event, args => do
    let names ← Run.read fun board => board.listeners.of event
    names.forM fun name => do
      Run.change fun board => { board with calls := board.calls ++ [(name, args)] }
      match Deed.named name with
      | .nothing => return ()
      | .raise => Run.fail (.raised .value name)
      | .add event => changeListeners (·.on event "plain")
      | .clear => changeListeners fun _ => {}
      | .emit event => do let _ ← emit depth event [.text "nested"]
    return !names.isEmpty

end Board

end SqlBuilder.Listeners
