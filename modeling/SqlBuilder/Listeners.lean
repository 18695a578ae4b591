/-!
Listeners by event, called in the order in which they were registered.
-/

namespace SqlBuilder

/-- The listeners of all events, in the order of registration. -/
structure Listeners (η : Type) where
  registered : List (String × η) := []

namespace Listeners

variable {η : Type}

def on (event : String) (listener : η) (listeners : Listeners η) : Listeners η :=
  ⟨listeners.registered ++ [(event, listener)]⟩

/-- The listeners of one event. -/
def of (event : String) (listeners : Listeners η) : List η :=
  (listeners.registered.filter (·.1 == event)).map (·.2)

/-- How many there are, of one event or of all. -/
def count (listeners : Listeners η) : Option String → Nat
  | some event => (listeners.of event).length
  | none => listeners.registered.length

@[simp] theorem of_on_self (event : String) (x : η) (listeners : Listeners η) :
    (listeners.on event x).of event = listeners.of event ++ [x] := by
  simp [of, on]

theorem of_on_ne {event other : String} (h : other ≠ event) (x : η) (listeners : Listeners η) :
    (listeners.on other x).of event = listeners.of event := by
  simp [of, on, h]

end Listeners

end SqlBuilder
