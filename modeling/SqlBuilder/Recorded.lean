import SqlBuilder.Error

/-!
Computations that may fail and that leave notes behind whether they fail or not: log entries, and the
identifiers that were handed to a caller's hook. Main statements: the notes of a sequence are the notes
of its parts in order, and a failure keeps the notes made before it.
-/

namespace SqlBuilder

inductive LogLevel where
  | debug | info | warning
deriving DecidableEq, Repr

/-- What a timed statement adds to its log entry. -/
structure Timing where
  sql : Value
  params : Value
  elapsed : Value

structure LogEntry where
  level : LogLevel
  message : String
  timing : Option Timing := none

inductive Note where
  | logged (entry : LogEntry)
  /-- The hook was asked to write this identifier in this context. -/
  | hooked (identifier context : Value)

structure Recorded (α : Type) where
  outcome : Except Error α
  notes : List Note := []

namespace Recorded

def bind {α β : Type} (x : Recorded α) (f : α → Recorded β) : Recorded β :=
  match x.outcome with
  | .error e => ⟨.error e, x.notes⟩
  | .ok a => ⟨(f a).outcome, x.notes ++ (f a).notes⟩

instance : Monad Recorded where
  pure a := ⟨.ok a, []⟩
  bind := bind

def fail {α : Type} (e : Error) : Recorded α :=
  ⟨.error e, []⟩

def note (n : Note) : Recorded Unit :=
  ⟨.ok (), [n]⟩

def ofExcept {α : Type} (x : Except Error α) : Recorded α :=
  ⟨x, []⟩

instance : MonadLift (Except Error) Recorded where
  monadLift := ofExcept

def log (level : LogLevel) (message : String) : Recorded Unit :=
  note (.logged { level, message })

def warn (message : String) : Recorded Unit :=
  log .warning message

@[simp] theorem outcome_pure {α : Type} (a : α) : (pure a : Recorded α).outcome = .ok a := rfl

@[simp] theorem notes_pure {α : Type} (a : α) : (pure a : Recorded α).notes = [] := rfl

theorem outcome_bind {α β : Type} (x : Recorded α) (f : α → Recorded β) :
    (x >>= f).outcome = x.outcome.bind fun a => (f a).outcome := by
  change (bind x f).outcome = _
  unfold bind
  cases x.outcome <;> rfl

theorem notes_bind_ok {α β : Type} {x : Recorded α} {f : α → Recorded β} {a : α}
    (h : x.outcome = .ok a) : (x >>= f).notes = x.notes ++ (f a).notes := by
  change (bind x f).notes = _
  simp [bind, h]

theorem notes_bind_error {α β : Type} {x : Recorded α} {f : α → Recorded β} {e : Error}
    (h : x.outcome = .error e) : (x >>= f).notes = x.notes := by
  change (bind x f).notes = _
  simp [bind, h]

end Recorded

end SqlBuilder
