import SqlBuilder.Recorded

/-!
Computations that change a state and may fail. What was changed before a failure stays changed. Main
statements: the outcome and the state of a sequence, by the outcome of its first part.
-/

namespace SqlBuilder

def Run (σ α : Type) : Type :=
  σ → Except Error α × σ

namespace Run

variable {σ α β : Type}

def bind (x : Run σ α) (f : α → Run σ β) : Run σ β := fun s =>
  match x s with
  | (.ok a, t) => f a t
  | (.error e, t) => (.error e, t)

instance : Monad (Run σ) where
  pure a := fun s => (.ok a, s)
  bind := bind

def fail (e : Error) : Run σ α := fun s =>
  (.error e, s)

def ofExcept (x : Except Error α) : Run σ α := fun s =>
  (x, s)

def read (f : σ → α) : Run σ α := fun s =>
  (.ok (f s), s)

def change (f : σ → σ) : Run σ Unit := fun s =>
  (.ok (), f s)

/-- The outcome as a value, so that a failure can be looked at. -/
def attempt (x : Run σ α) : Run σ (Except Error α) := fun s =>
  (.ok (x s).1, (x s).2)

/-- A computation on a part of the state. -/
def within {τ : Type} (part : σ → τ) (put : τ → σ → σ) (x : Run τ α) : Run σ α := fun s =>
  ((x (part s)).1, put (x (part s)).2 s)

instance : MonadLift (Except Error) (Run σ) where
  monadLift := ofExcept

@[simp] theorem pure_apply (a : α) (s : σ) : (pure a : Run σ α) s = (.ok a, s) := rfl

theorem bind_ok {x : Run σ α} {f : α → Run σ β} {s t : σ} {a : α} (h : x s = (.ok a, t)) :
    (x >>= f) s = f a t := by
  change bind x f s = _
  simp [bind, h]

theorem bind_error {x : Run σ α} {f : α → Run σ β} {s t : σ} {e : Error}
    (h : x s = (.error e, t)) : (x >>= f) s = (.error e, t) := by
  change bind x f s = _
  simp [bind, h]

end Run

end SqlBuilder
