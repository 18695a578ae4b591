import SqlBuilder.Run

/-!
Computations on a state, one after another. Main statements: what each part of a sequence keeps, or shows
through a view of the state, the whole of it keeps or shows.
-/

namespace SqlBuilder.Run

variable {σ τ α β γ : Type}

theorem bind_pure_eq (x : Run σ α) : (x >>= pure) = x := by
  funext s
  cases h : x s with
  | mk outcome t =>
    cases outcome with
    | ok a => exact bind_ok h
    | error e => exact bind_error h

theorem bind_assoc_eq (x : Run σ α) (f : α → Run σ β) (g : β → Run σ γ) :
    (x >>= f >>= g) = (x >>= fun a => f a >>= g) := by
  funext s
  cases h : x s with
  | mk outcome t =>
    cases outcome with
    | ok a =>
      rw [bind_ok h]
      cases k : f a t with
      | mk outcome u =>
        have hfirst : (x >>= f) s = (outcome, u) := (bind_ok h).trans k
        cases outcome with
        | ok b => rw [bind_ok k, bind_ok hfirst]
        | error e => rw [bind_error k, bind_error hfirst]
    | error e =>
      have hfirst : (x >>= f) s = (.error e, t) := bind_error h
      rw [bind_error h, bind_error hfirst]

instance : LawfulMonad (Run σ) :=
  LawfulMonad.mk' (Run σ) bind_pure_eq (fun _ _ => rfl) bind_assoc_eq

theorem attempt_eq {x : Run σ α} {s t : σ} {outcome : Except Error α} (h : x s = (outcome, t)) :
    attempt x s = (.ok outcome, t) := by
  simp [attempt, h]

/-! ### What is kept -/

/-- A part of the state is the same in the end, also if the computation fails. -/
def Keeps (part : σ → β) (x : Run σ α) : Prop :=
  ∀ s, part (x s).2 = part s

variable {part : σ → β}

theorem keeps_pure (a : α) : Keeps part (pure a : Run σ α) :=
  fun _ => rfl

theorem keeps_fail (e : Error) : Keeps part (fail e : Run σ α) :=
  fun _ => rfl

theorem keeps_ofExcept (x : Except Error α) : Keeps part (ofExcept x : Run σ α) :=
  fun _ => rfl

theorem keeps_read (f : σ → α) : Keeps part (read f) :=
  fun _ => rfl

theorem Keeps.bind {x : Run σ α} {f : α → Run σ γ} (hx : Keeps part x) (hf : ∀ a, Keeps part (f a)) :
    Keeps part (x >>= f) := by
  intro s
  cases h : x s with
  | mk outcome t =>
    have hfirst : part t = part s := by
      have hkept := hx s
      rwa [h] at hkept
    cases outcome with
    | ok a => rw [bind_ok h, hf a t, hfirst]
    | error e => rw [bind_error h, hfirst]

theorem Keeps.attempt {x : Run σ α} (hx : Keeps part x) : Keeps part (attempt x) :=
  hx

/-! ### Views of a state -/

/-- Through the view, one computation looks like the other. -/
def Views (view : σ → τ) (x : Run σ α) (y : Run τ α) : Prop :=
  ∀ s, y (view s) = ((x s).1, view (x s).2)

variable {view : σ → τ}

theorem views_pure (a : α) : Views view (pure a) (pure a) :=
  fun _ => rfl

theorem views_fail (e : Error) : Views view (fail e : Run σ α) (fail e) :=
  fun _ => rfl

theorem views_ofExcept (x : Except Error α) : Views view (ofExcept x) (ofExcept x) :=
  fun _ => rfl

theorem Views.bind {x : Run σ α} {y : Run τ α} {f : α → Run σ β} {g : α → Run τ β}
    (hxy : Views view x y) (hfg : ∀ a, Views view (f a) (g a)) : Views view (x >>= f) (y >>= g) := by
  intro s
  have hfirst : y (view s) = ((x s).1, view (x s).2) := hxy s
  cases h : x s with
  | mk outcome t =>
    rw [h] at hfirst
    cases outcome with
    | ok a => rw [bind_ok h, bind_ok hfirst, hfg a t]
    | error e => rw [bind_error h, bind_error hfirst]

theorem Views.attempt {x : Run σ α} {y : Run τ α} (hxy : Views view x y) :
    Views view (attempt x) (attempt y) := by
  intro s
  simp [Run.attempt, hxy s]

theorem views_mapM {f : α → Run σ β} {g : α → Run τ β} (hfg : ∀ a, Views view (f a) (g a))
    (xs : List α) : Views view (xs.mapM f) (xs.mapM g) := by
  induction xs with
  | nil => exact views_pure []
  | cons x xs ih =>
    rw [List.mapM_cons, List.mapM_cons]
    exact (hfg x).bind fun y => ih.bind fun ys => views_pure (y :: ys)

end SqlBuilder.Run
