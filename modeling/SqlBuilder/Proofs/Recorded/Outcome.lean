import Mathlib.Data.List.Forall2
import SqlBuilder.Recorded

/-!
Outcomes of computations built from parts. Main statements: a sequence succeeds exactly when its parts
do, and what is done for every member of a list succeeds exactly when it does for each of them.
-/

namespace SqlBuilder.Recorded

variable {α β : Type}

theorem ext_fields {x y : Recorded α} (outcomes : x.outcome = y.outcome) (notes : x.notes = y.notes) :
    x = y := by
  cases x
  cases y
  simp only at outcomes notes
  rw [outcomes, notes]

@[simp] theorem outcome_ofExcept (x : Except Error α) : (ofExcept x).outcome = x := rfl

@[simp] theorem outcome_liftM (x : Except Error α) : (liftM x : Recorded α).outcome = x := rfl

theorem except_bind_eq_ok {x : Except Error α} {f : α → Except Error β} {b : β} :
    x >>= f = .ok b ↔ ∃ a, x = .ok a ∧ f a = .ok b := by
  constructor
  · intro h
    cases x with
    | error e => cases h
    | ok a => exact ⟨a, rfl, h⟩
  · intro h
    obtain ⟨a, rfl, h⟩ := h
    exact h

theorem except_mapM_eq_ok {f : α → Except Error β} {xs : List α} {ys : List β} :
    xs.mapM f = .ok ys ↔ List.Forall₂ (fun x y => f x = .ok y) xs ys := by
  induction xs generalizing ys with
  | nil => simp [pure, Except.pure, eq_comm]
  | cons x xs ih =>
    rw [List.mapM_cons, except_bind_eq_ok, List.forall₂_cons_left_iff]
    constructor
    · intro h
      obtain ⟨y, hy, h⟩ := h
      obtain ⟨zs, hz, h⟩ := except_bind_eq_ok.mp h
      exact ⟨y, zs, hy, ih.mp hz, (Except.ok.inj h).symm⟩
    · intro h
      obtain ⟨y, zs, hy, hz, rfl⟩ := h
      exact ⟨y, hy, except_bind_eq_ok.mpr ⟨zs, ih.mpr hz, rfl⟩⟩

theorem except_forM_eq_ok {f : α → Except Error Unit} {xs : List α} :
    xs.forM f = .ok () ↔ ∀ x ∈ xs, f x = .ok () := by
  induction xs with
  | nil => simp [pure, Except.pure]
  | cons x xs ih =>
    rw [List.forM_eq_forM] at ih ⊢
    rw [List.forM_cons, except_bind_eq_ok, List.forall_mem_cons, ← ih]
    constructor
    · intro h
      obtain ⟨⟨⟩, hx, hxs⟩ := h
      exact ⟨hx, hxs⟩
    · intro h
      exact ⟨(), h.1, h.2⟩

/-- A sequence succeeds when both of its parts do. -/
theorem bind_outcome_eq_ok {x : Recorded α} {f : α → Recorded β} {b : β} :
    (x >>= f).outcome = .ok b ↔ ∃ a, x.outcome = .ok a ∧ (f a).outcome = .ok b := by
  rw [outcome_bind]
  exact except_bind_eq_ok

theorem pure_bind_eq (a : α) (f : α → Recorded β) : (pure a >>= f) = f a := by
  apply ext_fields
  · rw [outcome_bind]; rfl
  · rw [notes_bind_ok (outcome_pure a)]; simp

theorem bind_pure_eq (x : Recorded α) : (x >>= pure) = x := by
  cases h : x.outcome with
  | error e =>
    apply ext_fields
    · rw [outcome_bind, h]; rfl
    · rw [notes_bind_error h]
  | ok a =>
    apply ext_fields
    · rw [outcome_bind, h]; rfl
    · rw [notes_bind_ok h]; simp

theorem bind_assoc_eq {γ : Type} (x : Recorded α) (f : α → Recorded β) (g : β → Recorded γ) :
    (x >>= f >>= g) = (x >>= fun a => f a >>= g) := by
  cases h : x.outcome with
  | error e =>
    have hf : (x >>= f).outcome = .error e := by rw [outcome_bind, h]; rfl
    apply ext_fields
    · simp only [outcome_bind, h]; rfl
    · rw [notes_bind_error hf, notes_bind_error h, notes_bind_error h]
  | ok a =>
    have hf : (x >>= f).outcome = (f a).outcome := by rw [outcome_bind, h]; rfl
    cases k : (f a).outcome with
    | error e =>
      apply ext_fields
      · simp only [outcome_bind, h]; rfl
      · rw [notes_bind_error (hf.trans k), notes_bind_ok h, notes_bind_ok h, notes_bind_error k]
    | ok b =>
      apply ext_fields
      · simp only [outcome_bind, h]; rfl
      · rw [notes_bind_ok (hf.trans k), notes_bind_ok h, notes_bind_ok h, notes_bind_ok k,
          List.append_assoc]

instance : LawfulMonad Recorded :=
  LawfulMonad.mk' Recorded bind_pure_eq pure_bind_eq bind_assoc_eq

theorem mapM_outcome (f : α → Recorded β) (xs : List α) :
    (xs.mapM f).outcome = xs.mapM fun x => (f x).outcome := by
  induction xs with
  | nil => rfl
  | cons x xs ih =>
    rw [List.mapM_cons, List.mapM_cons, ← ih]
    simp only [outcome_bind]
    rfl

/-- A list of results holds one for each member, in order. -/
theorem mapM_outcome_eq_ok {f : α → Recorded β} {xs : List α} {ys : List β} :
    (xs.mapM f).outcome = .ok ys ↔ List.Forall₂ (fun x y => (f x).outcome = .ok y) xs ys := by
  rw [mapM_outcome]
  exact except_mapM_eq_ok

/-- What follows for whatever is related to a member holds of all members of the other list. -/
theorem forall_mem_of_forall₂ {r : α → β → Prop} {xs : List α} {ys : List β} {p : β → Prop}
    (h : List.Forall₂ r xs ys) (hp : ∀ x ∈ xs, ∀ y, r x y → p y) : ∀ y ∈ ys, p y := by
  induction h with
  | nil => simp
  | @cons x y xs ys hxy _ ih =>
    obtain ⟨hx, hxs⟩ := List.forall_mem_cons.mp hp
    exact List.forall_mem_cons.mpr ⟨hx y hxy, ih hxs⟩

theorem exists_mem_of_forall₂ {r : α → β → Prop} {xs : List α} {ys : List β} (h : List.Forall₂ r xs ys) {x : α}
    (hx : x ∈ xs) : ∃ y ∈ ys, r x y := by
  induction h with
  | nil => cases hx
  | @cons x' y xs ys hxy _ ih =>
    rcases List.mem_cons.mp hx with rfl | hx
    · exact ⟨y, List.mem_cons_self, hxy⟩
    · obtain ⟨z, hz, hxz⟩ := ih hx
      exact ⟨z, List.mem_cons_of_mem y hz, hxz⟩

/-- What holds of the result for every member holds of all results. -/
theorem forall_mem_mapM {f : α → Recorded β} {xs : List α} {ys : List β} {p : β → Prop}
    (h : (xs.mapM f).outcome = .ok ys) (hp : ∀ x ∈ xs, ∀ y, (f x).outcome = .ok y → p y) :
    ∀ y ∈ ys, p y :=
  forall_mem_of_forall₂ (mapM_outcome_eq_ok.mp h) hp

/-! ### Kinds of failure -/

/-- If there is a failure, it is one of these. -/
def FailsOnly (p : Error → Prop) (x : Except Error α) : Prop :=
  ∀ e, x = .error e → p e

variable {p : Error → Prop}

theorem failsOnly_ok (a : α) : FailsOnly p (.ok a) := by
  intro e h
  cases h

theorem failsOnly_error {e : Error} (h : p e) : FailsOnly p (.error e : Except Error α) := by
  intro e' heq
  cases heq
  exact h

theorem FailsOnly.bind {x : Except Error α} {f : α → Except Error β} (hx : FailsOnly p x)
    (hf : ∀ a, FailsOnly p (f a)) : FailsOnly p (x >>= f) := by
  cases x with
  | error e => exact failsOnly_error (hx e rfl)
  | ok a => exact hf a

theorem FailsOnly.map {x : Except Error α} (hx : FailsOnly p x) (f : α → β) : FailsOnly p (f <$> x) := by
  cases x with
  | error e => exact failsOnly_error (hx e rfl)
  | ok a => exact failsOnly_ok (f a)

theorem failsOnly_mapM {f : α → Except Error β} (xs : List α) (hf : ∀ a, FailsOnly p (f a)) :
    FailsOnly p (xs.mapM f) := by
  induction xs with
  | nil => exact failsOnly_ok []
  | cons x xs ih =>
    rw [List.mapM_cons]
    exact (hf x).bind fun y => ih.bind fun ys => failsOnly_ok (y :: ys)

theorem failsOnly_outcome_bind {x : Recorded α} {f : α → Recorded β} (hx : FailsOnly p x.outcome)
    (hf : ∀ a, FailsOnly p (f a).outcome) : FailsOnly p (x >>= f).outcome := by
  rw [Recorded.outcome_bind]
  exact hx.bind hf

end SqlBuilder.Recorded
