import SqlBuilder.Proofs.Recorded.Outcome

/-!
Two computations side by side. Main statements: sequences end alike if their parts do one by one, whether
the reason of a failure counts or not.
-/

namespace SqlBuilder.Recorded

variable {α β : Type}

/-- Both fail with the same error, or both succeed with results that are related. -/
def Relates (r : α → β → Prop) (x : Recorded α) (y : Recorded β) : Prop :=
  (∃ e, x.outcome = .error e ∧ y.outcome = .error e) ∨
    ∃ a b, x.outcome = .ok a ∧ y.outcome = .ok b ∧ r a b

theorem relates_ok {r : α → β → Prop} {x : Recorded α} {y : Recorded β} {a : α} {b : β}
    (hx : x.outcome = .ok a) (hy : y.outcome = .ok b) (h : r a b) : Relates r x y :=
  .inr ⟨a, b, hx, hy, h⟩

theorem Relates.mono {r s : α → β → Prop} {x : Recorded α} {y : Recorded β} (h : Relates r x y)
    (hrs : ∀ a b, r a b → s a b) : Relates s x y := by
  rcases h with herror | ⟨a, b, hx, hy, hr⟩
  · exact .inl herror
  · exact .inr ⟨a, b, hx, hy, hrs a b hr⟩

theorem relates_of_outcome_eq {x y : Recorded α} (h : x.outcome = y.outcome) : Relates Eq x y := by
  cases hy : y.outcome with
  | error e => exact .inl ⟨e, h.trans hy, hy⟩
  | ok a => exact .inr ⟨a, a, h.trans hy, hy, rfl⟩

/-- Sequences are related if their first parts are, and then the rest for any related results. -/
theorem Relates.bind {γ δ : Type} {r : α → β → Prop} {s : γ → δ → Prop} {x : Recorded α}
    {y : Recorded β} {f : α → Recorded γ} {g : β → Recorded δ} (h : Relates r x y)
    (hfg : ∀ a b, x.outcome = .ok a → y.outcome = .ok b → r a b → Relates s (f a) (g b)) :
    Relates s (x >>= f) (y >>= g) := by
  rcases h with ⟨e, hx, hy⟩ | ⟨a, b, hx, hy, hr⟩
  · left
    refine ⟨e, ?_, ?_⟩
    · rw [outcome_bind, hx]; rfl
    · rw [outcome_bind, hy]; rfl
  · have hf : (x >>= f).outcome = (f a).outcome := by rw [outcome_bind, hx]; rfl
    have hg : (y >>= g).outcome = (g b).outcome := by rw [outcome_bind, hy]; rfl
    rw [Relates, hf, hg]
    exact hfg a b hx hy hr

theorem relates_bind_ok {γ δ : Type} {s : γ → δ → Prop} {x : Recorded α} {y : Recorded β}
    {f : α → Recorded γ} {g : β → Recorded δ} {a : α} {b : β} (hx : x.outcome = .ok a)
    (hy : y.outcome = .ok b) (h : Relates s (f a) (g b)) : Relates s (x >>= f) (y >>= g) := by
  have hab : Relates (fun a' b' => a' = a ∧ b' = b) x y := relates_ok hx hy ⟨rfl, rfl⟩
  refine hab.bind fun a' b' _ _ heq => ?_
  rw [heq.1, heq.2]
  exact h

/-- The same computation first, and then what is related for each of its results. -/
theorem relates_bind_same {γ δ : Type} {s : γ → δ → Prop} (x : Recorded α) {f : α → Recorded γ}
    {g : α → Recorded δ} (hfg : ∀ a, x.outcome = .ok a → Relates s (f a) (g a)) :
    Relates s (x >>= f) (x >>= g) := by
  have hsame : Relates Eq x x := relates_of_outcome_eq rfl
  refine hsame.bind fun a b hx _ hab => ?_
  rw [← hab]
  exact hfg a hx

/-! ### Whatever the reason of a failure -/

/-- Both are refused, or both are accepted with results that are related. -/
inductive Agree (r : α → β → Prop) : Except Error α → Except Error β → Prop
  | ok {a : α} {b : β} (h : r a b) : Agree r (.ok a) (.ok b)
  | error (e e' : Error) : Agree r (.error e) (.error e')

theorem Agree.mono {r s : α → β → Prop} {x : Except Error α} {y : Except Error β} (h : Agree r x y)
    (hrs : ∀ a b, r a b → s a b) : Agree s x y := by
  cases h with
  | ok h => exact .ok (hrs _ _ h)
  | error e e' => exact .error e e'

theorem Agree.bind {γ δ : Type} {r : α → β → Prop} {s : γ → δ → Prop} {x : Except Error α}
    {y : Except Error β} {f : α → Except Error γ} {g : β → Except Error δ} (h : Agree r x y)
    (hfg : ∀ a b, r a b → Agree s (f a) (g b)) : Agree s (x >>= f) (y >>= g) := by
  cases h with
  | ok h => exact hfg _ _ h
  | error e e' => exact .error e e'

theorem agree_refl {r : α → α → Prop} (hr : ∀ a, r a a) (x : Except Error α) : Agree r x x := by
  cases x with
  | error e => exact .error e e
  | ok a => exact .ok (hr a)

theorem agree_bind_same {γ δ : Type} {s : γ → δ → Prop} (x : Except Error α) {f : α → Except Error γ}
    {g : α → Except Error δ} (hfg : ∀ a, Agree s (f a) (g a)) : Agree s (x >>= f) (x >>= g) := by
  refine (agree_refl (fun _ => rfl) x).bind fun a b hab => ?_
  rw [← hab]
  exact hfg a

/-- Lists are gone through alike if each step is taken alike. -/
theorem agree_foldlM {γ : Type} {r : α → β → Prop} {f : α → γ → Except Error α}
    {g : β → γ → Except Error β} (xs : List γ)
    (hfg : ∀ a b, ∀ x ∈ xs, r a b → Agree r (f a x) (g b x)) {a : α} {b : β} (hab : r a b) :
    Agree r (xs.foldlM f a) (xs.foldlM g b) := by
  induction xs generalizing a b with
  | nil => exact .ok hab
  | cons x xs ih =>
    rw [List.foldlM_cons, List.foldlM_cons]
    refine (hfg a b x List.mem_cons_self hab).bind fun a' b' hab' => ?_
    exact ih (fun a b y hy => hfg a b y (List.mem_cons_of_mem x hy)) hab'

/-- What is done for members that are related one by one is done alike for the lists of them. -/
theorem agree_mapM {γ δ : Type} {r : α → β → Prop} {s : γ → δ → Prop} {f : α → Except Error γ}
    {g : β → Except Error δ} {xs : List α} {ys : List β} (h : List.Forall₂ r xs ys)
    (hfg : ∀ a b, r a b → Agree s (f a) (g b)) : Agree (List.Forall₂ s) (xs.mapM f) (ys.mapM g) := by
  induction h with
  | nil => exact .ok .nil
  | cons hab _ ih =>
    rw [List.mapM_cons, List.mapM_cons]
    exact (hfg _ _ hab).bind fun c d hcd => ih.bind fun cs ds hrest => .ok (.cons hcd hrest)

end SqlBuilder.Recorded
