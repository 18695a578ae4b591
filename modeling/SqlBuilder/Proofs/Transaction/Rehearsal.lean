import SqlBuilder.Proofs.Transaction.Crossing

/-!
Crossings one after another. Main statements: what each of them keeps, all of them keep, in one run or in
two side by side; where no statement fails, a crossing adds what it does to the notes of the rehearsal.
-/

namespace SqlBuilder.Transaction

variable {σ τ : Type}

/-- How each of the crossings ends and how deep it leaves the transaction. One that fails does not keep the
next from being tried. -/
def crossEach (dialect : Dialect) (host : Host σ) :
    List Crossing → Scope σ → List (Except Error Unit × Nat) × Scope σ
  | [], scope => ([], scope)
  | crossing :: crossings, scope =>
    let crossed := cross dialect host crossing scope
    let rest := crossEach dialect host crossings crossed.2
    ((crossed.1, crossed.2.transaction.depth) :: rest.1, rest.2)

theorem crossEach_keeps {dialect : Dialect} {host : Host σ} {p : Scope σ → Prop}
    {crossings : List Crossing}
    (hcross : ∀ crossing ∈ crossings, ∀ scope, p scope → p (cross dialect host crossing scope).2)
    {scope : Scope σ} (h : p scope) : p (crossEach dialect host crossings scope).2 := by
  induction crossings generalizing scope with
  | nil => exact h
  | cons crossing crossings ih =>
    obtain ⟨hfirst, hrest⟩ := List.forall_mem_cons.mp hcross
    exact ih hrest (hfirst scope h)

/-- Two runs of the same crossings that start alike go on alike. -/
theorem crossEach_relates {dialect dialect' : Dialect} {host : Host σ} {host' : Host τ}
    {r : Scope σ → Scope τ → Prop}
    (hdepth : ∀ {s t}, r s t → s.transaction.depth = t.transaction.depth)
    (hcross : ∀ crossing {s t}, r s t →
      (cross dialect host crossing s).1 = (cross dialect' host' crossing t).1 ∧
        r (cross dialect host crossing s).2 (cross dialect' host' crossing t).2)
    (crossings : List Crossing) {s : Scope σ} {t : Scope τ} (h : r s t) :
    (crossEach dialect host crossings s).1 = (crossEach dialect' host' crossings t).1 ∧
      r (crossEach dialect host crossings s).2 (crossEach dialect' host' crossings t).2 := by
  induction crossings generalizing s t with
  | nil => exact ⟨rfl, h⟩
  | cons crossing crossings ih =>
    obtain ⟨houtcome, hnext⟩ := hcross crossing h
    obtain ⟨hrest, hlast⟩ := ih hnext
    refine ⟨?_, hlast⟩
    simp only [crossEach, houtcome, hdepth hnext, hrest]

/-! ### Rehearsals in which nothing fails -/

namespace Rehearsal

/-- The notes after one more effect. -/
def noting (rehearsal : Rehearsal) : Effect → Rehearsal
  | .send sql => { rehearsal with sent := rehearsal.sent ++ [sql] }
  | .warn message => { rehearsal with warnings := rehearsal.warnings ++ [message] }

@[simp] theorem failures_noting (rehearsal : Rehearsal) (effect : Effect) :
    (rehearsal.noting effect).failures = rehearsal.failures := by
  cases effect <;> rfl

theorem perform_eq {rehearsal : Rehearsal} (h : rehearsal.failures = []) (effect : Effect) :
    host.perform effect rehearsal = (.ok (), rehearsal.noting effect) := by
  cases effect with
  | warn message => rfl
  | send sql =>
    obtain ⟨sent, warnings, failures⟩ := rehearsal
    obtain rfl : failures = [] := h
    rfl

end Rehearsal

theorem cross_rehearsed {dialect : Dialect} {crossing : Crossing} {scope : Scope Rehearsal} {plan : Plan}
    (hserves : scope.host.failures = []) (h : scope.transaction.plan dialect crossing = .ok plan) :
    cross dialect Rehearsal.host crossing scope =
      (.ok (), ⟨scope.host.noting plan.effect, plan.after⟩) :=
  cross_done h (Rehearsal.perform_eq hserves plan.effect)

/-! ### Kinds of statements -/

/-- The statement begins with these words. -/
def starts (words sql : String) : Bool :=
  words.toList.isPrefixOf sql.toList

theorem starts_append (words rest : String) : starts words (words ++ rest) = true := by
  rw [starts, String.toList_append]
  exact List.isPrefixOf_iff_prefix.mpr (List.prefix_append _ _)

end SqlBuilder.Transaction
