import SqlBuilder.Proofs.Recorded.Outcome

/-!
The calls of a caller's hook in a computation. Main statement: a sequence that succeeds has made the calls of
its parts, one part after the other.
-/

namespace SqlBuilder

/-- The identifier that the hook was called with, and the context. -/
def Note.call? : Note → Option (Value × Value)
  | .hooked identifier context => some (identifier, context)
  | .logged _ => none

namespace Recorded

variable {α β : Type}

def calls (x : Recorded α) : List (Value × Value) :=
  x.notes.filterMap Note.call?

/-- Succeeds with this result and has made these calls. -/
structure Gives (x : Recorded α) (a : α) (calls : List (Value × Value)) : Prop where
  outcome : x.outcome = .ok a
  calls : x.calls = calls

theorem gives_of_outcome {x : Recorded α} {a : α} (h : x.outcome = .ok a) : x.Gives a x.calls :=
  ⟨h, rfl⟩

theorem gives_pure {a b : α} {calls : List (Value × Value)} (h : (pure a : Recorded α).Gives b calls) :
    b = a ∧ calls = [] :=
  ⟨(Except.ok.inj h.outcome).symm, h.calls.symm⟩

theorem gives_ofExcept {x : Except Error α} {a : α} {calls : List (Value × Value)}
    (h : (ofExcept x).Gives a calls) : x = .ok a ∧ calls = [] :=
  ⟨h.outcome, h.calls.symm⟩

theorem gives_liftM {x : Except Error α} {a : α} {calls : List (Value × Value)}
    (h : (liftM x : Recorded α).Gives a calls) : x = .ok a ∧ calls = [] :=
  ⟨h.outcome, h.calls.symm⟩

theorem gives_bind {x : Recorded α} {f : α → Recorded β} {b : β} {calls : List (Value × Value)}
    (h : (x >>= f).Gives b calls) :
    ∃ a first rest, x.Gives a first ∧ (f a).Gives b rest ∧ calls = first ++ rest := by
  obtain ⟨a, ha, hb⟩ := bind_outcome_eq_ok.mp h.outcome
  refine ⟨a, x.calls, (f a).calls, ⟨ha, rfl⟩, ⟨hb, rfl⟩, ?_⟩
  rw [← h.calls, Recorded.calls, notes_bind_ok ha, List.filterMap_append]
  rfl

end Recorded

end SqlBuilder
