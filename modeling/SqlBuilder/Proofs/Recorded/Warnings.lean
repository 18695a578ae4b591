import SqlBuilder.Dialect
import SqlBuilder.Proofs.Recorded.Outcome

/-!
The warnings of a computation. Main statement: writing identifiers warns of nothing, whoever writes them.
-/

namespace SqlBuilder

/-- The message of a warning. -/
def Note.warning? : Note → Option String
  | .logged { level := .warning, message, .. } => some message
  | _ => none

namespace Recorded

variable {α β : Type}

def warnings (x : Recorded α) : List String :=
  x.notes.filterMap Note.warning?

/-- Warned of once if this holds, and else not at all. -/
structure WarnsOnceIff (x : Recorded α) (message : String) (p : Prop) : Prop where
  count_le : x.warnings.count message ≤ 1
  mem_iff : message ∈ x.warnings ↔ p

theorem warnsOnceIff_of_none {x : Recorded α} (h : x.warnings = []) {message : String} {p : Prop} (hp : ¬ p) :
    x.WarnsOnceIff message p := by
  refine ⟨?_, ?_⟩
  · simp [h]
  · simp [h, hp]

theorem warnsOnceIff_of_one {x : Recorded α} {given : String} (h : x.warnings = [given]) {message : String}
    {p : Prop} (hp : message = given ↔ p) : x.WarnsOnceIff message p := by
  refine ⟨?_, ?_⟩
  · rw [h]
    exact List.count_le_length
  · rw [h, List.mem_singleton, hp]

theorem warnings_bind_ok {x : Recorded α} {f : α → Recorded β} {a : α} (h : x.outcome = .ok a) :
    (x >>= f).warnings = x.warnings ++ (f a).warnings := by
  rw [warnings, notes_bind_ok h, List.filterMap_append]
  rfl

theorem warnings_bind_nil {x : Recorded α} {f : α → Recorded β} (hx : x.warnings = [])
    (hf : ∀ a, (f a).warnings = []) : (x >>= f).warnings = [] := by
  cases h : x.outcome with
  | error e => rw [warnings, notes_bind_error h]; exact hx
  | ok a => rw [warnings_bind_ok h, hx, hf a, List.append_nil]

theorem mem_warnings_bind_left {x : Recorded α} {f : α → Recorded β} {message : String} (h : message ∈ x.warnings) :
    message ∈ (x >>= f).warnings := by
  cases hx : x.outcome with
  | error e => rwa [warnings, notes_bind_error hx]
  | ok a =>
    rw [warnings_bind_ok hx]
    exact List.mem_append_left _ h

theorem mem_warnings_bind_right {x : Recorded α} {f : α → Recorded β} {a : α} {message : String}
    (hx : x.outcome = .ok a) (h : message ∈ (f a).warnings) : message ∈ (x >>= f).warnings := by
  rw [warnings_bind_ok hx]
  exact List.mem_append_right _ h

/-- What is warned of for one member is warned of, if nothing fails before it. -/
theorem mem_warnings_mapM {f : α → Recorded β} {xs : List α} {ys : List β} {x : α} {message : String}
    (hok : (xs.mapM f).outcome = .ok ys) (hx : x ∈ xs) (h : message ∈ (f x).warnings) :
    message ∈ (xs.mapM f).warnings := by
  induction xs generalizing ys with
  | nil => cases hx
  | cons first rest ih =>
    rw [List.mapM_cons] at hok ⊢
    obtain ⟨y, hy, hok⟩ := bind_outcome_eq_ok.mp hok
    obtain ⟨zs, hzs, -⟩ := bind_outcome_eq_ok.mp hok
    rcases List.mem_cons.mp hx with rfl | hx
    · exact mem_warnings_bind_left h
    · exact mem_warnings_bind_right hy (mem_warnings_bind_left (ih hzs hx))

theorem warnings_mapM {f : α → Recorded β} (h : ∀ a, (f a).warnings = []) (xs : List α) :
    (xs.mapM f).warnings = [] := by
  induction xs with
  | nil => rfl
  | cons x xs ih =>
    rw [List.mapM_cons]
    exact warnings_bind_nil (h x) fun _ => warnings_bind_nil ih fun _ => rfl

end Recorded

namespace Dialect

open Recorded

variable (dialect : Dialect)

theorem warnings_wrapName (name : List Char) (context : Value) : (dialect.wrapName name context).warnings = [] := by
  refine warnings_bind_nil ?_ fun _ => rfl
  cases dialect with
  | ansi supportsReturning => rfl
  | snowflake folds hook => cases hook <;> rfl

theorem warnings_wrap (reference : String) (context : Value) : (dialect.wrap reference context).warnings = [] := by
  have hatom : ∀ atom, (dialect.wrapAtom atom context).warnings = [] := by
    intro atom
    rw [wrapAtom]
    split
    · rfl
    · exact dialect.warnings_wrapName atom context
  refine warnings_bind_nil (warnings_bind_nil (warnings_mapM hatom _) fun _ => rfl) fun atoms => ?_
  split
  · rfl
  · exact warnings_bind_nil (dialect.warnings_wrapName _ context) fun _ => rfl

theorem warnings_wrapValue (reference context : Value) : (dialect.wrapValue reference context).warnings = [] :=
  warnings_bind_nil rfl fun name => dialect.warnings_wrap name context

theorem warnings_columnize (columns : List Value) (context : Value) :
    (dialect.columnize columns context).warnings = [] :=
  warnings_bind_nil (warnings_mapM (fun column => dialect.warnings_wrapValue column context) columns) fun _ => rfl

end Dialect

end SqlBuilder
