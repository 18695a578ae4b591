import SqlBuilder.Proofs.Recorded.Calls
import SqlBuilder.Proofs.Sql.Text
import SqlBuilder.Dialect

/-!
Statements with the places of their identifiers left open. Main statement: parts that are filled in one by
one with what a hook answers are filled in when they are put together.
-/

namespace SqlBuilder

inductive OutlinePart where
  | text (s : String)
  /-- The place of an identifier. -/
  | identifier (name : String)

def OutlinePart.identifier? : OutlinePart → Option String
  | .text _ => none
  | .identifier name => some name

/-- The text of a statement but for its identifiers, which stand in it as they were given. -/
abbrev Outline := List OutlinePart

namespace Outline

def text (s : String) : Outline :=
  [.text s]

def separated (separator : String) (parts : List Outline) : Outline :=
  List.intercalate (text separator) parts

def enclosed (outline : Outline) : Outline :=
  text "(" ++ outline ++ text ")"

theorem separated_cons_cons (separator : String) (part part' : Outline) (parts : List Outline) :
    separated separator (part :: part' :: parts) =
      part ++ (text separator ++ separated separator (part' :: parts)) := by
  rw [separated, List.intercalate_cons_cons, List.append_assoc]
  rfl

@[simp] theorem separated_singleton (separator : String) (part : Outline) :
    separated separator [part] = part :=
  List.intercalate_singleton

theorem separated_ne_nil (separator : String) {part : Outline} (h : part ≠ []) (parts : List Outline) :
    separated separator (part :: parts) ≠ [] := by
  cases parts with
  | nil => simpa using h
  | cons part' parts =>
    rw [separated_cons_cons]
    simp [h]

/-! ### Identifiers -/

def identifiers (outline : Outline) : List String :=
  outline.filterMap OutlinePart.identifier?

@[simp] theorem identifiers_nil : identifiers [] = [] := rfl

@[simp] theorem identifiers_append (a b : Outline) : identifiers (a ++ b) = identifiers a ++ identifiers b :=
  List.filterMap_append

@[simp] theorem identifiers_text (s : String) : identifiers (text s) = [] := rfl

@[simp] theorem identifiers_enclosed (outline : Outline) : identifiers outline.enclosed = identifiers outline := by
  simp [enclosed]

@[simp] theorem identifiers_separated (separator : String) (parts : List Outline) :
    identifiers (separated separator parts) = parts.flatMap identifiers := by
  induction parts with
  | nil => rfl
  | cons part parts ih =>
    cases parts with
    | nil => simp
    | cons part' parts => simp [separated_cons_cons, ih]

/-! ### Identifiers that a hook writes -/

/-- The text has in the place of each identifier what the hook answered for it, and the hook was called for
each of them, in their order, and for nothing else. -/
inductive Answered (hook : Hook) (context : Value) : Outline → String → List (Value × Value) → Prop
  | nil : Answered hook context [] "" []
  | text {outline : Outline} {s rest : String} {calls : List (Value × Value)} :
      Answered hook context outline rest calls → Answered hook context (.text s :: outline) (s ++ rest) calls
  | identifier {outline : Outline} {name answer rest : String} {calls : List (Value × Value)} :
      hook.write name Name.quote context = .ok answer → Answered hook context outline rest calls →
      Answered hook context (.identifier name :: outline) (answer ++ rest) ((.text name, context) :: calls)

variable {hook : Hook} {context : Value}

theorem Answered.calls_eq {outline : Outline} {s : String} {calls : List (Value × Value)}
    (h : Answered hook context outline s calls) :
    calls = outline.identifiers.map fun name => (.text name, context) := by
  induction h with
  | nil => rfl
  | text _ ih => exact ih
  | identifier _ _ ih => exact congrArg _ ih

theorem answered_text (s : String) : Answered hook context (text s) s [] := by
  have hfilled : Answered hook context (text s) (s ++ "") [] := .text .nil
  rwa [String.append_empty] at hfilled

theorem answered_identifier {name answer : String} (h : hook.write name Name.quote context = .ok answer) :
    Answered hook context [.identifier name] answer [(.text name, context)] := by
  simpa using Answered.identifier h .nil

theorem Answered.append {a b : Outline} {s t : String} {first rest : List (Value × Value)}
    (ha : Answered hook context a s first) (hb : Answered hook context b t rest) :
    Answered hook context (a ++ b) (s ++ t) (first ++ rest) := by
  induction ha with
  | nil => simpa using hb
  | text _ ih =>
    rw [List.cons_append, String.append_assoc]
    exact .text ih
  | identifier hanswer _ ih =>
    rw [List.cons_append, String.append_assoc, List.cons_append]
    exact .identifier hanswer ih

theorem Answered.after_text {outline : Outline} {t : String} {calls : List (Value × Value)}
    (h : Answered hook context outline t calls) (s : String) :
    Answered hook context (Outline.text s ++ outline) (s ++ t) calls :=
  .text h

theorem Answered.before_text {outline : Outline} {t : String} {calls : List (Value × Value)}
    (h : Answered hook context outline t calls) (s : String) :
    Answered hook context (outline ++ Outline.text s) (t ++ s) calls := by
  simpa using h.append (answered_text s)

theorem Answered.enclosed {outline : Outline} {t : String} {calls : List (Value × Value)}
    (h : Answered hook context outline t calls) :
    Answered hook context outline.enclosed ("(" ++ t ++ ")") calls :=
  (h.after_text "(").before_text ")"

/-! ### Several parts -/

/-- Each part is filled in, one after the other. -/
inductive AnsweredEach (hook : Hook) (context : Value) :
    List Outline → List Sql → List (Value × Value) → Prop
  | nil : AnsweredEach hook context [] [] []
  | cons {outline : Outline} {outlines : List Outline} {part : Sql} {parts : List Sql}
      {first rest : List (Value × Value)} :
      Answered hook context outline part.text first → AnsweredEach hook context outlines parts rest →
      AnsweredEach hook context (outline :: outlines) (part :: parts) (first ++ rest)

theorem answeredEach_singleton {outline : Outline} {part : Sql} {calls : List (Value × Value)}
    (h : Answered hook context outline part.text calls) : AnsweredEach hook context [outline] [part] calls := by
  simpa using AnsweredEach.cons h .nil

theorem AnsweredEach.append {as bs : List Outline} {xs ys : List Sql} {first rest : List (Value × Value)}
    (ha : AnsweredEach hook context as xs first) (hb : AnsweredEach hook context bs ys rest) :
    AnsweredEach hook context (as ++ bs) (xs ++ ys) (first ++ rest) := by
  induction ha with
  | nil => exact hb
  | cons hpart _ ih =>
    rw [List.append_assoc]
    exact .cons hpart ih

theorem AnsweredEach.separated {outlines : List Outline} {parts : List Sql} {calls : List (Value × Value)}
    (h : AnsweredEach hook context outlines parts calls) (separator : String) :
    Answered hook context (separated separator outlines) (Sql.separated separator parts).text calls := by
  induction h with
  | nil => exact .nil
  | @cons outline outlines part parts first rest hpart hrest ih =>
    cases hrest with
    | nil => simpa using hpart
    | cons _ _ =>
      rw [separated_cons_cons, Sql.separated_cons_cons, Sql.text_append, Sql.text_append, Sql.text_code]
      exact hpart.append (ih.after_text separator)

/-- What is done for each member of a list fills in the parts for those members that are read. -/
theorem answeredEach_mapM {α β : Type} {f : α → Recorded Sql} {read : α → Option β} {outline : β → Outline}
    {xs : List α} (hpart : ∀ x ∈ xs, ∀ part calls, (f x).Gives part calls →
      ∃ y, read x = some y ∧ Answered hook context (outline y) part.text calls)
    {parts : List Sql} {calls : List (Value × Value)} (h : (xs.mapM f).Gives parts calls) :
    AnsweredEach hook context ((xs.filterMap read).map outline) parts calls := by
  induction xs generalizing parts calls with
  | nil =>
    obtain ⟨rfl, rfl⟩ := Recorded.gives_pure h
    exact .nil
  | cons x xs ih =>
    obtain ⟨hfirst, hothers⟩ := List.forall_mem_cons.mp hpart
    rw [List.mapM_cons] at h
    obtain ⟨part, first, rest, hx, htail, rfl⟩ := Recorded.gives_bind h
    obtain ⟨others, second, last, hxs, hlist, rfl⟩ := Recorded.gives_bind htail
    obtain ⟨rfl, rfl⟩ := Recorded.gives_pure hlist
    obtain ⟨y, hread, hanswered⟩ := hfirst part first hx
    rw [List.filterMap_cons_some hread, List.append_nil]
    exact .cons hanswered (ih hothers hxs)

end Outline

end SqlBuilder
