import Mathlib.Data.List.Forall2
import SqlBuilder.Proofs.Sql.Placeholder
import SqlBuilder.Proofs.Sql.Text

/-!
Where the values of a statement are bound. Main statement: where code and names leave no quote open and
hold no placeholder outside quotes, the placeholders of the text are those of the slots, in their order.
-/

namespace SqlBuilder

open Placeholder

/-- The text read so far ends in `lead`, and what it held before that is `start`. -/
def After (start : List Char → Prop) (lead : String) (before : List Char) : Prop :=
  ∃ head, before = head ++ lead.toList ∧ start head

theorem After.append {start : List Char → Prop} {lead : String} {before : List Char}
    (h : After start lead before) (s : String) : After start (lead ++ s) (before ++ s.toList) := by
  obtain ⟨head, rfl, hstart⟩ := h
  exact ⟨head, by simp, hstart⟩

def OutsideQuotes (cs : List Char) : Prop :=
  quoteAfter none cs = none

/-- A condition has begun. -/
def InCondition (cs : List Char) : Prop :=
  ∃ head between, cs = head ++ ("where ".toList ++ between) ∧ OutsideQuotes head

theorem InCondition.append {before : List Char} (h : InCondition before) (cs : List Char) :
    InCondition (before ++ cs) := by
  obtain ⟨head, between, rfl, hhead⟩ := h
  exact ⟨head, between ++ cs, by simp, hhead⟩

/-- What stands before a placeholder, and what is bound to it. A place in a list of assignments or of
rows is told by all that the clause holds before it, one in a condition by its comparison. -/
inductive Site where
  | listed (clause : String) (value : Value)
  | compared (comparison : String) (value : Value)

namespace Site

def value : Site → Value
  | listed _ value => value
  | compared _ value => value

/-- The text read so far ends at this place, and the clause or the condition began outside quotes. -/
def EndsAt (before : List Char) : Site → Prop
  | listed clause _ => After OutsideQuotes clause before
  | compared comparison _ => After InCondition comparison before

/-- The sites of a list with commas between its members: each is told by the members before it. -/
def ofList {α : Type} (part : α → Sql) (site : String → α → List Site) (lead : String) :
    List α → List Site
  | [] => []
  | x :: xs => site lead x ++ ofList part site (lead ++ ((part x).text ++ ", ")) xs

end Site

namespace Sql

@[simp] theorem toList_text_slot (value : Value) : (Piece.slot value).text.toList = [mark] := by
  simp [Piece.text, Piece.placeholder, mark]

/-- Code and names that neither open a quote nor hold a placeholder. -/
def Quiet (sql : Sql) : Prop :=
  ∀ piece ∈ sql, piece.binding? = none ∧ Calm piece.text.toList

/-- Read after `before`, the slots are at these sites, and all the rest is quiet. -/
inductive Binds : List Char → Sql → List Site → Prop
  | nil {before : List Char} : Binds before [] []
  | quiet {before : List Char} {piece : Piece} {sql : Sql} {sites : List Site} :
      piece.binding? = none → Calm piece.text.toList →
      Binds (before ++ piece.text.toList) sql sites → Binds before (piece :: sql) sites
  | slot {before : List Char} {sql : Sql} {site : Site} {sites : List Site} :
      site.EndsAt before → Binds (before ++ [mark]) sql sites →
      Binds before (.slot site.value :: sql) (site :: sites)

theorem binds_listed {clause : String} {value : Value} {before : List Char}
    (h : After OutsideQuotes clause before) : Binds before [.slot value] [.listed clause value] := by
  have hends : (Site.listed clause value).EndsAt before := h
  exact .slot hends .nil

theorem binds_compared {comparison : String} {value : Value} {before : List Char}
    (h : After InCondition comparison before) : Binds before [.slot value] [.compared comparison value] := by
  have hends : (Site.compared comparison value).EndsAt before := h
  exact .slot hends .nil

theorem quiet_nil : Quiet [] := by
  intro piece h
  simp at h

theorem Quiet.append {a b : Sql} (ha : Quiet a) (hb : Quiet b) : Quiet (a ++ b) := by
  intro piece h
  rcases List.mem_append.mp h with h | h
  · exact ha piece h
  · exact hb piece h

theorem quiet_code {s : String} (h : s.toList.all isPlain = true) : Quiet (code s) := by
  intro piece hp
  obtain rfl : piece = .code s := by simpa [code] using hp
  exact ⟨rfl, calm_of_plain h⟩

theorem quiet_name {cs : List Char} (h : Name.IsIdentifier cs) : Quiet [.name (String.ofList cs)] := by
  intro piece hp
  obtain rfl : piece = .name (String.ofList cs) := by simpa using hp
  exact ⟨rfl, by simpa [Piece.text] using calm_of_isIdentifier h⟩

theorem quiet_separated {separator : String} {parts : List Sql}
    (hsep : separator.toList.all isPlain = true) (hparts : ∀ part ∈ parts, Quiet part) :
    Quiet (separated separator parts) := by
  induction parts with
  | nil => exact quiet_nil
  | cons part parts ih =>
    obtain ⟨hpart, hrest⟩ := List.forall_mem_cons.mp hparts
    cases parts with
    | nil => rwa [separated_singleton]
    | cons part' parts =>
      rw [separated_cons_cons]
      exact hpart.append ((quiet_code hsep).append (ih hrest))

theorem Quiet.binds {sql : Sql} (h : Quiet sql) (before : List Char) : Binds before sql [] := by
  induction sql generalizing before with
  | nil => exact .nil
  | cons piece sql ih =>
    obtain ⟨hpiece, hrest⟩ := List.forall_mem_cons.mp h
    exact .quiet hpiece.1 hpiece.2 (ih hrest _)

theorem Binds.append {before : List Char} {a b : Sql} {s t : List Site} (ha : Binds before a s)
    (hb : Binds (before ++ a.text.toList) b t) : Binds before (a ++ b) (s ++ t) := by
  induction ha with
  | nil => simpa using hb
  | quiet hnone hcalm _ ih => exact .quiet hnone hcalm (ih (by simpa using hb))
  | slot hends _ ih =>
    refine .slot hends (ih ?_)
    simpa using hb

theorem Binds.quiet_append {before : List Char} {a b : Sql} {t : List Site} (ha : Quiet a)
    (hb : Binds (before ++ a.text.toList) b t) : Binds before (a ++ b) t :=
  (ha.binds before).append hb

theorem Binds.bindings {before : List Char} {sql : Sql} {sites : List Site}
    (h : Binds before sql sites) : sql.bindings = sites.map Site.value := by
  induction h with
  | nil => rfl
  | quiet hnone _ _ ih => rw [Sql.bindings, List.filterMap_cons_none hnone]; exact ih
  | slot _ _ ih =>
    rw [List.map_cons, ← ih]
    rfl

/-- Read from outside quotes, the text ends outside quotes with one placeholder for each site. -/
theorem Binds.scan {before : List Char} {sql : Sql} {sites : List Site} (h : Binds before sql sites) :
    quoteAfter none sql.text.toList = none ∧ countFrom none sql.text.toList = sites.length := by
  induction h with
  | nil => exact ⟨rfl, rfl⟩
  | quiet _ hcalm _ ih =>
    rw [toList_text_cons, quoteAfter_append, countFrom_append, hcalm.1, hcalm.2]
    exact ⟨ih.1, by rw [ih.2, Nat.zero_add]⟩
  | slot _ _ ih =>
    rw [toList_text_cons, toList_text_slot, quoteAfter_append, countFrom_append]
    refine ⟨ih.1, ?_⟩
    change 1 + countFrom none _ = _
    rw [ih.2, List.length_cons, Nat.add_comm]

/-- Wherever it is read outside quotes, the slots are at these sites. -/
def BindsAt (sql : Sql) (sites : List Site) : Prop :=
  ∀ before, OutsideQuotes before → Binds before sql sites

theorem Quiet.bindsAt {sql : Sql} (h : Quiet sql) : BindsAt sql [] :=
  fun before _ => h.binds before

theorem BindsAt.append {a b : Sql} {s t : List Site} (ha : BindsAt a s) (hb : BindsAt b t) :
    BindsAt (a ++ b) (s ++ t) := by
  intro before hbefore
  refine (ha before hbefore).append (hb _ ?_)
  rw [OutsideQuotes, quoteAfter_append, hbefore, (ha before hbefore).scan.1]

theorem bindsAt_separated {separator : String} {parts : List Sql} {sites : List (List Site)}
    (hsep : separator.toList.all isPlain = true) (hparts : List.Forall₂ BindsAt parts sites) :
    BindsAt (separated separator parts) sites.flatten := by
  induction hparts with
  | nil => exact quiet_nil.bindsAt
  | @cons part first parts rest hpart hrest ih =>
    cases hrest with
    | nil => simpa using hpart
    | cons _ _ =>
      rw [separated_cons_cons, List.flatten_cons]
      exact hpart.append ((quiet_code hsep).bindsAt.append ih)

/-- Each of the parts binds values of its own, wherever it is read outside quotes. -/
def BindEach (parts : List Sql) (sites : List Site) : Prop :=
  ∃ each, List.Forall₂ BindsAt parts each ∧ each.flatten = sites

theorem bindEach_quiet {parts : List Sql} (h : ∀ part ∈ parts, Quiet part) : BindEach parts [] := by
  induction parts with
  | nil => exact ⟨[], .nil, rfl⟩
  | cons part parts ih =>
    obtain ⟨hpart, hparts⟩ := List.forall_mem_cons.mp h
    obtain ⟨each, heach, hflatten⟩ := ih hparts
    exact ⟨[] :: each, .cons hpart.bindsAt heach, hflatten⟩

theorem bindEach_singleton {part : Sql} {sites : List Site} (h : BindsAt part sites) :
    BindEach [part] sites :=
  ⟨[sites], .cons h .nil, by simp⟩

theorem BindEach.append {as bs : List Sql} {s t : List Site} (ha : BindEach as s) (hb : BindEach bs t) :
    BindEach (as ++ bs) (s ++ t) := by
  obtain ⟨each, heach, rfl⟩ := ha
  obtain ⟨each', heach', rfl⟩ := hb
  exact ⟨each ++ each', List.rel_append heach heach', List.flatten_append⟩

theorem BindEach.separated {separator : String} {parts : List Sql} {sites : List Site}
    (h : BindEach parts sites) (hsep : separator.toList.all isPlain = true) :
    BindsAt (separated separator parts) sites := by
  obtain ⟨each, heach, rfl⟩ := h
  exact bindsAt_separated hsep heach

theorem BindEach.spaced {parts : List Sql} {sites : List Site} (h : BindEach parts sites) :
    BindEach (parts.map fun part => code " " ++ part) sites := by
  obtain ⟨each, heach, rfl⟩ := h
  refine ⟨each, ?_, rfl⟩
  rw [List.forall₂_map_left_iff]
  refine heach.imp fun part sites hpart => ?_
  have hspace : Quiet (code " ") := quiet_code (by decide)
  exact hspace.bindsAt.append hpart

theorem BindEach.flatten {parts : List Sql} {sites : List Site} (h : BindEach parts sites) :
    BindsAt parts.flatten sites := by
  obtain ⟨each, heach, rfl⟩ := h
  induction heach with
  | nil => exact quiet_nil.bindsAt
  | cons hpart _ ih => exact hpart.append ih

theorem binds_ofList {α : Type} {start : List Char → Prop} {part : α → Sql}
    {site : String → α → List Site} {xs : List α}
    (hparts : ∀ x ∈ xs, ∀ lead before, After start lead before → Binds before (part x) (site lead x))
    {lead : String} {before : List Char} (h : After start lead before) :
    Binds before (separated ", " (xs.map part)) (Site.ofList part site lead xs) := by
  induction xs generalizing lead before with
  | nil => exact .nil
  | cons x xs ih =>
    obtain ⟨hx, hxs⟩ := List.forall_mem_cons.mp hparts
    have hfirst := hx lead before h
    cases xs with
    | nil => simpa [Site.ofList] using hfirst
    | cons x' xs =>
      have hseparator : Quiet (code ", ") := quiet_code (by decide)
      have hrest := ih hxs (h.append ((part x).text ++ ", "))
      rw [String.toList_append, ← List.append_assoc, ← toList_text_code ", "] at hrest
      rw [List.map_cons, List.map_cons, separated_cons_cons]
      exact hfirst.append (.quiet_append hseparator hrest)

theorem bindsAt_ofList {α : Type} {lead : Sql} {part : α → Sql} {site : String → α → List Site}
    {xs : List α} (hlead : Quiet lead)
    (hparts : ∀ x ∈ xs, ∀ lead before, After OutsideQuotes lead before → Binds before (part x) (site lead x)) :
    BindsAt (lead ++ separated ", " (xs.map part)) (Site.ofList part site lead.text xs) :=
  fun before hbefore => .quiet_append hlead (binds_ofList hparts ⟨before, rfl, hbefore⟩)

/-- The placeholder with the number of a site stands there. -/
theorem Binds.placeholder {before : List Char} {sql : Sql} {sites : List Site}
    (h : Binds before sql sites) {k : Nat} {site : Site} (hk : sites[k]? = some site) :
    ∃ mid after, sql.text.toList = mid ++ mark :: after ∧ quoteAfter none mid = none ∧
      countFrom none mid = k ∧ site.EndsAt (before ++ mid) := by
  induction h generalizing k with
  | nil => simp at hk
  | @quiet before piece sql sites _ hcalm _ ih =>
    obtain ⟨mid, after, htext, hquote, hcount, hends⟩ := ih hk
    refine ⟨piece.text.toList ++ mid, after, by simp [htext], ?_, ?_, by rwa [← List.append_assoc]⟩
    · rw [quoteAfter_append, hcalm.1, hquote]
    · rw [countFrom_append, hcalm.1, hcalm.2, hcount, Nat.zero_add]
  | @slot before sql first sites hends _ ih =>
    cases k with
    | zero =>
      obtain rfl : first = site := by simpa using hk
      exact ⟨[], sql.text.toList, by simp, rfl, rfl, by simpa using hends⟩
    | succ k =>
      obtain ⟨mid, after, htext, hquote, hcount, hends⟩ := ih (by simpa using hk)
      refine ⟨mark :: mid, after, ?_, hquote, ?_, by simpa using hends⟩
      · simp [htext]
      · change 1 + countFrom none mid = k + 1
        rw [hcount, Nat.add_comm]

end Sql

end SqlBuilder
