import SqlBuilder.Proofs.Filter.Grammar
import SqlBuilder.Proofs.Filter.Lookups

/-!
What filters say. Main statement: a compiled filter is a condition that reads as the filter itself, its
lookups being the comparisons.
-/

namespace SqlBuilder

variable {α : Type}

namespace Logic

/-- Truth values joined from the left; none of none. -/
def joinAll (logic : Logic α) (connector : Connector) : List α → Option α
  | [] => none
  | v :: vs => some (vs.foldl (logic.join connector) v)

theorem joinAll_append (logic : Logic α) (connector : Connector) (us vs : List α) :
    logic.joinAll connector ((logic.joinAll connector us).toList ++ vs) =
      logic.joinAll connector (us ++ vs) := by
  cases us with
  | nil => rfl
  | cons u us => simp [joinAll]

theorem joinAll_toList (logic : Logic α) (connector : Connector) (v : Option α) :
    logic.joinAll connector v.toList = v := by
  cases v <;> rfl

/-- Expressions themselves in the place of truth values. -/
def expressions : Logic Condition.Expression where
  and := .joined .and
  or := .joined .or
  not := .not

theorem joinAll_map_eval (logic : Logic α) (truth : Sql → α) (connector : Connector)
    (es : List Condition.Expression) :
    logic.joinAll connector (es.map (·.eval logic truth)) =
      (expressions.joinAll connector es).map (·.eval logic truth) := by
  have hjoin : ∀ e f : Condition.Expression, (expressions.join connector e f).eval logic truth =
      logic.join connector (e.eval logic truth) (f.eval logic truth) := by
    intro e f
    cases connector <;> rfl
  cases es with
  | nil => rfl
  | cons e es =>
    simp only [List.map_cons, joinAll, Option.map_some, Option.some.injEq]
    induction es generalizing e with
    | nil => rfl
    | cons f es ih =>
      rw [List.map_cons, List.foldl_cons, List.foldl_cons, ← hjoin]
      exact ih (expressions.join connector e f)

end Logic

namespace Filter

open Condition

mutual

/-- The truth value of a filter, given those of its lookups: none if it holds no lookup. A node joins the
values of its children as far as there are any, and negates the whole. -/
def eval (logic : Logic α) (truth : String → Value → α) : Filter → Option α
  | .lookup key operand => some (truth key operand)
  | .other _ => none
  | .node connector negated children =>
    let value := logic.joinAll connector (evalEach logic truth children)
    if negated then value.map logic.not else value
termination_by structural filter => filter

def evalEach (logic : Logic α) (truth : String → Value → α) : List Filter → List α
  | [] => []
  | child :: children => (eval logic truth child).toList ++ evalEach logic truth children
termination_by structural filters => filters

end

section

variable (logic : Logic α) (truth : String → Value → α)

mutual

/-- What has no value is what holds no lookup. -/
theorem eval_eq_none_iff : ∀ filter : Filter, filter.eval logic truth = none ↔ filter.lookups = []
  | .lookup key operand => by simp [eval, lookups]
  | .other value => by simp [eval, lookups]
  | .node connector negated children => by
    have hchildren := evalEach_eq_nil_iff children
    rw [eval, lookups, ← hchildren]
    cases evalEach logic truth children with
    | nil => cases negated <;> simp [Logic.joinAll]
    | cons v vs => cases negated <;> simp [Logic.joinAll]
termination_by structural filter => filter

theorem evalEach_eq_nil_iff : ∀ filters : List Filter, evalEach logic truth filters = [] ↔ lookupsOf filters = []
  | [] => by simp [evalEach, lookupsOf]
  | child :: children => by
    have hchild := eval_eq_none_iff child
    have hchildren := evalEach_eq_nil_iff children
    simp [evalEach, lookupsOf, hchild, hchildren]
termination_by structural filters => filters

end

end

/-- The comparison that a lookup is compiled to. -/
def comparisonOf (dialect : Dialect) (context : Value) (key : String) (operand : Value) : Sql :=
  match (compileLookup dialect context key operand).outcome with
  | .ok sql => sql
  | .error _ => []

/-- A filter as an expression. -/
def expression (dialect : Dialect) (context : Value) (filter : Filter) : Option Expression :=
  filter.eval Logic.expressions fun key operand => .comparison (comparisonOf dialect context key operand)

section

variable (logic : Logic α) (truth : Sql → α) (dialect : Dialect) (context : Value)

mutual

/-- The value of a filter is that of its expression. -/
theorem eval_eq_expression : ∀ filter : Filter,
    filter.eval logic (fun key operand => truth (comparisonOf dialect context key operand)) =
      (filter.expression dialect context).map (·.eval logic truth)
  | .lookup key operand => rfl
  | .other value => rfl
  | .node connector negated children => by
    have hchildren := evalEach_eq_expression children
    rw [expression, eval, eval, hchildren, Logic.joinAll_map_eval]
    cases negated with
    | false => rfl
    | true =>
      simp only [if_true, Option.map_map]
      rfl
termination_by structural filter => filter

theorem evalEach_eq_expression : ∀ filters : List Filter,
    evalEach logic (fun key operand => truth (comparisonOf dialect context key operand)) filters =
      (evalEach Logic.expressions
        (fun key operand => .comparison (comparisonOf dialect context key operand)) filters).map
        (·.eval logic truth)
  | [] => rfl
  | child :: children => by
    rw [evalEach, evalEach, List.map_append, eval_eq_expression child, evalEach_eq_expression children]
    cases hchild : child.expression dialect context <;> rw [expression] at hchild <;> rw [hchild] <;> rfl
termination_by structural filters => filters

end

end

/-! ### Compiled filters -/

/-- The level at which a connector joins. -/
def level : Connector → Level
  | .and => .conjunction
  | .or => .disjunction

theorem reads_level {c : Condition} {e : Expression} (h : Reads .factor c e) (connector : Connector) :
    Reads (level connector) c e := by
  cases connector with
  | and => exact .factor h
  | or => exact .conjunction (.factor h)

theorem reads_disjunction {connector : Connector} {c : Condition} {e : Expression}
    (h : Reads (level connector) c e) : Reads .disjunction c e := by
  cases connector with
  | and => exact .conjunction h
  | or => exact h

theorem reads_join {connector : Connector} {a b : Condition} {e f : Expression}
    (ha : Reads (level connector) a e) (hb : Reads .factor b f) :
    Reads (level connector) (a ++ .connector connector :: b) (Logic.expressions.join connector e f) := by
  cases connector with
  | and => exact .and ha hb
  | or => exact .or ha (.factor hb)

/-- Joined parts read as their expressions joined from the left. -/
theorem reads_joinParts (connector : Connector) {part : Condition} {parts : List Condition}
    {e : Expression} {es : List Expression} (hpart : Reads (level connector) part e)
    (hparts : List.Forall₂ (Reads .factor) parts es) :
    Reads (level connector) (joinParts connector (part :: parts))
      (es.foldl (Logic.expressions.join connector) e) := by
  induction hparts generalizing part e with
  | nil => simpa using hpart
  | @cons next f parts es hnext _ ih =>
    have hjoined := ih (reads_join hpart hnext)
    rw [List.foldl_cons]
    have hparts : joinParts connector ((part ++ .connector connector :: next) :: parts) =
        joinParts connector (part :: next :: parts) := by
      cases parts with
      | nil => simp [joinParts_cons_cons]
      | cons last parts => simp [joinParts_cons_cons]
    rw [hparts] at hjoined
    exact hjoined

/-- Without an expression there is no condition; else the condition reads as it. -/
def ReadsAs (condition : Condition) : Option Expression → Prop
  | none => condition = []
  | some e => Reads .disjunction condition e

theorem readsAs_ofParts (connector : Connector) (negated : Bool) {parts : List Condition}
    {es : List Expression} (h : List.Forall₂ (Reads .factor) parts es) :
    ReadsAs (ofParts connector negated parts)
      (let value := Logic.expressions.joinAll connector es
      if negated then value.map Expression.not else value) := by
  cases h with
  | nil => cases negated <;> rfl
  | @cons part e parts es hpart hparts =>
    have hjoined := reads_disjunction (reads_joinParts connector (reads_level hpart connector) hparts)
    cases negated with
    | true => exact .conjunction (.factor (.not (.parens hjoined)))
    | false => exact hjoined

variable {dialect : Dialect} {context : Value}

theorem comparisonOf_eq {key : String} {operand : Value} {sql : Sql}
    (h : (compileLookup dialect context key operand).outcome = .ok sql) :
    comparisonOf dialect context key operand = sql := by
  rw [comparisonOf, h]

/-- A lookup is a factor by itself, and a node is one in its parentheses. -/
theorem reads_enclosePart {child : Filter} {part : Condition}
    (h : (compile dialect context child).outcome = .ok part)
    (hreads : ReadsAs part (child.expression dialect context)) :
    List.Forall₂ (Reads .factor) (enclosePart child part) (child.expression dialect context).toList := by
  cases child with
  | lookup key operand =>
    obtain ⟨sql, hsql, rfl⟩ := compile_lookup_eq_ok.mp h
    rw [expression, eval, comparisonOf_eq hsql]
    exact .cons .comparison .nil
  | other value =>
    obtain ⟨-, rfl⟩ := compile_other_eq_ok.mp h
    exact .nil
  | node connector negated children =>
    cases hvalue : expression dialect context (.node connector negated children) with
    | none =>
      rw [hvalue] at hreads
      obtain rfl : part = [] := hreads
      exact .nil
    | some e =>
      rw [hvalue] at hreads
      change Reads .disjunction part e at hreads
      cases part with
      | nil => exact absurd rfl hreads.ne_nil
      | cons token part => exact .cons (.parens hreads) .nil

mutual

theorem reads_compile : ∀ (filter : Filter) {condition : Condition},
    (compile dialect context filter).outcome = .ok condition →
    ReadsAs condition (filter.expression dialect context)
  | .lookup key operand => by
    intro h
    obtain ⟨sql, hsql, rfl⟩ := compile_lookup_eq_ok.mp h
    rw [expression, eval, comparisonOf_eq hsql]
    exact .conjunction (.factor .comparison)
  | .other value => by
    intro h
    obtain ⟨-, rfl⟩ := compile_other_eq_ok.mp h
    rfl
  | .node connector negated children => by
    intro h
    obtain ⟨parts, hparts, rfl⟩ := compile_node_eq_ok.mp h
    rw [expression, eval]
    exact readsAs_ofParts connector negated (reads_compileEach children hparts)
termination_by structural filter => filter

theorem reads_compileEach : ∀ (children : List Filter) {parts : List Condition},
    (compileEach dialect context children).outcome = .ok parts →
    List.Forall₂ (Reads .factor) parts (evalEach Logic.expressions
      (fun key operand => .comparison (comparisonOf dialect context key operand)) children)
  | [] => by
    intro h
    obtain rfl := compileEach_nil_eq_ok.mp h
    exact .nil
  | child :: children => by
    intro h
    obtain ⟨part, rest, hpart, hrest, rfl⟩ := compileEach_cons_eq_ok.mp h
    rw [evalEach]
    exact List.rel_append (reads_enclosePart hpart (reads_compile child hpart))
      (reads_compileEach children hrest)
termination_by structural children => children

end

end Filter

end SqlBuilder
