import SqlBuilder.Filter.Condition
import SqlBuilder.Proofs.Recorded.Outcome

/-!
The lookups of a filter and what becomes of them. Main statement: the operands of a compiled condition
are the compiled lookups, in their order.
-/

namespace SqlBuilder

namespace Condition

/-- A condition made of parts: none of none, else the parts joined, in parentheses if negated. -/
def ofParts (connector : Connector) (negated : Bool) (parts : List Condition) : Condition :=
  match parts with
  | [] => []
  | part :: parts =>
    if negated then .not :: enclosed (Filter.joinParts connector (part :: parts))
    else Filter.joinParts connector (part :: parts)

def operands (condition : Condition) : List Sql :=
  condition.filterMap fun
    | .operand sql => some sql
    | _ => none

@[simp] theorem operands_append (a b : Condition) : operands (a ++ b) = operands a ++ operands b :=
  List.filterMap_append

@[simp] theorem operands_enclosed (condition : Condition) : operands condition.enclosed = operands condition := by
  change operands (.openParen :: (condition ++ [.closeParen])) = _
  simp [operands]

theorem joinParts_cons_cons (connector : Connector) (part part' : Condition) (parts : List Condition) :
    Filter.joinParts connector (part :: part' :: parts) =
      part ++ (.connector connector :: Filter.joinParts connector (part' :: parts)) := by
  rw [Filter.joinParts, List.intercalate_cons_cons, List.append_assoc]
  rfl

@[simp] theorem joinParts_singleton (connector : Connector) (part : Condition) :
    Filter.joinParts connector [part] = part :=
  List.intercalate_singleton

theorem operands_joinParts (connector : Connector) (parts : List Condition) :
    operands (Filter.joinParts connector parts) = parts.flatMap operands := by
  induction parts with
  | nil => rfl
  | cons part parts ih =>
    cases parts with
    | nil => simp
    | cons part' parts =>
      rw [joinParts_cons_cons, operands_append, List.flatMap_cons, ← ih]
      rfl

theorem operands_ofParts (connector : Connector) (negated : Bool) (parts : List Condition) :
    operands (ofParts connector negated parts) = parts.flatMap operands := by
  cases parts with
  | nil => rfl
  | cons part parts =>
    rw [← operands_joinParts connector, ofParts]
    cases negated with
    | false => rfl
    | true => exact operands_enclosed _

end Condition

namespace Filter

open Recorded

mutual

/-- The lookups of a filter in the order in which they stand in it. -/
def lookups : Filter → List (String × Value)
  | .lookup key operand => [(key, operand)]
  | .other _ => []
  | .node _ _ children => lookupsOf children
termination_by structural filter => filter

def lookupsOf : List Filter → List (String × Value)
  | [] => []
  | child :: children => lookups child ++ lookupsOf children
termination_by structural filters => filters

end

section

variable {dialect : Dialect} {context : Value} {condition : Condition}

/-- A lookup is its column, and behind it what the column is compared with. -/
theorem compileLookup_eq_ok {key : String} {operand : Value} {sql : Sql} :
    (compileLookup dialect context key operand).outcome = .ok sql ↔
      ∃ column test, (dialect.wrap (splitKey key).1 context).outcome = .ok column ∧
        comparisonTest (splitKey key).2 operand = .ok test ∧ sql = column ++ test := by
  rw [compileLookup, bind_outcome_eq_ok]
  simp only [bind_outcome_eq_ok, outcome_ofExcept, outcome_pure, Except.ok.injEq, eq_comm (b := sql)]
  constructor
  · rintro ⟨column, hcolumn, test, htest, hsql⟩
    exact ⟨column, test, hcolumn, htest, hsql⟩
  · rintro ⟨column, test, hcolumn, htest, hsql⟩
    exact ⟨column, hcolumn, test, htest, hsql⟩

theorem compile_lookup_eq_ok {key : String} {operand : Value} :
    (compile dialect context (.lookup key operand)).outcome = .ok condition ↔
      ∃ sql, (compileLookup dialect context key operand).outcome = .ok sql ∧
        condition = [.operand sql] := by
  rw [compile, bind_outcome_eq_ok]
  simp [eq_comm]

theorem compile_other_eq_ok {value : Value} :
    (compile dialect context (.other value)).outcome = .ok condition ↔
      checkOther value = .ok () ∧ condition = [] := by
  rw [compile, bind_outcome_eq_ok]
  constructor
  · rintro ⟨⟨⟩, hcheck, hcondition⟩
    exact ⟨hcheck, (Except.ok.inj hcondition).symm⟩
  · rintro ⟨hcheck, rfl⟩
    exact ⟨(), hcheck, rfl⟩

theorem compile_node_eq_ok {connector : Connector} {negated : Bool} {children : List Filter} :
    (compile dialect context (.node connector negated children)).outcome = .ok condition ↔
      ∃ parts, (compileEach dialect context children).outcome = .ok parts ∧
        condition = .ofParts connector negated parts := by
  rw [compile, bind_outcome_eq_ok]
  refine exists_congr fun parts => and_congr_right fun _ => ?_
  cases parts with
  | nil => simp [Condition.ofParts, eq_comm]
  | cons part parts => simp [Condition.ofParts, eq_comm]

theorem compileEach_nil_eq_ok {parts : List Condition} :
    (compileEach dialect context []).outcome = .ok parts ↔ parts = [] := by
  rw [compileEach]
  simp [eq_comm]

theorem compileEach_cons_eq_ok {child : Filter} {children : List Filter} {parts : List Condition} :
    (compileEach dialect context (child :: children)).outcome = .ok parts ↔
      ∃ part rest, (compile dialect context child).outcome = .ok part ∧
        (compileEach dialect context children).outcome = .ok rest ∧
        parts = enclosePart child part ++ rest := by
  simp only [compileEach, bind_outcome_eq_ok, outcome_pure, Except.ok.injEq, eq_comm (b := parts)]
  simp

theorem operands_enclosePart (child : Filter) (part : Condition) :
    (enclosePart child part).flatMap Condition.operands = part.operands := by
  unfold enclosePart
  split
  · rfl
  · simp
  · simp

end

mutual

/-- Every operand of a condition is a lookup of its own, and there are no others. -/
theorem operands_of_compile {dialect : Dialect} {context : Value} :
    ∀ (filter : Filter) {condition : Condition},
      (compile dialect context filter).outcome = .ok condition →
      List.Forall₂ (fun lookup sql => (compileLookup dialect context lookup.1 lookup.2).outcome = .ok sql)
        filter.lookups condition.operands
  | .lookup key operand => by
    intro h
    obtain ⟨sql, hsql, rfl⟩ := compile_lookup_eq_ok.mp h
    exact .cons hsql .nil
  | .other value => by
    intro h
    obtain ⟨-, rfl⟩ := compile_other_eq_ok.mp h
    exact .nil
  | .node connector negated children => by
    intro h
    obtain ⟨parts, hparts, rfl⟩ := compile_node_eq_ok.mp h
    rw [Condition.operands_ofParts]
    exact operands_of_compileEach children hparts
termination_by structural filter => filter

theorem operands_of_compileEach {dialect : Dialect} {context : Value} :
    ∀ (children : List Filter) {parts : List Condition},
      (compileEach dialect context children).outcome = .ok parts →
      List.Forall₂ (fun lookup sql => (compileLookup dialect context lookup.1 lookup.2).outcome = .ok sql)
        (lookupsOf children) (parts.flatMap Condition.operands)
  | [] => by
    intro h
    obtain rfl := compileEach_nil_eq_ok.mp h
    exact .nil
  | child :: children => by
    intro h
    obtain ⟨part, rest, hpart, hrest, rfl⟩ := compileEach_cons_eq_ok.mp h
    rw [List.flatMap_append, operands_enclosePart]
    exact List.rel_append (operands_of_compile child hpart) (operands_of_compileEach children hrest)
termination_by structural children => children

end

end Filter

end SqlBuilder
