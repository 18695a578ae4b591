import SqlBuilder.Proofs.Dialect.Written
import SqlBuilder.Proofs.Filter.Lookups

/-!
Where the values of a condition are bound. Main statement: the placeholders of a condition stand in the
comparisons of its lookups, in their order.
-/

namespace SqlBuilder

open Name Placeholder

namespace Sql

/-- Wherever it stands in a condition, the slots are at these sites. -/
def BindsInCondition (sql : Sql) (sites : List Site) : Prop :=
  ∀ before, InCondition before → Binds before sql sites

theorem Quiet.bindsInCondition {sql : Sql} (h : Quiet sql) : BindsInCondition sql [] :=
  fun before _ => h.binds before

theorem BindsInCondition.append {a b : Sql} {s t : List Site} (ha : BindsInCondition a s)
    (hb : BindsInCondition b t) : BindsInCondition (a ++ b) (s ++ t) :=
  fun before hbefore => (ha before hbefore).append (hb _ (hbefore.append _))

/-- What is written before the slot of a comparison is the comparison. -/
theorem bindsInCondition_compared {comparison : Sql} (h : Quiet comparison) (value : Value) :
    BindsInCondition (comparison ++ [.slot value]) [.compared comparison.text value] := by
  intro before hbefore
  exact .quiet_append h (binds_compared ⟨before, rfl, hbefore⟩)

theorem quiet_conditionToken (token : ConditionToken) (h : ∀ sql, token ≠ .operand sql) : Quiet token.sql := by
  cases token with
  | operand sql => exact absurd rfl (h sql)
  | not => exact quiet_code (by decide)
  | connector c => cases c <;> exact quiet_code (by decide)
  | openParen => exact quiet_code (by decide)
  | closeParen => exact quiet_code (by decide)

/-- Between the operands of a condition nothing is bound. -/
theorem bindsInCondition_condition {condition : Condition} {sites : List (List Site)}
    (h : List.Forall₂ BindsInCondition condition.operands sites) :
    BindsInCondition condition.sql sites.flatten := by
  induction condition generalizing sites with
  | nil =>
    cases h
    exact quiet_nil.bindsInCondition
  | cons token condition ih =>
    rw [Condition.sql, List.flatMap_cons]
    by_cases htoken : ∃ sql, token = .operand sql
    · obtain ⟨sql, rfl⟩ := htoken
      change List.Forall₂ BindsInCondition (sql :: Condition.operands condition) sites at h
      cases h with
      | cons hfirst hrest => exact hfirst.append (ih hrest)
    · have hother : ∀ sql, token ≠ .operand sql := fun sql heq => htoken ⟨sql, heq⟩
      have hrest : List.Forall₂ BindsInCondition (Condition.operands condition) sites := by
        cases token with
        | operand sql => exact absurd rfl (hother sql)
        | _ => exact h
      exact (quiet_conditionToken token hother).bindsInCondition.append (ih hrest)

end Sql

/-- A fragment of SQL as it is, which binds nothing. -/
def Value.isRaw : Value → Bool
  | .raw _ => true
  | _ => false

namespace Filter

open Sql Recorded

/-- One placeholder for every member. -/
def memberSites (lead : String) (values : List Value) : List Site :=
  Site.ofList (fun value => [.slot value]) (fun lead value => [.compared lead value]) lead values

/-- What a comparison binds: what is to be contained with a wildcard on each side, else the operand. -/
def boundOperand (comparison : Comparison) (operand : Value) : Value :=
  if comparison = .contains then .text ("%" ++ operand.shown ++ "%") else operand

/-- Where the values of a lookup are bound: the comparison up to the placeholder, and the value. A
comparison with null binds nothing. -/
def lookupSites (dialect : Dialect) (lookup : String × Value) : List Site :=
  let column := (dialect.written (splitKey lookup.1).1).text
  if lookup.2.isNull then []
  else
    match Comparison.named? (splitKey lookup.1).2 with
    | none => []
    | some .member => memberSites (column ++ " in (") (lookup.2.items?.getD [])
    | some comparison =>
      [.compared (column ++ (" " ++ comparison.operator ++ " ")) (boundOperand comparison lookup.2)]

theorem operandSql_of_not_raw {operand : Value} (h : operand.isRaw = false) (comparison : Comparison) :
    operandSql comparison operand = [.slot (boundOperand comparison operand)] := by
  have hslot : operandSql comparison operand = if comparison = .contains
      then [.slot (.text ("%" ++ operand.shown ++ "%"))] else [.slot operand] := by
    cases operand with
    | raw sql => cases h
    | _ => rfl
  rw [hslot, boundOperand]
  split <;> rfl

theorem comparisonTest_of_null {operand : Value} (h : operand.isNull = true) (lookup : String) :
    comparisonTest lookup operand = nullTest lookup := by
  cases operand with
  | null => rfl
  | _ => cases h

theorem comparisonTest_of_not_null {operand : Value} (h : operand.isNull = false) (lookup : String) :
    comparisonTest lookup operand =
      match Comparison.named? lookup with
      | none => .error (.lookupUnsupported lookup)
      | some .member => membershipTest operand
      | some comparison =>
        .ok (Sql.code (" " ++ comparison.operator ++ " ") ++ operandSql comparison operand) := by
  cases operand with
  | null => cases h
  | _ => rfl

theorem nullTest_eq_ok {lookup : String} {test : Sql} (h : nullTest lookup = .ok test) : Quiet test := by
  unfold nullTest at h
  split at h
  · obtain rfl := Except.ok.inj h
    exact quiet_code (by decide)
  · split at h
    · obtain rfl := Except.ok.inj h
      exact quiet_code (by decide)
    · cases h

theorem membershipTest_eq_ok {operand : Value} {test : Sql} (h : membershipTest operand = .ok test) :
    ∃ values, operand.items? = some values ∧ values ≠ [] ∧
      test = code " in (" ++ separated ", " (values.map fun value => [.slot value]) ++ code ")" := by
  unfold membershipTest at h
  split at h
  · cases h
  · cases h
  · next values hne hitems => exact ⟨values, hitems, hne, (Except.ok.inj h).symm⟩

theorem isPlain_operator (comparison : Comparison) :
    (" " ++ comparison.operator ++ " ").toList.all isPlain = true := by
  cases comparison <;> decide

theorem bindsInCondition_members {lead : Sql} (hlead : Quiet lead) (values : List Value) :
    BindsInCondition (lead ++ separated ", " (values.map fun value => [.slot value]))
      (memberSites lead.text values) := by
  intro before hbefore
  refine .quiet_append hlead (binds_ofList ?_ ⟨before, rfl, hbefore⟩)
  intro value _ lead before hafter
  exact binds_compared hafter

/-- The values of a lookup are bound in its comparison. -/
theorem bindsInCondition_compileLookup {dialect : Dialect} {context : Value} (hookless : dialect.Hookless)
    {lookup : String × Value} {sql : Sql} (hname : KeepsQuotes (splitKey lookup.1).1)
    (hraw : lookup.2.isRaw = false)
    (h : (compileLookup dialect context lookup.1 lookup.2).outcome = .ok sql) :
    BindsInCondition sql (lookupSites dialect lookup) := by
  obtain ⟨column, test, hwritten, htest, rfl⟩ := compileLookup_eq_ok.mp h
  rw [Dialect.wrap_outcome hookless] at hwritten
  obtain rfl := Except.ok.inj hwritten
  have hcolumn : Quiet (dialect.written (splitKey lookup.1).1) := Dialect.quiet_written hname
  cases hnull : lookup.2.isNull with
  | true =>
    rw [lookupSites, if_pos hnull]
    rw [comparisonTest_of_null hnull] at htest
    exact (hcolumn.append (nullTest_eq_ok htest)).bindsInCondition
  | false =>
    rw [lookupSites, if_neg (by simp [hnull])]
    rw [comparisonTest_of_not_null hnull] at htest
    split at htest
    · cases htest
    · next hmember =>
      obtain ⟨values, hitems, hne, rfl⟩ := membershipTest_eq_ok htest
      have hopen : Quiet (code " in (") := quiet_code (by decide)
      have hclose : Quiet (code ")") := quiet_code (by decide)
      have hmembers := bindsInCondition_members (hcolumn.append hopen) values
      rw [text_append, text_code] at hmembers
      simpa [hmember, hitems] using hmembers.append hclose.bindsInCondition
    · next comparison _ _ =>
      obtain rfl := Except.ok.inj htest
      have hoperator : Quiet (code (" " ++ comparison.operator ++ " ")) :=
        quiet_code (isPlain_operator comparison)
      have hcompared := bindsInCondition_compared (hcolumn.append hoperator)
        (boundOperand comparison lookup.2)
      rw [text_append, text_code] at hcompared
      rw [operandSql_of_not_raw hraw, ← List.append_assoc]
      exact hcompared

/-- Where the values of a filter are bound. -/
def sites (dialect : Dialect) (filter : Filter) : List Site :=
  filter.lookups.flatMap (lookupSites dialect)

theorem bindsInCondition_compile {dialect : Dialect} {context : Value} (hookless : dialect.Hookless)
    {filter : Filter} {condition : Condition}
    (hnames : ∀ lookup ∈ filter.lookups, KeepsQuotes (splitKey lookup.1).1)
    (hraw : ∀ lookup ∈ filter.lookups, lookup.2.isRaw = false)
    (h : (compile dialect context filter).outcome = .ok condition) :
    BindsInCondition condition.sql (filter.sites dialect) := by
  rw [sites, List.flatMap_def]
  apply bindsInCondition_condition
  have hoperands := operands_of_compile filter h
  generalize condition.operands = operands at hoperands ⊢
  generalize filter.lookups = lookups at hnames hraw hoperands ⊢
  induction hoperands with
  | nil => exact .nil
  | cons hsql _ ih =>
    obtain ⟨hname, hnames⟩ := List.forall_mem_cons.mp hnames
    obtain ⟨hfirst, hraw⟩ := List.forall_mem_cons.mp hraw
    exact .cons (bindsInCondition_compileLookup hookless hname hfirst hsql) (ih hnames hraw)

end Filter

end SqlBuilder
