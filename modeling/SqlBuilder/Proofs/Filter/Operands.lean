import SqlBuilder.Proofs.Filter.Placement
import SqlBuilder.Proofs.Query.Naming

/-!
How comparisons are written. Main statements: a lookup becomes the comparison of its column with its operand,
in which SQL stands as it is and all else is bound, and it does so whenever its key names a comparison that
can be made with the operand.
-/

namespace SqlBuilder.Filter

open Recorded

/-- What stands behind the operator of a comparison, and what is bound there. -/
inductive Writes : Comparison → Value → String → List Value → Prop
  | members {operand : Value} {items : List Value} : operand.items? = some items → items ≠ [] →
      Writes .member operand ("(" ++ ", ".intercalate (items.map fun _ => "?") ++ ")") items
  | fragment {comparison : Comparison} {sql : String} : comparison ≠ .member →
      Writes comparison (.raw sql) sql []
  | bound {comparison : Comparison} {operand : Value} : comparison ≠ .member → operand.isRaw = false →
      Writes comparison operand "?" [boundOperand comparison operand]

/-- The comparison of a column with an operand. -/
def Compares (column : String) (comparison : Comparison) (operand : Value) (sql : Sql) : Prop :=
  ∃ written, Writes comparison operand written sql.bindings ∧
    sql.text = column ++ (" " ++ comparison.operator ++ " ") ++ written

/-- A column can be compared with this operand: it is not null, and for membership it has members. -/
def Suits (comparison : Comparison) (operand : Value) : Prop :=
  operand.isNull = false ∧ (comparison = .member → ∃ items, operand.items? = some items ∧ items ≠ [])

section

variable {dialect : Dialect} {context : Value} {key : String} {operand : Value} {comparison : Comparison}

theorem bindings_wrap {reference : String} {column : Sql}
    (h : (dialect.wrap reference context).outcome = .ok column) : column.bindings = [] :=
  Sql.bindings_of_naming (Dialect.naming_of_wrap h)

theorem nullTest_eq_code {name : String} {test : Sql} (h : nullTest name = .ok test) :
    ∃ text ∈ [" is null", " is not null"], test = Sql.code text := by
  unfold nullTest at h
  split at h
  · exact ⟨_, List.mem_cons_self, (Except.ok.inj h).symm⟩
  · split at h
    · exact ⟨_, List.mem_cons_of_mem _ List.mem_cons_self, (Except.ok.inj h).symm⟩
    · cases h

theorem membershipTest_compares {test : Sql} (h : membershipTest operand = .ok test) :
    Compares "" .member operand test := by
  obtain ⟨items, hitems, hne, rfl⟩ := membershipTest_eq_ok h
  have hmarks : (Sql.separated ", " (items.map fun item => [.slot item])).text =
      ", ".intercalate (items.map fun _ => "?") := by
    rw [Sql.text_separated, List.map_map]
    rfl
  refine ⟨"(" ++ ", ".intercalate (items.map fun _ => "?") ++ ")", ?_, ?_⟩
  · have hbindings : (Sql.separated ", " (items.map fun item => [.slot item])).bindings = items := by
      rw [Sql.bindings_separated, List.flatMap_map]
      exact List.flatMap_singleton' items
    rw [Sql.bindings_append, Sql.bindings_append, hbindings, Sql.bindings_code, Sql.bindings_code,
      List.nil_append, List.append_nil]
    exact .members hitems hne
  · rw [Sql.text_append, Sql.text_append, hmarks, Sql.text_code, Sql.text_code, String.empty_append,
      ← String.append_assoc, ← String.append_assoc]
    rfl

theorem operandSql_compares (h : comparison ≠ .member) (operand : Value) :
    Compares "" comparison operand
      (Sql.code (" " ++ comparison.operator ++ " ") ++ operandSql comparison operand) := by
  cases hraw : operand.isRaw with
  | true =>
    cases operand with
    | raw sql =>
      refine ⟨sql, .fragment h, ?_⟩
      rw [Sql.text_append, Sql.text_code, String.empty_append]
      exact congrArg _ (Sql.text_code sql)
    | _ => cases hraw
  | false =>
    rw [operandSql_of_not_raw hraw]
    refine ⟨"?", .bound h hraw, ?_⟩
    rw [Sql.text_append, Sql.text_code, String.empty_append]
    rfl

/-- Behind the column stands the operator, and then the operand. -/
theorem comparisonTest_compares (hnull : operand.isNull = false) {lookup : String} {test : Sql}
    (h : comparisonTest lookup operand = .ok test) :
    ∃ comparison, Comparison.named? lookup = some comparison ∧ Compares "" comparison operand test := by
  rw [comparisonTest_of_not_null hnull] at h
  split at h
  · cases h
  · next hmember => exact ⟨.member, hmember, membershipTest_compares h⟩
  · next comparison hne hnamed =>
    obtain rfl := Except.ok.inj h
    exact ⟨comparison, hnamed, operandSql_compares hne operand⟩

theorem exists_comparisonTest {lookup : String} (hnamed : Comparison.named? lookup = some comparison)
    (hsuits : Suits comparison operand) : ∃ test, comparisonTest lookup operand = .ok test := by
  rw [comparisonTest_of_not_null hsuits.1, hnamed]
  cases comparison with
  | member =>
    obtain ⟨items, hitems, hne⟩ := hsuits.2 rfl
    obtain ⟨item, items, rfl⟩ := List.exists_cons_of_ne_nil hne
    rw [membershipTest, hitems]
    exact ⟨_, rfl⟩
  | _ => exact ⟨_, rfl⟩

theorem Compares.after {column test : Sql} (hcolumn : column.bindings = [])
    (h : Compares "" comparison operand test) : Compares column.text comparison operand (column ++ test) := by
  obtain ⟨written, hwrites, htext⟩ := h
  refine ⟨written, ?_, ?_⟩
  · rwa [Sql.bindings_append, hcolumn, List.nil_append]
  · rw [Sql.text_append, htext, String.empty_append, ← String.append_assoc]

/-- A lookup compares its column with an operand that is not null. -/
theorem compileLookup_compares (hnull : operand.isNull = false) {sql : Sql}
    (h : (compileLookup dialect context key operand).outcome = .ok sql) :
    ∃ comparison column, Comparison.named? (splitKey key).2 = some comparison ∧
      (dialect.wrap (splitKey key).1 context).outcome = .ok column ∧
      Compares column.text comparison operand sql := by
  obtain ⟨column, test, hcolumn, htest, rfl⟩ := compileLookup_eq_ok.mp h
  obtain ⟨comparison, hnamed, hcompares⟩ := comparisonTest_compares hnull htest
  exact ⟨comparison, column, hnamed, hcolumn, hcompares.after (bindings_wrap hcolumn)⟩

/-- Nothing else is needed than a column that is written and an operand that suits. -/
theorem exists_compileLookup {column : Sql} (hcolumn : (dialect.wrap (splitKey key).1 context).outcome = .ok column)
    (hnamed : Comparison.named? (splitKey key).2 = some comparison) (hsuits : Suits comparison operand) :
    ∃ sql, (compileLookup dialect context key operand).outcome = .ok sql ∧
      Compares column.text comparison operand sql := by
  obtain ⟨test, htest⟩ := exists_comparisonTest hnamed hsuits
  obtain ⟨found, hfound, hcompares⟩ := comparisonTest_compares hsuits.1 htest
  obtain rfl : comparison = found := Option.some.inj (hnamed.symm.trans hfound)
  exact ⟨column ++ test, compileLookup_eq_ok.mpr ⟨column, test, hcolumn, htest, rfl⟩,
    hcompares.after (bindings_wrap hcolumn)⟩

end

end SqlBuilder.Filter
