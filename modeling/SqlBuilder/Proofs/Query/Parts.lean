import SqlBuilder.Proofs.Recorded.Outcome
import SqlBuilder.Query.Compile

/-!
What statements are put together from. Main statements: a statement is written exactly when each of its parts
is, and it is these parts in their places.
-/

namespace SqlBuilder.Query

open Recorded

variable {dialect : Dialect} {q : Query} {sql : Sql}

/-! ### Parts -/

theorem parts_of_orderingSql {parts : List Sql} (h : (q.orderingSql dialect).outcome = .ok parts) :
    (q.ordering = .ok [] ∧ parts = []) ∨
      ∃ fields orders, q.ordering = .ok fields ∧ (fields.mapM (q.orderSql dialect)).outcome = .ok orders ∧
        parts = [Sql.code "order by " ++ Sql.separated ", " orders] := by
  obtain ⟨fields, hfields, h⟩ := bind_outcome_eq_ok.mp h
  cases fields with
  | nil => exact .inl ⟨hfields, (Except.ok.inj h).symm⟩
  | cons field fields =>
    obtain ⟨orders, horders, h⟩ := bind_outcome_eq_ok.mp h
    exact .inr ⟨_, orders, hfields, horders, (Except.ok.inj h).symm⟩

/-- Nothing is returned, or these columns are and the dialect can do so. -/
theorem parts_of_returningSql (h : (q.returningSql dialect).outcome = .ok sql) :
    sql = [] ∨
      ∃ columns names, dialect.supportsReturning = true ∧ q.returning = .ok columns ∧
        (dialect.columnize columns q.context).outcome = .ok names ∧ sql = Sql.code " returning " ++ names := by
  unfold returningSql at h
  split at h
  · exact .inl (Except.ok.inj h).symm
  · next hreturns =>
    obtain ⟨-, hsupports⟩ : q.returning.areGiven = true ∧ dialect.supportsReturning = true := by
      simpa using hreturns
    obtain ⟨columns, hcolumns, h⟩ := bind_outcome_eq_ok.mp h
    obtain ⟨names, hnames, h⟩ := bind_outcome_eq_ok.mp h
    exact .inr ⟨columns, names, hsupports, hcolumns, hnames, (Except.ok.inj h).symm⟩

/-- Only a note tells that nothing is returned. -/
theorem outcome_warnReturning (q : Query) (dialect : Dialect) : (q.warnReturning dialect).outcome = .ok () := by
  cases dialect with
  | ansi supportsReturning => rfl
  | snowflake folds hook =>
    simp only [warnReturning]
    split <;> rfl

theorem assignmentSql_eq_ok {assignment : Value × Value} :
    (q.assignmentSql dialect assignment).outcome = .ok sql ↔
      ∃ column, (dialect.wrapValue assignment.1 q.context).outcome = .ok column ∧
        sql = column ++ Sql.code " = " ++ Sql.ofValue assignment.2 := by
  constructor
  · intro h
    obtain ⟨column, hcolumn, h⟩ := bind_outcome_eq_ok.mp h
    exact ⟨column, hcolumn, (Except.ok.inj h).symm⟩
  · rintro ⟨column, hcolumn, rfl⟩
    exact bind_outcome_eq_ok.mpr ⟨column, hcolumn, rfl⟩

theorem writeTail_eq_ok :
    (q.writeTail dialect).outcome = .ok sql ↔
      ∃ condition returning, (q.whereSql dialect).outcome = .ok condition ∧
        (q.returningSql dialect).outcome = .ok returning ∧
        sql = (condition.map fun part => Sql.code " " ++ part).flatten ++ returning := by
  constructor
  · intro h
    obtain ⟨condition, hcondition, h⟩ := bind_outcome_eq_ok.mp h
    obtain ⟨returning, hreturning, h⟩ := bind_outcome_eq_ok.mp h
    obtain ⟨⟨⟩, -, h⟩ := bind_outcome_eq_ok.mp h
    exact ⟨condition, returning, hcondition, hreturning, (Except.ok.inj h).symm⟩
  · rintro ⟨condition, returning, hcondition, hreturning, rfl⟩
    exact bind_outcome_eq_ok.mpr ⟨condition, hcondition, bind_outcome_eq_ok.mpr ⟨returning, hreturning,
      bind_outcome_eq_ok.mpr ⟨(), outcome_warnReturning q dialect, rfl⟩⟩⟩

/-! ### Statements -/

theorem selectSql_eq_ok :
    (q.selectSql dialect).outcome = .ok sql ↔
      ∃ given columns table condition ordering limit lock, q.columns = .ok given ∧
        (dialect.columnize (columnsOrAll given) q.context).outcome = .ok columns ∧
        (q.tableSql dialect).outcome = .ok table ∧ (q.whereSql dialect).outcome = .ok condition ∧
        (q.orderingSql dialect).outcome = .ok ordering ∧ q.limitSql dialect = .ok limit ∧
        (q.lockSql dialect).outcome = .ok lock ∧
        sql = Sql.separated " "
          ([Sql.code "select " ++ columns, Sql.code "from", table] ++ condition ++ ordering ++ limit ++ lock) := by
  constructor
  · intro h
    obtain ⟨given, hgiven, h⟩ := bind_outcome_eq_ok.mp h
    obtain ⟨columns, hcolumns, h⟩ := bind_outcome_eq_ok.mp h
    obtain ⟨table, htable, h⟩ := bind_outcome_eq_ok.mp h
    obtain ⟨condition, hcondition, h⟩ := bind_outcome_eq_ok.mp h
    obtain ⟨ordering, hordering, h⟩ := bind_outcome_eq_ok.mp h
    obtain ⟨limit, hlimit, h⟩ := bind_outcome_eq_ok.mp h
    obtain ⟨lock, hlock, h⟩ := bind_outcome_eq_ok.mp h
    exact ⟨given, columns, table, condition, ordering, limit, lock, hgiven, hcolumns, htable, hcondition,
      hordering, hlimit, hlock, (Except.ok.inj h).symm⟩
  · rintro ⟨given, columns, table, condition, ordering, limit, lock, hgiven, hcolumns, htable, hcondition,
      hordering, hlimit, hlock, rfl⟩
    exact bind_outcome_eq_ok.mpr ⟨given, hgiven, bind_outcome_eq_ok.mpr ⟨columns, hcolumns,
      bind_outcome_eq_ok.mpr ⟨table, htable, bind_outcome_eq_ok.mpr ⟨condition, hcondition,
      bind_outcome_eq_ok.mpr ⟨ordering, hordering, bind_outcome_eq_ok.mpr ⟨limit, hlimit,
      bind_outcome_eq_ok.mpr ⟨lock, hlock, rfl⟩⟩⟩⟩⟩⟩⟩

theorem setSql_eq_ok {entries : List (Value × Value)} :
    (q.setSql dialect entries).outcome = .ok sql ↔
      ∃ assigned table tail, (entries.mapM (q.assignmentSql dialect)).outcome = .ok assigned ∧
        (q.tableSql dialect).outcome = .ok table ∧ (q.writeTail dialect).outcome = .ok tail ∧
        sql = Sql.code "update " ++ table ++ Sql.code " set " ++ Sql.separated ", " assigned ++ tail := by
  constructor
  · intro h
    obtain ⟨assigned, hassigned, h⟩ := bind_outcome_eq_ok.mp h
    obtain ⟨table, htable, h⟩ := bind_outcome_eq_ok.mp h
    obtain ⟨tail, htail, h⟩ := bind_outcome_eq_ok.mp h
    exact ⟨assigned, table, tail, hassigned, htable, htail, (Except.ok.inj h).symm⟩
  · rintro ⟨assigned, table, tail, hassigned, htable, htail, rfl⟩
    exact bind_outcome_eq_ok.mpr ⟨assigned, hassigned, bind_outcome_eq_ok.mpr ⟨table, htable,
      bind_outcome_eq_ok.mpr ⟨tail, htail, rfl⟩⟩⟩

/-- An update is of the entries of a mapping that has some. -/
theorem updateSql_eq_ok :
    (q.updateSql dialect).outcome = .ok sql ↔
      ∃ entries, q.payload = .dict entries ∧ entries ≠ [] ∧ (q.setSql dialect entries).outcome = .ok sql := by
  unfold updateSql
  constructor
  · intro h
    split at h
    · cases h
    · next htrue =>
      split at h
      · next entries hpayload =>
        refine ⟨entries, hpayload, ?_, h⟩
        rintro rfl
        exact htrue (by rw [hpayload]; rfl)
      · cases h
  · rintro ⟨entries, hpayload, hsome, h⟩
    obtain ⟨entry, entries, rfl⟩ := List.exists_cons_of_ne_nil hsome
    rw [hpayload]
    exact h

/-- An update is put together from its assignments, its table and what ends it. -/
theorem parts_of_updateSql (h : (q.updateSql dialect).outcome = .ok sql) :
    ∃ entries assigned table tail, q.payload = .dict entries ∧
      List.Forall₂ (fun assignment part => (q.assignmentSql dialect assignment).outcome = .ok part) entries assigned ∧
      (q.tableSql dialect).outcome = .ok table ∧ (q.writeTail dialect).outcome = .ok tail ∧
      sql = Sql.code "update " ++ table ++ Sql.code " set " ++ Sql.separated ", " assigned ++ tail := by
  obtain ⟨entries, hpayload, -, h⟩ := updateSql_eq_ok.mp h
  obtain ⟨assigned, table, tail, hassigned, htable, htail, rfl⟩ := setSql_eq_ok.mp h
  exact ⟨entries, assigned, table, tail, hpayload, mapM_outcome_eq_ok.mp hassigned, htable, htail, rfl⟩

theorem deleteSql_eq_ok :
    (q.deleteSql dialect).outcome = .ok sql ↔
      ∃ table tail, (q.tableSql dialect).outcome = .ok table ∧ (q.writeTail dialect).outcome = .ok tail ∧
        sql = Sql.code "delete from " ++ table ++ tail := by
  constructor
  · intro h
    obtain ⟨table, htable, h⟩ := bind_outcome_eq_ok.mp h
    obtain ⟨tail, htail, h⟩ := bind_outcome_eq_ok.mp h
    exact ⟨table, tail, htable, htail, (Except.ok.inj h).symm⟩
  · rintro ⟨table, tail, htable, htail, rfl⟩
    exact bind_outcome_eq_ok.mpr ⟨table, htable, bind_outcome_eq_ok.mpr ⟨tail, htail, rfl⟩⟩

end SqlBuilder.Query
