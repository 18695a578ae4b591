import SqlBuilder.Dialect.Hook
import SqlBuilder.Proofs.Query.Insertion
import SqlBuilder.Proofs.Query.Refinement
import SqlBuilder.Proofs.Recorded.Warnings

/-!
Inserts of rows without columns, for which Snowflake has no statement. Main statement: such an insert can be
told by the text that the plain dialect would write for it, whatever the table, the columns and the values
are, so that no other insert is left out.
-/

namespace SqlBuilder

open Recorded

theorem Recorded.bind_congr_ok {α β : Type} {x : Recorded α} {f g : α → Recorded β}
    (h : ∀ a, x.outcome = .ok a → f a = g a) : x >>= f = x >>= g := by
  cases hx : x.outcome with
  | error e =>
    refine ext_fields ?_ ?_
    · rw [outcome_bind, outcome_bind, hx]
      rfl
    · rw [notes_bind_error hx, notes_bind_error hx]
  | ok a =>
    refine ext_fields ?_ ?_
    · rw [outcome_bind, outcome_bind, hx]
      exact congrArg Recorded.outcome (h a hx)
    · rw [notes_bind_ok hx, notes_bind_ok hx, h a hx]

namespace Query

/-! ### An insert that is looked at when it is written -/

/-- The rows as they are written for any dialect. -/
def writtenRowsSql (dialect : Dialect) (q : Query) (table : Sql) (rows : List Row) : Recorded Sql := do
  let columns := columnUnion rows
  if columns.isEmpty then return Sql.code "insert into " ++ table ++ Sql.code " default values"
  let names ← dialect.columnize (columns.map .text) q.context
  let returning ← q.returningSql dialect
  return Sql.code "insert into " ++ table ++ Sql.code " (" ++ names ++ Sql.code ") values " ++
    Sql.separated ", " (rows.map (tupleSql columns)) ++ returning

def writtenInsertSql (dialect : Dialect) (q : Query) : Recorded Sql := do
  match ← Recorded.ofExcept q.payload.toItemsIfTrue with
  | [] => return []
  | rows => do
    let table ← q.tableSql dialect
    q.writtenRowsSql dialect table (← Recorded.ofExcept (Row.ofValues rows))

/-- Nothing is bound, and the text ends as that of an insert of default values. -/
def LooksEmpty (sql : Sql) : Prop :=
  sql.bindings = [] ∧ " default values".toList <:+ sql.text.toList

instance (sql : Sql) : Decidable (LooksEmpty sql) :=
  inferInstanceAs (Decidable (_ ∧ _))

def emptyRowWarning : String :=
  "insert of an empty row is not supported by snowflake dialect"

def returningWarning : String :=
  "returning is not supported by snowflake dialect"

/-- A written insert as Snowflake takes it, told from its text. -/
def inspectInsert (q : Query) (sql : Sql) : Recorded Sql :=
  if sql.text = "" then return sql
  else if LooksEmpty sql then do
    Recorded.warn emptyRowWarning
    return []
  else do
    if q.returning.areGiven then Recorded.warn returningWarning
    return sql

/-! ### What an insert with columns looks like -/

theorem getLast?_text_separated {separator : String} {c : Char} {parts : List Sql} (hne : parts ≠ [])
    (h : ∀ part ∈ parts, part.text.toList.getLast? = some c) :
    (Sql.separated separator parts).text.toList.getLast? = some c := by
  induction parts with
  | nil => exact absurd rfl hne
  | cons part parts ih =>
    cases parts with
    | nil => simpa using h part List.mem_cons_self
    | cons part' parts =>
      have hrest := ih (List.cons_ne_nil _ _) fun other hother => h other (List.mem_cons_of_mem _ hother)
      rw [Sql.separated_cons_cons, Sql.toList_text_append, Sql.toList_text_append, List.getLast?_append,
        List.getLast?_append, hrest]
      rfl

theorem getLast?_text_tupleSql (columns : List String) (row : Row) :
    (tupleSql columns row).text.toList.getLast? = some ')' := by
  rw [tupleSql, Sql.toList_text_append, Sql.toList_text_code, List.getLast?_append]
  rfl

/-- Whatever stands before them, the tuples end the text. -/
theorem not_looksEmpty {before : Sql} {rows : List Row} (h : columnUnion rows ≠ []) :
    ¬ LooksEmpty (before ++ Sql.separated ", " (rows.map (tupleSql (columnUnion rows)))) := by
  rintro ⟨-, hsuffix⟩
  have hlast : (Sql.separated ", " (rows.map (tupleSql (columnUnion rows)))).text.toList.getLast? = some ')' := by
    refine getLast?_text_separated (by simpa using rows_ne_nil_of_columnUnion h) ?_
    rintro part hpart
    obtain ⟨row, -, rfl⟩ := List.mem_map.mp hpart
    exact getLast?_text_tupleSql _ row
  obtain ⟨front, hfront⟩ := hsuffix
  -- a tuple ends with a parenthesis, and default values with a letter
  have hchar := congrArg List.getLast? hfront
  rw [Sql.toList_text_append, List.getLast?_append, List.getLast?_append, hlast] at hchar
  simp at hchar

variable {q : Query} {folds : Bool} {hook : Option Hook}

theorem looksEmpty_default {table : Sql} (h : (q.tableSql (.snowflake folds hook)).outcome = .ok table) :
    LooksEmpty (Sql.code "insert into " ++ table ++ Sql.code " default values") := by
  refine ⟨?_, ?_⟩
  · simp [Sql.bindings_of_naming (naming_of_tableSql h)]
  · rw [Sql.toList_text_append, Sql.toList_text_code]
    exact List.suffix_append _ _

theorem text_insert_ne_empty {sql rest : Sql} (h : sql = Sql.code "insert into " ++ rest) : sql.text ≠ "" := by
  intro hempty
  have hlist := congrArg String.toList hempty
  simp [h] at hlist

/-! ### The same insert -/

theorem warnReturning_of_snowflake :
    q.warnReturning (.snowflake folds hook) =
      if q.returning.areGiven then Recorded.warn returningWarning else pure () := rfl

theorem inspectInsert_default {table : Sql} (h : (q.tableSql (.snowflake folds hook)).outcome = .ok table) :
    q.inspectInsert (Sql.code "insert into " ++ table ++ Sql.code " default values") =
      defaultRowSql (.snowflake folds hook) table := by
  rw [inspectInsert, if_neg (text_insert_ne_empty (List.append_assoc _ _ _)), if_pos (looksEmpty_default h)]
  rfl

theorem writtenRowsSql_inspected {table : Sql} (h : (q.tableSql (.snowflake folds hook)).outcome = .ok table)
    (rows : List Row) :
    q.writtenRowsSql (.snowflake folds hook) table rows >>= q.inspectInsert =
      q.insertRowsSql (.snowflake folds hook) table rows := by
  by_cases hcolumns : columnUnion rows = []
  · rw [insertRowsSql_empty q hcolumns, ← inspectInsert_default h]
    unfold writtenRowsSql
    simp only [hcolumns, List.isEmpty_nil, if_true, pure_bind]
  · rw [insertRowsSql_columns q hcolumns]
    unfold writtenRowsSql
    simp only [List.isEmpty_iff, if_neg hcolumns, bind_assoc, pure_bind]
    refine bind_congr_ok fun names _ => ?_
    rw [returningSql_of_snowflake, pure_bind, pure_bind, List.append_nil]
    rw [inspectInsert, if_neg (text_insert_ne_empty (by simp only [List.append_assoc]; rfl)),
      if_neg (not_looksEmpty hcolumns), warnReturning_of_snowflake]
    cases q.returning.areGiven <;> rfl

/-- What is looked at is what the plain dialect compiles. -/
theorem insertSql_ansi (supportsReturning : Bool) :
    q.insertSql (.ansi supportsReturning) = q.writtenInsertSql (.ansi supportsReturning) := by
  have hrows : ∀ table rows, q.insertRowsSql (.ansi supportsReturning) table rows =
      q.writtenRowsSql (.ansi supportsReturning) table rows := by
    intro table rows
    unfold writtenRowsSql
    by_cases hcolumns : columnUnion rows = []
    · rw [insertRowsSql_empty q hcolumns]
      simp only [List.isEmpty_iff, if_pos hcolumns]
      rfl
    · rw [insertRowsSql_columns q hcolumns]
      simp only [List.isEmpty_iff, if_neg hcolumns]
      rfl
  rw [insertSql, writtenInsertSql]
  refine bind_congr_ok fun items _ => ?_
  cases items with
  | nil => rfl
  | cons item items => exact bind_congr_ok fun table _ => bind_congr_ok fun rows _ => hrows table rows

/-- An insert is left out exactly if it looks like one of rows without columns. -/
theorem insertSql_eq_inspected :
    q.insertSql (.snowflake folds hook) = q.writtenInsertSql (.snowflake folds hook) >>= q.inspectInsert := by
  rw [insertSql, writtenInsertSql, bind_assoc]
  refine bind_congr_ok fun items _ => ?_
  cases items with
  | nil => rfl
  | cons item items =>
    simp only [bind_assoc]
    refine bind_congr_ok fun table htable => bind_congr_ok fun rows _ => ?_
    exact (writtenRowsSql_inspected htable rows).symm

/-! ### Warnings -/

theorem warnings_tableSql (dialect : Dialect) : (q.tableSql dialect).warnings = [] := by
  rw [tableSql]
  split
  · exact dialect.warnings_wrapValue q.table q.context
  · rfl

theorem warnings_insertRowsSql {table : Sql} {rows : List Row} (hcolumns : columnUnion rows ≠ []) {sql : Sql}
    (h : (q.insertRowsSql (.snowflake folds hook) table rows).outcome = .ok sql) :
    (q.insertRowsSql (.snowflake folds hook) table rows).warnings =
      if q.returning.areGiven then [returningWarning] else [] := by
  obtain ⟨names, returning, hnames, -, -⟩ := (insertRowsSql_eq_ok hcolumns).mp h
  rw [insertRowsSql_columns q hcolumns, warnings_bind_ok hnames, Dialect.warnings_columnize, returningSql_of_snowflake, pure_bind,
    warnReturning_of_snowflake]
  split <;> rfl

/-- What becomes of an insert of these rows, and what is warned of. -/
inductive InsertEnds (returns : Bool) : List Value → Sql → List String → Prop
  | noRows : InsertEnds returns [] [] []
  | columnless {items : List Value} : items ≠ [] → (∀ row ∈ items, row.items? = some []) →
      InsertEnds returns items [] [emptyRowWarning]
  | written {items : List Value} {sql : Sql} : (¬ ∀ row ∈ items, row.items? = some []) → sql.text ≠ "" →
      InsertEnds returns items sql (if returns then [returningWarning] else [])

theorem insertSql_ends {sql : Sql} (h : (q.insertSql (.snowflake folds hook)).outcome = .ok sql) :
    ∃ items, q.payload.toItemsIfTrue = .ok items ∧
      InsertEnds q.returning.areGiven items sql (q.insertSql (.snowflake folds hook)).warnings := by
  have hgiven : (Recorded.ofExcept q.payload.toItemsIfTrue).warnings = [] := rfl
  rcases parts_of_insertSql h with ⟨hitems, rfl⟩ | ⟨item, items, table, hitems, hrows, htable, hwritten⟩
  · refine ⟨[], hitems, ?_⟩
    rw [insertSql, warnings_bind_ok hitems, hgiven]
    exact .noRows
  · refine ⟨item :: items, hitems, ?_⟩
    have hread : (Recorded.ofExcept (Row.ofValues (item :: items))).warnings = [] := rfl
    have hcolumnless := columnUnion_of_ofValues hrows
    rw [insertSql, warnings_bind_ok hitems, hgiven, List.nil_append]
    change InsertEnds _ _ _ (_ >>= _ : Recorded Sql).warnings
    rw [warnings_bind_ok htable, warnings_tableSql, warnings_bind_ok hrows, hread, List.nil_append, List.nil_append]
    by_cases hcolumns : columnUnion q.rows = []
    · rw [insertRowsSql_empty q hcolumns] at hwritten ⊢
      obtain rfl := Except.ok.inj hwritten
      exact .columnless (List.cons_ne_nil _ _) (hcolumnless.mp hcolumns)
    · rw [warnings_insertRowsSql hcolumns hwritten]
      obtain ⟨names, returning, -, -, rfl⟩ := (insertRowsSql_eq_ok hcolumns).mp hwritten
      exact .written (mt hcolumnless.mpr hcolumns) (text_insert_ne_empty (by simp only [List.append_assoc]; rfl))

/-- Looking at the text of an insert leaves out those without any column and no others. One that is left out
binds nothing, rows that are left out are warned of once, and returned rows where there are some to return. -/
theorem compile_insert_recognised (hmethod : q.method = .insert) {statement : Statement}
    (h : (q.compile (.snowflake folds hook)).outcome = .ok statement) :
    q.insertSql (.snowflake folds hook) = q.writtenInsertSql (.snowflake folds hook) >>= q.inspectInsert ∧
    (statement.sql = .text "" ↔
      ∃ items, q.payload.toItemsIfTrue = .ok items ∧ ∀ row ∈ items, row.items? = some []) ∧
    (q.compile (.snowflake folds hook)).WarnsOnceIff emptyRowWarning q.InsertsEmptyRows ∧
    (q.compile (.snowflake folds hook)).WarnsOnceIff returningWarning
      (q.returning.areGiven = true ∧ statement.sql ≠ .text "") ∧
    (statement.sql = .text "" → statement.bindings = []) := by
  refine ⟨insertSql_eq_inspected, ?_⟩
  obtain ⟨sql, hsql, hstatement⟩ := bind_outcome_eq_ok.mp h
  obtain rfl := Except.ok.inj hstatement
  have hwarnings : (q.compile (.snowflake folds hook)).warnings = (q.insertSql (.snowflake folds hook)).warnings := by
    rw [compile, warnings_bind_ok hsql, sql_of_insert hmethod]
    exact List.append_nil _
  rw [sql_of_insert hmethod] at hsql
  obtain ⟨items, hitems, hends⟩ := insertSql_ends hsql
  rw [← hwarnings] at hends
  have hempty : q.InsertsEmptyRows ↔ items ≠ [] ∧ ∀ row ∈ items, row.items? = some [] := by
    simp [InsertsEmptyRows, hitems]
  have hcolumnless : (∃ items, q.payload.toItemsIfTrue = .ok items ∧ ∀ row ∈ items, row.items? = some []) ↔
      ∀ row ∈ items, row.items? = some [] := by
    simp [hitems]
  have hdistinct : emptyRowWarning ≠ returningWarning := by decide
  rw [hempty, hcolumnless]
  simp only [Statement.ofSql, Value.text.injEq, ne_eq]
  clear hwarnings hsql h hstatement
  generalize hcompiled : (q.compile (.snowflake folds hook)).warnings = warnings at hends
  cases hends with
  | noRows =>
    have hnoRows : ¬ (([] : List Value) ≠ [] ∧ ∀ row ∈ ([] : List Value), row.items? = some []) := fun h => h.1 rfl
    exact ⟨iff_of_true rfl (by simp), warnsOnceIff_of_none hcompiled hnoRows,
      warnsOnceIff_of_none hcompiled fun h => h.2 rfl, fun _ => rfl⟩
  | columnless hsome hrows =>
    exact ⟨iff_of_true rfl hrows, warnsOnceIff_of_one hcompiled (iff_of_true rfl ⟨hsome, hrows⟩),
      warnsOnceIff_of_one hcompiled (iff_of_false hdistinct.symm fun h => h.2 rfl), fun _ => rfl⟩
  | written hcolumns htext =>
    have hnotEmpty : ¬ (items ≠ [] ∧ ∀ row ∈ items, row.items? = some []) := fun h => hcolumns h.2
    refine ⟨iff_of_false htext hcolumns, ?_, ?_, fun hnone => absurd hnone htext⟩
    · split at hcompiled
      · exact warnsOnceIff_of_one hcompiled (iff_of_false hdistinct hnotEmpty)
      · exact warnsOnceIff_of_none hcompiled hnotEmpty
    · split at hcompiled
      · next hreturning => exact warnsOnceIff_of_one hcompiled (iff_of_true rfl ⟨hreturning, htext⟩)
      · next hreturning => exact warnsOnceIff_of_none hcompiled fun h => hreturning h.1

def misleadingRows : List Row :=
  [[("a", .raw "1 default values")]]

/-- Nothing is bound, and the table and the value end as default values do. -/
def misleadingInsert : Query :=
  { table := .text "log default values", method := .insert
    payload := .list (misleadingRows.map Row.toValue), returning := .ok [.text "a"] }

theorem misleadingInsert_recognised :
    misleadingInsert.method = .insert ∧
    ∃ statement, (misleadingInsert.compile (.snowflake true (some Hook.verbatim))).outcome = .ok statement ∧
      statement.sql = .text "insert into log default values (a) values (1 default values)" ∧
      misleadingInsert.insertSql (.snowflake true (some Hook.verbatim)) =
        misleadingInsert.writtenInsertSql (.snowflake true (some Hook.verbatim)) >>=
          misleadingInsert.inspectInsert ∧
      (statement.sql = .text "" ↔ ∃ items, misleadingInsert.payload.toItemsIfTrue = .ok items ∧
        ∀ row ∈ items, row.items? = some []) ∧
      (misleadingInsert.compile (.snowflake true (some Hook.verbatim))).WarnsOnceIff emptyRowWarning
        misleadingInsert.InsertsEmptyRows ∧
      (misleadingInsert.compile (.snowflake true (some Hook.verbatim))).WarnsOnceIff returningWarning
        (misleadingInsert.returning.areGiven = true ∧ statement.sql ≠ .text "") ∧
      (statement.sql = .text "" → statement.bindings = []) := by
  have hcompiles : (misleadingInsert.compile (.snowflake true (some Hook.verbatim))).outcome = .ok {
      sql := .text "insert into log default values (a) values (1 default values)", method := .insert } := by
    change (misleadingInsert.toStatement (.snowflake true (some Hook.verbatim))).outcome = _
    rw [misleadingInsert, misleadingRows, toStatement_insert rfl rfl rfl]
    rfl
  exact ⟨rfl, _, hcompiles, rfl, compile_insert_recognised rfl hcompiles⟩

end Query

end SqlBuilder
