import SqlBuilder.Proofs.Query.Insertion
import SqlBuilder.Proofs.Query.Refinement

/-!
How many rows an insert inserts. Main statement: the plain dialect inserts as many as it was given exactly if
one row was given or some row has a column; several rows without any column become a single one.
-/

namespace SqlBuilder

open Recorded

/-- A tuple is opened by a piece of its own, and default values are another row. -/
def Piece.startsRow : Piece → Bool
  | .code text => text == "(" || text == " default values"
  | _ => false

namespace Sql

/-- One row for each tuple, and one for default values. -/
def insertedRows (sql : Sql) : Nat :=
  sql.countP Piece.startsRow

@[simp] theorem insertedRows_append (a b : Sql) :
    insertedRows (a ++ b) = insertedRows a + insertedRows b :=
  List.countP_append

theorem insertedRows_separated {separator : String} (h : (code separator).insertedRows = 0) {parts : List Sql}
    {count : Nat} (hparts : ∀ part ∈ parts, part.insertedRows = count) :
    (separated separator parts).insertedRows = parts.length * count := by
  induction parts with
  | nil => rw [List.length_nil, Nat.zero_mul]; rfl
  | cons part parts ih =>
    obtain ⟨hpart, hrest⟩ := List.forall_mem_cons.mp hparts
    cases parts with
    | nil => simpa using hpart
    | cons part' parts =>
      rw [separated_cons_cons, insertedRows_append, insertedRows_append, h, hpart, ih hrest, Nat.zero_add,
        Nat.add_comm]
      exact (Nat.succ_mul _ _).symm

theorem insertedRows_naming {sql : Sql} (h : ∀ piece ∈ sql, piece.IsNaming) : sql.insertedRows = 0 := by
  rw [insertedRows, List.countP_eq_zero]
  intro piece hpiece
  have hnaming := h piece hpiece
  cases piece with
  | code text =>
    simp only [Piece.IsNaming, List.mem_cons, List.not_mem_nil, or_false] at hnaming
    rcases hnaming with rfl | rfl | rfl | rfl <;> decide
  | _ => simp [Piece.startsRow]

end Sql

namespace Query

variable {dialect : Dialect} {q : Query}

theorem insertedRows_tableSql {table : Sql} (h : (q.tableSql dialect).outcome = .ok table) :
    table.insertedRows = 0 :=
  Sql.insertedRows_naming (naming_of_tableSql h)

theorem insertedRows_returningSql {returning : Sql} (h : (q.returningSql dialect).outcome = .ok returning) :
    returning.insertedRows = 0 := by
  rcases parts_of_returningSql h with rfl | ⟨columns, names, -, -, hnames, rfl⟩
  · rfl
  · rw [Sql.insertedRows_append, Sql.insertedRows_naming (Dialect.naming_of_columnize hnames)]
    rfl

theorem insertedRows_cellSql (row : Row) (column : String) : (cellSql row column).insertedRows = 0 := by
  rw [cellSql]
  split
  · next value _ => cases value <;> rfl
  · rfl

theorem insertedRows_tupleSql (columns : List String) (row : Row) : (tupleSql columns row).insertedRows = 1 := by
  have hcells : (Sql.separated ", " (columns.map (cellSql row))).insertedRows = 0 := by
    rw [Sql.insertedRows_separated rfl (List.forall_mem_map.mpr fun column _ => insertedRows_cellSql row column),
      Nat.mul_zero]
  rw [tupleSql, Sql.insertedRows_append, Sql.insertedRows_append, hcells]
  rfl

/-- Without any column there is one row, and else there are as many as were given. -/
theorem insertedRows_insertRowsSql {supportsReturning : Bool} {table sql : Sql} {rows : List Row}
    (htable : (q.tableSql (.ansi supportsReturning)).outcome = .ok table)
    (h : (q.insertRowsSql (.ansi supportsReturning) table rows).outcome = .ok sql) :
    sql.insertedRows = if columnUnion rows = [] then 1 else rows.length := by
  split
  · next hcolumns =>
    rw [insertRowsSql_empty q hcolumns] at h
    obtain rfl := Except.ok.inj h
    rw [Sql.insertedRows_append, Sql.insertedRows_append, insertedRows_tableSql htable]
    rfl
  · next hcolumns =>
    obtain ⟨names, returning, hnames, hreturning, rfl⟩ := (insertRowsSql_eq_ok hcolumns).mp h
    have htuples : (Sql.separated ", " (rows.map (tupleSql (columnUnion rows)))).insertedRows = rows.length := by
      rw [Sql.insertedRows_separated rfl (List.forall_mem_map.mpr fun row _ => insertedRows_tupleSql _ row),
        List.length_map, Nat.mul_one]
    simp only [Sql.insertedRows_append, insertedRows_tableSql htable, insertedRows_returningSql hreturning,
      Sql.insertedRows_naming (Dialect.naming_of_columnize hnames), htuples]
    -- none of the words around the tuples is a tuple or stands for one
    change 0 + 0 + 0 + 0 + 0 + rows.length + 0 = rows.length
    omega

/-- The text has a tuple for each of so many rows, or is that of one row of default values. -/
inductive ShowsRows (dialect : Dialect) (q : Query) : String → Nat → Prop
  | tuples {insertion : Insertion} : insertion.Holds dialect q q.rows →
      ShowsRows dialect q insertion.text insertion.grid.length
  | defaultValues {table : Sql} : (q.tableSql dialect).outcome = .ok table →
      ShowsRows dialect q ("insert into " ++ table.text ++ " default values") 1

theorem isTrue_of_tableSql {table : Sql} (h : (q.tableSql dialect).outcome = .ok table) :
    q.table.isTrue = true := by
  rw [tableSql] at h
  split at h
  · next hgiven => exact hgiven
  · cases h

theorem showsRows_of_compile {supportsReturning : Bool} (hmethod : q.method = .insert) {statement : Statement}
    (h : (q.compile (.ansi supportsReturning)).outcome = .ok statement) {table sql : Sql}
    (htable : (q.tableSql (.ansi supportsReturning)).outcome = .ok table) (htext : statement.sql = .text sql.text)
    (hsql : (q.insertRowsSql (.ansi supportsReturning) table q.rows).outcome = .ok sql) :
    q.ShowsRows (.ansi supportsReturning) sql.text sql.insertedRows := by
  rw [insertedRows_insertRowsSql htable hsql]
  split
  · next hcolumns =>
    rw [insertRowsSql_empty q hcolumns] at hsql
    obtain rfl := Except.ok.inj hsql
    rw [Sql.text_append, Sql.text_append, Sql.text_code, Sql.text_code]
    exact .defaultValues htable
  · next hcolumns =>
    have hstatement : (q.toStatement (.ansi supportsReturning)).outcome = .ok statement := by
      rw [toStatement, if_pos (isTrue_of_tableSql htable), h]
    obtain ⟨insertion, hholds, -, hinsertion, -⟩ := exists_insertion hmethod hcolumns hstatement
    rw [Value.text.inj (htext.symm.trans hinsertion), hholds.grid.length_eq]
    exact .tuples hholds

/-- Every row is inserted exactly if there is one, or if one of them has a column. -/
theorem insertedRows_eq_iff {supportsReturning : Bool} (hmethod : q.method = .insert) {items : List Value}
    (hitems : q.payload.toItemsIfTrue = .ok items) (hsome : items ≠ []) {statement : Statement}
    (h : (q.compile (.ansi supportsReturning)).outcome = .ok statement) :
    ∃ sql, (q.sql (.ansi supportsReturning)).outcome = .ok sql ∧ statement.sql = .text sql.text ∧
      q.ShowsRows (.ansi supportsReturning) sql.text sql.insertedRows ∧
      (sql.insertedRows = items.length ↔ items.length = 1 ∨ ∃ row ∈ items, row.items? ≠ some []) := by
  obtain ⟨sql, hsql, hstatement⟩ := bind_outcome_eq_ok.mp h
  have htext : statement.sql = .text sql.text := by
    rw [← Except.ok.inj hstatement]
    rfl
  refine ⟨sql, hsql, htext, ?_⟩
  obtain ⟨item, items, rfl⟩ := List.exists_cons_of_ne_nil hsome
  rw [sql_of_insert hmethod] at hsql
  obtain ⟨given, hgiven, hbranch⟩ := bind_outcome_eq_ok.mp hsql
  obtain rfl : item :: items = given := Except.ok.inj (hitems.symm.trans hgiven)
  obtain ⟨table, htable, hrest⟩ := bind_outcome_eq_ok.mp hbranch
  obtain ⟨rows, hrows, hwritten⟩ := bind_outcome_eq_ok.mp hrest
  obtain rfl : q.rows = rows := rows_eq_of_ofValues hitems hrows
  refine ⟨showsRows_of_compile hmethod h htable htext hwritten, ?_⟩
  rw [insertedRows_insertRowsSql htable hwritten, (Row.items_of_ofValues hrows).length_eq]
  have hcolumns := columnUnion_of_ofValues hrows
  split
  · next hnone =>
    have hnoColumn := hcolumns.mp hnone
    constructor
    · exact fun hone => .inl hone.symm
    · rintro (hone | ⟨row, hrow, hcolumn⟩)
      · exact hone.symm
      · exact absurd (hnoColumn row hrow) hcolumn
  · next hsome =>
    obtain ⟨row, hrow⟩ := not_forall.mp (mt hcolumns.mpr hsome)
    exact iff_of_true rfl (.inr ⟨row, Classical.not_imp.mp hrow⟩)

theorem gappedInsert_insertedRows :
    gappedInsert.method = .insert ∧ ∃ items, gappedInsert.payload.toItemsIfTrue = .ok items ∧ items ≠ [] ∧
      ∃ statement, (gappedInsert.compile (.ansi true)).outcome = .ok statement ∧
        ∃ sql, (gappedInsert.sql (.ansi true)).outcome = .ok sql ∧ statement.sql = .text sql.text ∧
          gappedInsert.ShowsRows (.ansi true) sql.text sql.insertedRows ∧
          (sql.insertedRows = items.length ↔ items.length = 1 ∨ ∃ row ∈ items, row.items? ≠ some []) := by
  have hcompiles : (gappedInsert.compile (.ansi true)).outcome = .ok {
      sql := .text
        "insert into \"t\" (\"a\", \"b\", \"c\") values (?, ?, DEFAULT), (DEFAULT, DEFAULT, DEFAULT), (?, DEFAULT, ?)"
      bindings := [.text "x", .int 1, .null, .int 2]
      method := .insert } := by
    change (gappedInsert.toStatement (.ansi true)).outcome = _
    rw [gappedInsert, gappedRows, toStatement_insert rfl rfl rfl]
    rfl
  exact ⟨rfl, _, rfl, List.cons_ne_nil _ _, _, hcompiles,
    insertedRows_eq_iff rfl rfl (List.cons_ne_nil _ _) hcompiles⟩

/-- Two rows without any column. -/
def columnlessInsert : Query :=
  { table := .text "t", method := .insert, payload := .list [.dict [], .dict []] }

/-- Only one of them is inserted. -/
theorem columnlessInsert_loses_row :
    (columnlessInsert.compile (.ansi true)).outcome =
      .ok { sql := .text "insert into \"t\" default values", method := .insert } ∧
    ∃ items sql, columnlessInsert.payload.toItemsIfTrue = .ok items ∧ items.length = 2 ∧
      (columnlessInsert.sql (.ansi true)).outcome = .ok sql ∧ sql.text = "insert into \"t\" default values" ∧
      sql.insertedRows = 1 := by
  have hsql : (columnlessInsert.sql (.ansi true)).outcome =
      .ok [.code "insert into ", .name "\"t\"", .code " default values"] := by
    rw [sql_insert rfl rfl (Row.ofValues_toValue [[], []])]
    rfl
  exact ⟨bind_outcome_eq_ok.mpr ⟨_, hsql, rfl⟩, _, _, rfl, rfl, hsql, rfl, rfl⟩

end Query

end SqlBuilder
