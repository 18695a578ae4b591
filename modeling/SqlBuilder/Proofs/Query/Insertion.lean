import Mathlib.Data.String.Basic
import SqlBuilder.Proofs.Query.Naming
import SqlBuilder.Proofs.Query.Placement

/-!
Inserts and the rows they are made of. Main statement: a compiled insert lists every column of its rows once,
in ascending order, has a tuple for each row with a slot for each column, and binds what is neither missing
nor SQL in the order of the slots, so that the rows can be read back from it.
-/

namespace SqlBuilder

open Recorded

namespace Dialect

variable {dialect : Dialect} {context : Value}

/-- Names are written one by one. -/
theorem columnize_texts {columns : List String} {sql : Sql}
    (h : (dialect.columnize (columns.map .text) context).outcome = .ok sql) :
    ∃ parts, List.Forall₂ (fun column part => (dialect.wrap column context).outcome = .ok part) columns parts ∧
      sql = Sql.separated ", " parts := by
  obtain ⟨parts, hparts, h⟩ := bind_outcome_eq_ok.mp h
  refine ⟨parts, (List.forall₂_map_left_iff.mp (mapM_outcome_eq_ok.mp hparts)).imp fun column part hpart => ?_,
    (Except.ok.inj h).symm⟩
  obtain ⟨name, hname, hwritten⟩ := bind_outcome_eq_ok.mp hpart
  rw [outcome_liftM] at hname
  obtain rfl : column = name := Value.text.inj (Value.toName_eq_ok.mp hname)
  exact hwritten

end Dialect

namespace Query

/-! ### Columns -/

theorem mem_insertName {name other : String} {names : List String} :
    other ∈ insertName name names ↔ other = name ∨ other ∈ names := by
  induction names with
  | nil => simp [insertName]
  | cons first names ih =>
    rw [insertName]
    split
    · next hsame => simp [hsame]
    · split
      · simp
      · simp only [List.mem_cons, ih, or_left_comm]

theorem pairwise_insertName {name : String} {names : List String} (h : names.Pairwise (· < ·)) :
    (insertName name names).Pairwise (· < ·) := by
  induction names with
  | nil => simp [insertName]
  | cons first names ih =>
    obtain ⟨hfirst, hrest⟩ := List.pairwise_cons.mp h
    rw [insertName]
    split
    · exact h
    · next hne =>
      split
      · next hlt =>
        refine List.pairwise_cons.mpr ⟨fun other hother => ?_, h⟩
        rcases List.mem_cons.mp hother with rfl | hother
        · exact hlt
        · exact lt_trans hlt (hfirst other hother)
      · next hle =>
        refine List.pairwise_cons.mpr ⟨fun other hother => ?_, ih hrest⟩
        rcases mem_insertName.mp hother with rfl | hother
        · exact lt_of_le_of_ne (not_lt.mp hle) (Ne.symm hne)
        · exact hfirst other hother

theorem mem_columnUnion {rows : List Row} {column : String} :
    column ∈ columnUnion rows ↔ ∃ row ∈ rows, column ∈ row.map (·.1) := by
  have hfold : ∀ names : List String, column ∈ names.foldr insertName [] ↔ column ∈ names := by
    intro names
    induction names with
    | nil => simp
    | cons name names ih => rw [List.foldr_cons, mem_insertName, ih, List.mem_cons]
  rw [columnUnion, hfold, List.mem_flatMap]

theorem pairwise_columnUnion (rows : List Row) : (columnUnion rows).Pairwise (· < ·) := by
  have hfold : ∀ names : List String, (names.foldr insertName []).Pairwise (· < ·) := by
    intro names
    induction names with
    | nil => exact .nil
    | cons name names ih => exact pairwise_insertName ih
  exact hfold _

/-! ### Slots -/

/-- What stands in the place of a column in the tuple of a row. -/
inductive Slot where
  | default
  | fragment (sql : String)
  | bound (value : Value)

namespace Slot

def text : Slot → String
  | .default => "DEFAULT"
  | .fragment sql => sql
  | .bound _ => "?"

def value? : Slot → Option Value
  | .bound value => some value
  | _ => none

end Slot

/-- What stands in the place of a value. -/
inductive Stands : Value → Slot → Prop
  | fragment (sql : String) : Stands (.raw sql) (.fragment sql)
  | bound {value : Value} : value.isRaw = false → Stands value (.bound value)

theorem exists_stands (value : Value) :
    ∃ slot, Stands value slot ∧ (Sql.ofValue value).text = slot.text ∧
      (Sql.ofValue value).bindings = slot.value?.toList := by
  cases hraw : value.isRaw with
  | true =>
    cases value with
    | raw sql => exact ⟨.fragment sql, .fragment sql, Sql.text_code sql, rfl⟩
    | _ => cases hraw
  | false =>
    rw [Sql.ofValue_of_not_raw hraw]
    exact ⟨.bound value, .bound hraw, rfl, rfl⟩

/-- The slot that a row has for a column. -/
inductive Fills (row : Row) (column : String) : Slot → Prop
  | default : column ∉ row.map (·.1) → Fills row column .default
  | fragment {sql : String} : row.lookup column = some (.raw sql) → Fills row column (.fragment sql)
  | bound {value : Value} : row.lookup column = some value → value.isRaw = false →
      Fills row column (.bound value)

theorem lookup_eq_none_iff {row : Row} {column : String} :
    row.lookup column = none ↔ column ∉ row.map (·.1) := by
  rw [List.lookup_eq_none_iff, List.mem_map, not_exists]
  exact forall_congr' fun cell => by rw [not_and, bne_iff_ne, ne_comm]

/-- A cell is written as the slot of its column. -/
theorem exists_fills (row : Row) (column : String) :
    ∃ slot, Fills row column slot ∧ (cellSql row column).text = slot.text ∧
      (cellSql row column).bindings = slot.value?.toList := by
  rw [cellSql]
  cases hcell : row.lookup column with
  | none => exact ⟨.default, .default (lookup_eq_none_iff.mp hcell), rfl, rfl⟩
  | some value =>
    obtain ⟨slot, hstands, hwritten⟩ := exists_stands value
    refine ⟨slot, ?_, hwritten⟩
    cases hstands with
    | fragment sql => exact .fragment hcell
    | bound hraw => exact .bound hcell hraw

theorem exists_line (row : Row) (columns : List String) :
    ∃ line, List.Forall₂ (Fills row) columns line ∧
      columns.map (fun column => (cellSql row column).text) = line.map Slot.text ∧
      columns.flatMap (fun column => (cellSql row column).bindings) = line.filterMap Slot.value? := by
  induction columns with
  | nil => exact ⟨[], .nil, rfl, rfl⟩
  | cons column columns ih =>
    obtain ⟨line, hfills, htexts, hbindings⟩ := ih
    obtain ⟨slot, hslot, htext, hbinding⟩ := exists_fills row column
    refine ⟨slot :: line, .cons hslot hfills, by rw [List.map_cons, htext, htexts, List.map_cons], ?_⟩
    rw [List.flatMap_cons, hbinding, hbindings]
    cases hvalue : slot.value? <;> simp [hvalue]

/-! ### Layout -/

/-- The parts of an insert: the table, a name for each column, the slots row by row, and what comes after
them. -/
structure Insertion where
  table : String
  columns : List String
  names : List String
  grid : List (List Slot)
  returning : String

namespace Insertion

def tuple (line : List Slot) : String :=
  "(" ++ ", ".intercalate (line.map Slot.text) ++ ")"

def text (insertion : Insertion) : String :=
  "insert into " ++ insertion.table ++ " (" ++ ", ".intercalate insertion.names ++ ") values " ++
    ", ".intercalate (insertion.grid.map tuple) ++ insertion.returning

def bindings (insertion : Insertion) : List Value :=
  insertion.grid.flatten.filterMap Slot.value?

/-- Every column of the rows stands once, in ascending order, and every row has its own tuple, in which each
column has its slot. -/
structure Holds (dialect : Dialect) (q : Query) (rows : List Row) (insertion : Insertion) : Prop where
  table : ∃ sql, (q.tableSql dialect).outcome = .ok sql ∧ sql.text = insertion.table
  ascending : insertion.columns.Pairwise (· < ·)
  mem_columns : ∀ column, column ∈ insertion.columns ↔ ∃ row ∈ rows, column ∈ row.map (·.1)
  names : List.Forall₂ (fun column name =>
    ∃ sql, (dialect.wrap column q.context).outcome = .ok sql ∧ sql.text = name) insertion.columns insertion.names
  grid : List.Forall₂ (fun row line => List.Forall₂ (Fills row) insertion.columns line) rows insertion.grid
  returning : ∃ sql, (q.returningSql dialect).outcome = .ok sql ∧ sql.text = insertion.returning

end Insertion

theorem exists_grid (columns : List String) (rows : List Row) :
    ∃ grid, List.Forall₂ (fun row line => List.Forall₂ (Fills row) columns line) rows grid ∧
      rows.map (fun row => (tupleSql columns row).text) = grid.map Insertion.tuple ∧
      rows.flatMap (fun row => (tupleSql columns row).bindings) = grid.flatten.filterMap Slot.value? := by
  induction rows with
  | nil => exact ⟨[], .nil, rfl, rfl⟩
  | cons row rows ih =>
    obtain ⟨grid, hfills, htexts, hbindings⟩ := ih
    obtain ⟨line, hline, hlineTexts, hlineBindings⟩ := exists_line row columns
    have htext : (tupleSql columns row).text = Insertion.tuple line := by
      rw [tupleSql, Sql.text_append, Sql.text_append, Sql.text_separated, List.map_map, Sql.text_code,
        Sql.text_code, Insertion.tuple, ← hlineTexts]
      rfl
    have hbinding : (tupleSql columns row).bindings = line.filterMap Slot.value? := by
      rw [tupleSql, Sql.bindings_append, Sql.bindings_append, Sql.bindings_separated, List.flatMap_map,
        hlineBindings, Sql.bindings_code, Sql.bindings_code, List.nil_append, List.append_nil]
    refine ⟨line :: grid, .cons hline hfills, by rw [List.map_cons, htext, htexts, List.map_cons], ?_⟩
    rw [List.flatMap_cons, hbinding, hbindings, List.flatten_cons, List.filterMap_append]

/-! ### Reading back -/

/-- A row from the texts of its slots, which take their values from the bindings. -/
def readRow : List String → List String → List Value → Row × List Value
  | column :: columns, slot :: slots, bindings =>
    if slot = "DEFAULT" then readRow columns slots bindings
    else
      match bindings with
      | [] => ([], [])
      | value :: bindings =>
        let (row, rest) := readRow columns slots bindings
        ((column, value) :: row, rest)
  | _, _, bindings => ([], bindings)

def readRows (columns : List String) : List (List String) → List Value → List Row
  | [], _ => []
  | slots :: grid, bindings =>
    let (row, rest) := readRow columns slots bindings
    row :: readRows columns grid rest

/-- The row with its cells in the order of the columns. -/
def ordered (columns : List String) (row : Row) : Row :=
  columns.filterMap fun column => (row.lookup column).map (column, ·)

theorem ordered_cons (first : String) (columns : List String) (row : Row) :
    ordered (first :: columns) row =
      ((row.lookup first).map (first, ·)).toList ++ ordered columns row := by
  rw [ordered, List.filterMap_cons]
  cases row.lookup first <;> rfl

theorem lookup_ordered_eq_ite (columns : List String) (row : Row) (column : String) :
    (ordered columns row).lookup column = if column ∈ columns then row.lookup column else none := by
  induction columns with
  | nil => rfl
  | cons first columns ih =>
    rw [ordered_cons]
    by_cases hsame : column = first
    · subst hsame
      cases hcell : row.lookup column with
      | some value => simp
      | none => simp [ih, hcell]
    · have hbeq : (column == first) = false := beq_false_of_ne hsame
      cases hcell : row.lookup first with
      | none => simp [ih, hsame]
      | some value => simp [ih, hsame, List.lookup_cons, hbeq]

/-- In the order of the columns the cells are found as before if there is a column for each. -/
theorem lookup_ordered {columns : List String} {row : Row} (h : ∀ column ∈ row.map (·.1), column ∈ columns)
    (column : String) : (ordered columns row).lookup column = row.lookup column := by
  rw [lookup_ordered_eq_ite]
  split
  · rfl
  · next hnone => exact (lookup_eq_none_iff.mpr (mt (h column) hnone)).symm

theorem readRow_line {row : Row} (hraw : ∀ cell ∈ row, cell.2.isRaw = false) {columns : List String}
    {line : List Slot} (h : List.Forall₂ (Fills row) columns line) (rest : List Value) :
    readRow columns (line.map Slot.text) (line.filterMap Slot.value? ++ rest) =
      (ordered columns row, rest) := by
  induction h with
  | nil => rfl
  | @cons column slot columns line hslot _ ih =>
    cases hslot with
    | default hmissing =>
      have hnone := lookup_eq_none_iff.mpr hmissing
      have hskip : (Slot.default :: line).filterMap Slot.value? = line.filterMap Slot.value? := rfl
      simpa [readRow, Slot.text, hskip, ordered_cons, hnone] using ih
    | @fragment sql hcell =>
      obtain ⟨before, after, rfl, -⟩ := List.lookup_eq_some_iff.mp hcell
      cases hraw (column, .raw sql) (by simp)
    | @bound value hcell _ =>
      simp [readRow, Slot.text, Slot.value?, ordered_cons, hcell, ih]

theorem readRows_grid {columns : List String} {rows : List Row} {grid : List (List Slot)}
    (hraw : ∀ row ∈ rows, ∀ cell ∈ row, cell.2.isRaw = false)
    (h : List.Forall₂ (fun row line => List.Forall₂ (Fills row) columns line) rows grid) :
    readRows columns (grid.map (·.map Slot.text)) (grid.flatten.filterMap Slot.value?) =
      rows.map (ordered columns) := by
  induction h with
  | nil => rfl
  | @cons row line rows grid hline _ ih =>
    obtain ⟨hrow, hrows⟩ := List.forall_mem_cons.mp hraw
    rw [List.map_cons, List.flatten_cons, List.filterMap_append, readRows, readRow_line hrow hline]
    simp only
    rw [ih hrows, List.map_cons]

/-! ### Statements -/

variable {dialect : Dialect} {q : Query}

theorem items_of_rows (h : q.rows ≠ []) :
    ∃ item items, q.payload.toItemsIfTrue = .ok (item :: items) ∧
      Row.ofValues (item :: items) = .ok q.rows := by
  cases hbind : q.payload.toItemsIfTrue.bind Row.ofValues with
  | error e =>
    rw [Query.rows, hbind] at h
    exact absurd rfl h
  | ok rows =>
    obtain ⟨items, hitems, hrows⟩ := except_bind_eq_ok.mp hbind
    have hsame : q.rows = rows := rows_eq_of_ofValues hitems hrows
    rw [hsame] at h ⊢
    cases items with
    | nil => exact absurd (Except.ok.inj hrows).symm h
    | cons item items => exact ⟨item, items, hitems, hrows⟩

/-- An insert of rows with columns is put together from the table, the names of the columns, the tuples and
what is returned. -/
theorem toStatement_insert_eq_ok (hmethod : q.method = .insert) (hcolumns : columnUnion q.rows ≠ [])
    {statement : Statement} :
    (q.toStatement dialect).outcome = .ok statement ↔
      q.table.isTrue = true ∧ ∃ table names returning, (q.tableSql dialect).outcome = .ok table ∧
        (dialect.columnize ((columnUnion q.rows).map .text) q.context).outcome = .ok names ∧
        (q.returningSql dialect).outcome = .ok returning ∧
        statement = { Statement.ofSql (Sql.code "insert into " ++ table ++ Sql.code " (" ++ names ++
          Sql.code ") values " ++ Sql.separated ", " (q.rows.map (tupleSql (columnUnion q.rows))) ++ returning)
          .insert with pluck := q.pluck, options := q.options } := by
  obtain ⟨item, items, hitems, hrows⟩ := items_of_rows (rows_ne_nil_of_columnUnion hcolumns)
  rw [toStatement]
  split
  · next htable =>
    rw [compile, sql_insert hmethod hitems hrows, hmethod, bind_outcome_eq_ok]
    constructor
    · rintro ⟨sql, hsql, h⟩
      obtain ⟨table, hwritten, hsql⟩ := bind_outcome_eq_ok.mp hsql
      obtain ⟨names, returning, hnames, hreturning, rfl⟩ := (insertRowsSql_eq_ok hcolumns).mp hsql
      exact ⟨htable, table, names, returning, hwritten, hnames, hreturning, (Except.ok.inj h).symm⟩
    · rintro ⟨-, table, names, returning, hwritten, hnames, hreturning, rfl⟩
      have hsql : (q.insertRowsSql dialect table q.rows).outcome = .ok _ :=
        (insertRowsSql_eq_ok hcolumns).mpr ⟨names, returning, hnames, hreturning, rfl⟩
      exact ⟨_, bind_outcome_eq_ok.mpr ⟨table, hwritten, hsql⟩, rfl⟩
  · next htable =>
    refine iff_of_false (fun h => ?_) (fun h => htable h.1)
    cases h

theorem bindings_of_returningSql {returning : Sql} (h : (q.returningSql dialect).outcome = .ok returning) :
    returning.bindings = [] := by
  rcases parts_of_returningSql h with rfl | ⟨columns, names, -, -, hnames, rfl⟩
  · rfl
  · rw [Sql.bindings_append, Sql.bindings_of_naming (Dialect.naming_of_columnize hnames)]
    rfl

/-- Names that are texts are written for what is returned. -/
theorem exists_returningSql (hookless : dialect.Hookless) {returned : List String}
    (h : q.returning = .ok (returned.map Value.text)) :
    ∃ returning, (q.returningSql dialect).outcome = .ok returning := by
  unfold returningSql
  rw [h]
  split
  · exact ⟨_, rfl⟩
  · exact ⟨_, bind_outcome_eq_ok.mpr ⟨_, rfl, bind_outcome_eq_ok.mpr
      ⟨_, (Dialect.columnize_eq_ok hookless).mpr ⟨returned, rfl, rfl⟩, rfl⟩⟩⟩

/-- Mappings from names are the rows that they stand for. -/
theorem rows_of_toValue {rows : List Row} (h : q.payload = .list (rows.map Row.toValue)) : q.rows = rows := by
  have hitems : q.payload.toItemsIfTrue = .ok (rows.map Row.toValue) := by
    cases rows <;> rw [h] <;> rfl
  exact rows_eq_of_ofValues hitems (Row.ofValues_toValue rows)

theorem columnUnion_ne_nil {rows : List Row} (h : ∃ row ∈ rows, row ≠ []) : columnUnion rows ≠ [] := by
  obtain ⟨row, hrow, hne⟩ := h
  exact fun hnil => hne ((columnUnion_eq_nil_iff rows).mp hnil row hrow)

/-- A compiled insert shows its rows. -/
theorem exists_insertion (hmethod : q.method = .insert) (hcolumns : columnUnion q.rows ≠ [])
    {statement : Statement} (h : (q.toStatement dialect).outcome = .ok statement) :
    ∃ insertion : Insertion, insertion.Holds dialect q q.rows ∧ insertion.columns = columnUnion q.rows ∧
      statement.sql = .text insertion.text ∧ statement.bindings = insertion.bindings := by
  obtain ⟨-, table, names, returning, htable, hnames, hreturning, rfl⟩ :=
    (toStatement_insert_eq_ok hmethod hcolumns).mp h
  obtain ⟨parts, hparts, rfl⟩ := Dialect.columnize_texts hnames
  obtain ⟨grid, hgrid, htexts, hbindings⟩ := exists_grid (columnUnion q.rows) q.rows
  refine ⟨⟨table.text, columnUnion q.rows, parts.map Sql.text, grid, returning.text⟩,
    ⟨⟨table, htable, rfl⟩, pairwise_columnUnion q.rows, fun _ => mem_columnUnion, ?_, hgrid,
      ⟨returning, hreturning, rfl⟩⟩, rfl, ?_, ?_⟩
  · exact List.forall₂_map_right_iff.mpr (hparts.imp fun column part hpart => ⟨part, hpart, rfl⟩)
  · have htuples : (Sql.separated ", " (q.rows.map (tupleSql (columnUnion q.rows)))).text =
        ", ".intercalate (grid.map Insertion.tuple) := by
      rw [Sql.text_separated, List.map_map, ← htexts]
      rfl
    refine congrArg Value.text ?_
    change _ = "insert into " ++ table.text ++ " (" ++ ", ".intercalate (parts.map Sql.text) ++ ") values " ++
      ", ".intercalate (grid.map Insertion.tuple) ++ returning.text
    rw [Sql.text_append, Sql.text_append, Sql.text_append, Sql.text_append, Sql.text_append, Sql.text_append,
      htuples, Sql.text_separated, Sql.text_code, Sql.text_code, Sql.text_code]
  · simp only [Statement.ofSql, Insertion.bindings, Sql.bindings_append, Sql.bindings_code,
      Sql.bindings_of_naming (naming_of_tableSql htable), Sql.bindings_of_naming (Dialect.naming_of_columnize hnames),
      bindings_of_returningSql hreturning, Sql.bindings_separated, List.flatMap_map, hbindings, List.nil_append, List.append_nil]

/-- Nothing is lost in an insert and nothing misplaced. -/
theorem insert_complete {rows : List Row} (hmethod : q.method = .insert)
    (hpayload : q.payload = .list (rows.map Row.toValue)) (hsome : ∃ row ∈ rows, row ≠ []) :
    (∀ statement, (q.toStatement dialect).outcome = .ok statement →
      ∃ insertion : Insertion, insertion.Holds dialect q rows ∧ statement.sql = .text insertion.text ∧
        statement.bindings = insertion.bindings ∧
        ((∀ row ∈ rows, ∀ cell ∈ row, cell.2.isRaw = false) →
          List.Forall₂ (fun row read => ∀ column, read.lookup column = row.lookup column) rows
            (readRows insertion.columns (insertion.grid.map (·.map Slot.text)) statement.bindings))) ∧
    (dialect.Hookless → ∀ (name : String) (returned : List String), q.table = .text name → name ≠ "" →
      q.returning = .ok (returned.map Value.text) →
      ∃ statement, (q.toStatement dialect).outcome = .ok statement) := by
  have hrows : q.rows = rows := rows_of_toValue hpayload
  have hcolumns : columnUnion q.rows ≠ [] := hrows ▸ columnUnion_ne_nil hsome
  refine ⟨fun statement h => ?_, fun hookless name returned htable hname hreturning => ?_⟩
  · obtain ⟨insertion, hholds, -, hsql, hbindings⟩ := exists_insertion hmethod hcolumns h
    rw [hrows] at hholds
    refine ⟨insertion, hholds, hsql, hbindings, fun hraw => ?_⟩
    rw [hbindings, Insertion.bindings, readRows_grid hraw hholds.grid, List.forall₂_map_right_iff,
      List.forall₂_same]
    intro row hrow column
    exact lookup_ordered (fun other hother => (hholds.mem_columns other).mpr ⟨row, hrow, hother⟩) column
  · have hgiven : q.table.isTrue = true := by
      rw [htable]
      simpa [Value.isTrue] using hname
    have hwritten : (q.tableSql dialect).outcome = .ok (dialect.written name) := by
      rw [tableSql, if_pos hgiven]
      exact (Dialect.wrapValue_eq_ok hookless).mpr ⟨name, htable, rfl⟩
    obtain ⟨returning, hwrittenReturning⟩ := exists_returningSql hookless hreturning
    exact ⟨_, (toStatement_insert_eq_ok hmethod hcolumns).mpr ⟨hgiven, _, _, _, hwritten,
      (Dialect.columnize_eq_ok hookless).mpr ⟨_, rfl, rfl⟩, hwrittenReturning, rfl⟩⟩

/-- Rows with gaps, one of them without any cell. -/
def gappedRows : List Row :=
  [[("b", .int 1), ("a", .text "x")], [], [("c", .int 2), ("a", .null)]]

def gappedInsert : Query :=
  { table := .text "t", method := .insert, payload := .list (gappedRows.map Row.toValue) }

theorem gappedInsert_complete :
    gappedInsert.method = .insert ∧ gappedInsert.payload = .list (gappedRows.map Row.toValue) ∧
    (∃ row ∈ gappedRows, row ≠ []) ∧
    ∃ statement, (gappedInsert.toStatement (.snowflake true none)).outcome = .ok statement ∧
      ∃ insertion : Insertion, insertion.Holds (.snowflake true none) gappedInsert gappedRows ∧
        statement.sql = .text insertion.text ∧ statement.bindings = insertion.bindings ∧
        List.Forall₂ (fun row read => ∀ column, read.lookup column = row.lookup column) gappedRows
          (readRows insertion.columns (insertion.grid.map (·.map Slot.text)) statement.bindings) := by
  have hsome : ∃ row ∈ gappedRows, row ≠ [] := ⟨_, List.mem_cons_self, List.cons_ne_nil _ _⟩
  have hraw : ∀ row ∈ gappedRows, ∀ cell ∈ row, cell.2.isRaw = false := by decide
  obtain ⟨hshown, hcompiles⟩ := @insert_complete (.snowflake true none) gappedInsert gappedRows rfl rfl hsome
  obtain ⟨statement, hstatement⟩ := hcompiles rfl "t" [] rfl (by decide) rfl
  obtain ⟨insertion, hholds, hsql, hbindings, hread⟩ := hshown statement hstatement
  exact ⟨rfl, rfl, hsome, statement, hstatement, insertion, hholds, hsql, hbindings, hread hraw⟩

example : (gappedInsert.toStatement (.snowflake true none)).outcome = .ok {
    sql := .text
      "insert into \"T\" (\"A\", \"B\", \"C\") values (?, ?, DEFAULT), (DEFAULT, DEFAULT, DEFAULT), (?, DEFAULT, ?)"
    bindings := [.text "x", .int 1, .null, .int 2]
    method := .insert } := by
  rw [gappedInsert, gappedRows, toStatement_insert rfl rfl rfl]
  rfl

end Query

end SqlBuilder
