import SqlBuilder.Proofs.Response.Casing
import SqlBuilder.Proofs.Schema.Distinction

/-!
Columns as the catalog describes them. Main statement: whatever the case of the keys in each of its rows, a
response is reshaped to the descriptions in the order of the rows, or to that of the wanted column if it is
among them.
-/

namespace SqlBuilder

open Recorded

/-! ### Rows of the catalog -/

/-- What a row says of a column, its keys being in any case. -/
structure Row.Describes (row : List (Value × Value)) (column : String × ColumnInfo) : Prop where
  name : Row.Gives row "column_name" (.text column.1)
  type : Row.Gives row "data_type" column.2.type
  maxLength : Row.Gives row "character_maximum_length" column.2.maxLength
  default : Row.Gives row "column_default" column.2.default
  nullable : ∃ answer, Row.Gives row "is_nullable" answer ∧
    (column.2.nullable = true ↔ answer = .text "YES")

theorem Row.Describes.recased {row row' : List (Value × Value)} {column : String × ColumnInfo}
    (h : Row.Describes row column) (hrecased : Row.Recased row row') : Row.Describes row' column where
  name := hrecased.gives h.name
  type := hrecased.gives h.type
  maxLength := hrecased.gives h.maxLength
  default := hrecased.gives h.default
  nullable := by
    obtain ⟨answer, hgives, hanswer⟩ := h.nullable
    exact ⟨answer, hrecased.gives hgives, hanswer⟩

theorem Row.describes_recased {rows rows' : List (List (Value × Value))} {columns : List (String × ColumnInfo)}
    (h : List.Forall₂ Row.Describes rows columns) (hrecased : List.Forall₂ Row.Recased rows rows') :
    List.Forall₂ Row.Describes rows' columns := by
  induction hrecased generalizing columns with
  | nil => exact h
  | cons hrow _ ih =>
    cases h with
    | cons hdescribes hrest => exact .cons (hdescribes.recased hrow) (ih hrest)

namespace ColumnInfo

theorem ofRow_of_describes {row : List (Value × Value)} {column : String × ColumnInfo}
    (h : Row.Describes row column) : ofRow (.dict row) = .ok (.text column.1, column.2) := by
  obtain ⟨name, type, maxLength, nullable, default⟩ := column
  obtain ⟨answer, hgives, hanswer⟩ := h.nullable
  have hread {key : String} (hkey : Row.IsLowered key) {value : Value} (hvalue : Row.Gives row key value) :
      Row.get (.dict row) (.text key) = .ok value :=
    congrArg Except.ok (Row.valueOf_of_gives hkey hvalue)
  have hnullable : answer.equals (.text "YES") = nullable := by
    rw [Bool.eq_iff_iff, Value.equals_text_iff, ← hanswer]
  subst hnullable
  simp only [ofRow, hread (by decide) h.name, hread (by decide) h.type, hread (by decide) h.maxLength,
    hread (by decide) h.default, hread (by decide) hgives]
  rfl

/-- The entry of a mapping from names to columns. -/
def named (column : String × ColumnInfo) : Value × ColumnInfo :=
  (.text column.1, column.2)

/-- A column that was not described before is put at the end. -/
theorem set_of_not_mem {name : String} {columns : List (String × ColumnInfo)} (h : name ∉ columns.map (·.1))
    (info : ColumnInfo) :
    set (.text name) info (columns.map named) = columns.map named ++ [named (name, info)] := by
  induction columns with
  | nil => rfl
  | cons column columns ih =>
    obtain ⟨hfirst, hrest⟩ := List.ne_and_not_mem_of_not_mem_cons h
    have hother : (named column).1.equals (.text name) = false := by
      rw [Bool.eq_false_iff, ne_eq, Value.equals_text_iff]
      exact fun hsame => hfirst (Value.text.inj hsame).symm
    rw [List.map_cons, set, hother, if_neg (by simp), ih hrest]
    rfl

/-- Rows of different columns are read in their order, with those that were read before them in front. -/
theorem fold_of_describes {rows : List (List (Value × Value))} {columns before : List (String × ColumnInfo)}
    (h : List.Forall₂ Row.Describes rows columns) (hdistinct : ((before ++ columns).map (·.1)).Nodup) :
    (rows.map Value.dict).foldlM (fun infos row => do
      let (name, info) ← ofRow row
      return set name info infos) (before.map named) = .ok ((before ++ columns).map named) := by
  induction h generalizing before with
  | nil => rw [List.append_nil]; rfl
  | @cons row column rows columns hrow _ ih =>
    have hnew : column.1 ∉ before.map (·.1) := by
      rw [List.map_append, List.nodup_append] at hdistinct
      exact fun hmem => hdistinct.2.2 _ hmem column.1 (by simp) rfl
    have hsplit : before ++ column :: columns = (before ++ [column]) ++ columns := by simp
    rw [List.map_cons, List.foldlM_cons, ofRow_of_describes hrow, hsplit]
    change List.foldlM _ (set (.text column.1) column.2 (before.map named)) _ = _
    rw [set_of_not_mem hnew column.2, ← List.map_singleton, ← List.map_append]
    exact ih (hsplit ▸ hdistinct)

theorem ofRows_of_describes {rows : List (List (Value × Value))} {columns : List (String × ColumnInfo)}
    (h : List.Forall₂ Row.Describes rows columns) (hdistinct : (columns.map (·.1)).Nodup) :
    ofRows (rows.map .dict) = .ok (columns.map named) :=
  @fold_of_describes rows columns [] h hdistinct

/-- What is answered: the wanted column if it is there, and else all of them. -/
def answer (wanted : Option String) (columns : List (String × ColumnInfo)) : Result :=
  match wanted.bind fun name => List.lookup name columns with
  | some info => .column info
  | none => .columns (columns.map named)

theorem find?_named (name : String) (columns : List (String × ColumnInfo)) :
    ((columns.map named).find? fun entry => entry.1.equals (.text name)).map (·.2) = List.lookup name columns := by
  induction columns with
  | nil => rfl
  | cons column columns ih =>
    rw [List.map_cons, List.find?_cons, List.lookup_cons, ← ih]
    by_cases hname : name = column.1
    · subst hname
      simp [named, Value.equals_text_self]
    · have hother : (named column).1.equals (.text name) = false := by
        rw [Bool.eq_false_iff, ne_eq, Value.equals_text_iff]
        exact fun hsame => hname (Value.text.inj hsame).symm
      have hdifferent : (name == column.1) = false := by simpa using hname
      rw [hother, hdifferent]

end ColumnInfo

open ColumnInfo in
theorem Reshape.apply_columns {rows : List (List (Value × Value))} {columns : List (String × ColumnInfo)}
    (h : List.Forall₂ Row.Describes rows columns) (hdistinct : (columns.map (·.1)).Nodup)
    (wanted : Option String) (rowCount : Value) :
    (Reshape.columns (wanted.elim .null .text)).apply { rows := rows.map .dict, rowCount } =
      .ok (answer wanted columns) := by
  simp only [Reshape.apply, ofRows_of_describes h hdistinct]
  cases wanted with
  | none =>
    have hnothing : (columns.map named).find? (fun entry => !Value.null.isNull && entry.1.equals .null) = none :=
      List.find?_eq_none.mpr fun _ _ => Bool.false_ne_true
    simp only [Bind.bind, Except.bind, Option.elim_none, hnothing]
    rfl
  | some name =>
    have hfound : (columns.map named).find?
        (fun entry => !(Value.text name).isNull && entry.1.equals (.text name)) =
          (columns.map named).find? fun entry => entry.1.equals (.text name) := rfl
    simp only [Bind.bind, Except.bind, Option.elim_some, hfound, answer, Option.bind_some, ← find?_named]
    cases (columns.map named).find? fun entry => entry.1.equals (.text name) <;> rfl

namespace Schema

open ColumnInfo

/-! ### Descriptions of the columns of a table -/

/-- The name under which the catalog has a column. The plain dialect looks columns up as they are. -/
def catalogForm (target : Target) (column : String) : Recorded String :=
  match target.dialect with
  | .ansi _ => pure column
  | .snowflake .. => catalogName target column

theorem catalogValue_eq (target : Target) (name : String) :
    catalogValue target (.text name) = do return .text (← catalogName target name) := by
  have hwrap : target.dialect.wrapValueWith .identity (.text name) target.context = do
      return .text (← target.dialect.wrapWith id name target.context) := rfl
  rw [catalogValue, catalogName, hwrap, bind_assoc, bind_assoc]
  simp only [pure_bind]
  rfl

/-- What is looked up keeps the form in which the catalog has the wanted column. -/
theorem columnsQuery_eq_ok {target : Target} {table : String} {column : Option String} {statement : Statement}
    (h : (columnsQuery target (.text table) (column.elim .null .text)).outcome = .ok statement) :
    ∃ wanted : Option String,
      Option.Rel (fun given name => (catalogForm target given).outcome = .ok name) column wanted ∧
      statement.reshape = some (.columns (wanted.elim .null .text)) := by
  obtain ⟨dialect, strict, context⟩ := target
  cases dialect with
  | ansi returning =>
    cases h
    cases column with
    | none => exact ⟨none, .none, rfl⟩
    | some name => exact ⟨some name, .some rfl, rfl⟩
  | snowflake folds hook =>
    obtain ⟨reference, -, h⟩ := bind_outcome_eq_ok.mp h
    obtain ⟨wanted, hwanted, h⟩ := bind_outcome_eq_ok.mp h
    cases h
    cases column with
    | none =>
      cases hwanted
      exact ⟨none, .none, rfl⟩
    | some name =>
      change (catalogValue _ (.text name)).outcome = _ at hwanted
      rw [catalogValue_eq] at hwanted
      obtain ⟨stored, hstored, hwanted⟩ := bind_outcome_eq_ok.mp hwanted
      cases hwanted
      exact ⟨some stored, .some hstored, rfl⟩

theorem columnInfo_statements_ok {target : Target} (hookless : target.dialect.Hookless) (table : String)
    (column : Option String) :
    ∃ statements, ((Change.columnInfo (.text table) (column.elim .null .text)).statements target).outcome =
      .ok statements := by
  obtain ⟨dialect, strict, context⟩ := target
  cases dialect with
  | ansi returning => exact ⟨_, rfl⟩
  | snowflake folds hook =>
    obtain rfl : hook = none := hookless
    obtain ⟨query, hquery, -⟩ := columnInfo_asksFor folds strict context table column
    exact ⟨_, hquery⟩

/-- A table's columns are looked up by one statement. Whatever the case of the keys in each row of the response
to it, and whichever order the rows are in, the answer is the description of the wanted column in the form in
which the catalog has its name, or if that is not there, of every column in the order of the rows. -/
theorem columnInfo_reduces (target : Target) (table : String) (column : Option String) :
    (target.dialect.Hookless →
      ∃ statements, ((Change.columnInfo (.text table) (column.elim .null .text)).statements target).outcome =
        .ok statements) ∧
    ∀ statements, ((Change.columnInfo (.text table) (column.elim .null .text)).statements target).outcome =
      .ok statements →
      ∃ statement wanted, statements = [statement] ∧
        Option.Rel (fun given name => (catalogForm target given).outcome = .ok name) column wanted ∧
        ∀ rows rows' columns rowCount, List.Forall₂ Row.Describes rows columns → (columns.map (·.1)).Nodup →
          List.Forall₂ Row.Recased rows rows' →
          statement.result { rows := rows.map .dict, rowCount } = .ok (answer wanted columns) ∧
          statement.result { rows := rows'.map .dict, rowCount } = .ok (answer wanted columns) := by
  refine ⟨fun hookless => columnInfo_statements_ok hookless table column, fun statements h => ?_⟩
  obtain ⟨statement, hstatement, h⟩ := bind_outcome_eq_ok.mp h
  cases h
  obtain ⟨wanted, hwanted, hreshape⟩ := columnsQuery_eq_ok hstatement
  have hresult (response : Response) :
      statement.result response = (Reshape.columns (wanted.elim .null .text)).apply response := by
    rw [Statement.result, hreshape]
  refine ⟨statement, wanted, rfl, hwanted, fun rows rows' columns rowCount hrows hdistinct hrecased => ?_⟩
  have hrows' := Row.describes_recased hrows hrecased
  rw [hresult, hresult]
  exact ⟨Reshape.apply_columns hrows hdistinct wanted rowCount,
    Reshape.apply_columns hrows' hdistinct wanted rowCount⟩

theorem columnInfo_reduces_mixed_case :
    let target : Target := { dialect := .snowflake true none }
    let rows : List (List (Value × Value)) :=
      [[(.text "COLUMN_NAME", .text "ID"), (.text "DATA_TYPE", .text "NUMBER"), (.text "IS_NULLABLE", .text "NO")],
        [(.text "COLUMN_NAME", .text "NAME"), (.text "DATA_TYPE", .text "TEXT"), (.text "IS_NULLABLE", .text "YES"),
          (.text "CHARACTER_MAXIMUM_LENGTH", .int 80)]]
    let rows' : List (List (Value × Value)) :=
      [[(.text "column_name", .text "ID"), (.text "Data_Type", .text "NUMBER"), (.text "is_NULLABLE", .text "NO")],
        [(.text "Column_Name", .text "NAME"), (.text "DATA_TYPE", .text "TEXT"), (.text "IS_nullable", .text "YES"),
          (.text "character_Maximum_Length", .int 80)]]
    target.dialect.Hookless ∧
      ∃ statement, ((Change.columnInfo (.text "orders") (.text "name")).statements target).outcome =
          .ok [statement] ∧
        statement.result { rows := rows.map .dict } =
          .ok (.column { type := .text "TEXT", maxLength := .int 80, nullable := true, default := .null }) ∧
        statement.result { rows := rows'.map .dict } =
          .ok (.column { type := .text "TEXT", maxLength := .int 80, nullable := true, default := .null }) := by
  intro target rows rows'
  have hookless : target.dialect.Hookless := Dialect.hookless_snowflake true
  have hrows : List.Forall₂ Row.Describes rows
      [("ID", { type := .text "NUMBER", maxLength := .null, nullable := false, default := .null }),
        ("NAME", { type := .text "TEXT", maxLength := .int 80, nullable := true, default := .null })] :=
    .cons ⟨⟨by decide +kernel, rfl⟩, ⟨by decide +kernel, rfl⟩, ⟨by decide +kernel, rfl⟩, ⟨by decide +kernel, rfl⟩,
        ⟨.text "NO", ⟨by decide +kernel, rfl⟩, by simp⟩⟩
      (.cons ⟨⟨by decide +kernel, rfl⟩, ⟨by decide +kernel, rfl⟩, ⟨by decide +kernel, rfl⟩,
          ⟨by decide +kernel, rfl⟩, ⟨.text "YES", ⟨by decide +kernel, rfl⟩, by simp⟩⟩ .nil)
  have hkey {s t : String} (h : Text.SameButCase s t) (value : Value) :
      Row.KeyRecased (.text s) (.text t) ∧ value = value := ⟨.text h, rfl⟩
  have hrecased : List.Forall₂ Row.Recased rows rows' :=
    .cons (.cons (hkey (by decide) _) (.cons (hkey (by decide) _) (.cons (hkey (by decide) _) .nil)))
      (.cons (.cons (hkey (by decide) _) (.cons (hkey (by decide) _)
        (.cons (hkey (by decide) _) (.cons (hkey (by decide) _) .nil)))) .nil)
  obtain ⟨hmade, hreduces⟩ := columnInfo_reduces target "orders" (some "name")
  obtain ⟨statements, hstatements⟩ := hmade hookless
  obtain ⟨statement, wanted, rfl, hwanted, hresult⟩ := hreduces statements hstatements
  obtain ⟨h, h'⟩ := hresult rows rows' _ .null hrows (by decide) hrecased
  cases hwanted with
  | some hname =>
    cases hname
    exact ⟨hookless, statement, hstatements, h, h'⟩

end Schema

end SqlBuilder
