import SqlBuilder.Proofs.Dialect.Unquoting
import SqlBuilder.Proofs.Dialect.Written
import SqlBuilder.Proofs.Name.Bare
import SqlBuilder.Query.Compile
import SqlBuilder.Response

/-!
A single column read off the rows of a result. Main statement: the column is found under the reference it
was selected by exactly if that reference is one bare identifier; by any other reference every row gives
null.
-/

namespace SqlBuilder

open Name

namespace Dialect

/-- What a driver calls the column that is selected by a reference: by its alias, or else by the last atom
that is written, without quotes. -/
def resultName (dialect : Dialect) (reference : String) : String :=
  match (Reference.parse reference.toList).aliasName with
  | some name => unquote (String.ofList (dialect.identifierText name))
  | none => unquote ((atoms (dialect.written reference).text).getLast?.getD "")

variable (dialect : Dialect)

theorem resultName_eq (reference : String) :
    dialect.resultName reference =
      String.ofList (dialect.keptName (Reference.parse reference.toList).lastIdentifier) := by
  have hkept : ∀ cs, unquote (String.ofList (dialect.identifierText cs)) =
      String.ofList (dialect.keptName cs) := by
    intro cs
    rw [unquote, String.toList_ofList, unquoteChars_identifierText]
  rw [resultName, Reference.lastIdentifier]
  cases halias : (Reference.parse reference.toList).aliasName with
  | some name => exact hkept name
  | none =>
    have hatoms := Reference.areAtoms_parse reference.toList
    obtain ⟨last, hlast⟩ : ∃ last, (Reference.parse reference.toList).atoms.getLast? = some last :=
      ⟨_, List.getLast?_eq_some_getLast hatoms.ne_nil⟩
    have hwritten : (atoms (dialect.written reference).text).getLast? =
        some (String.ofList (dialect.identifierText last)) := by
      rw [atoms, written, splitAtoms_referenceSql hatoms halias, List.map_map, List.getLast?_map, hlast]
      rfl
    rw [hwritten, hlast]
    exact hkept last

theorem marks_stored (cs : List Char) : marks (dialect.stored cs) = marks cs := by
  match dialect with
  | .ansi _ => rfl
  | .snowflake false _ => rfl
  | .snowflake true _ =>
    rw [stored]
    split
    · rfl
    · exact Text.countP_upperChars cs

theorem stored_eq_or_upper (cs : List Char) :
    dialect.stored cs = cs ∨ dialect.stored cs = Text.upperChars cs := by
  match dialect with
  | .ansi _ => exact .inl rfl
  | .snowflake false _ => exact .inl rfl
  | .snowflake true _ =>
    rw [stored]
    split
    · exact .inl rfl
    · exact .inr rfl

/-- A bare identifier is kept as it is or in upper case. -/
theorem resultName_of_bare {column : String} (h : IsBare column) :
    dialect.resultName column = column ∨
      dialect.resultName column = Text.upper column := by
  obtain ⟨hatoms, halias, hquoted⟩ := h
  have hlast : (Reference.parse column.toList).lastIdentifier = column.toList := by
    rw [Reference.lastIdentifier, halias, hatoms]
    rfl
  have hstored : isQuotedChars (dialect.stored column.toList) = false := by
    rw [isQuotedChars_stored, hquoted]
  rw [resultName_eq, hlast, keptName, unquoteChars_of_not_quoted hstored]
  rcases dialect.stored_eq_or_upper column.toList with hsame | hupper
  · exact .inl (by rw [hsame, String.ofList_toList])
  · exact .inr (by rw [hupper, Text.upper])

/-- Whatever else makes a reference has a mark that its name in the result lacks. -/
theorem fewer_of_not_bare {column : String} (h : ¬ IsBare column) :
    marks (dialect.resultName column).toList < marks column.toList := by
  rw [resultName_eq, String.toList_ofList, keptName]
  rcases lastIdentifier_eq_or_fewer column.toList with ⟨hatoms, halias⟩ | hfewer
  · have hlast : (Reference.parse column.toList).lastIdentifier = column.toList := by
      rw [Reference.lastIdentifier, halias, hatoms]
      rfl
    have hquoted : isQuotedChars column.toList = true := by
      by_contra hnot
      exact h ⟨hatoms, halias, by simpa using hnot⟩
    rw [hlast, stored_of_quoted hquoted]
    exact fewer_of_quoted hquoted
  · have hle := marks_unquoteChars_le (dialect.stored (Reference.parse column.toList).lastIdentifier)
    rw [marks_stored] at hle
    omega

end Dialect

/-! ### Rows with one column -/

namespace Row

/-- A key finds a name that is the same up to case. -/
def Finds (key name : String) : Prop :=
  name = key ∨ name = Text.upper key ∨ name = Text.lower key ∨ Text.lower name = Text.lower key

instance (key name : String) : Decidable (Finds key name) :=
  inferInstanceAs (Decidable (_ ∨ _ ∨ _ ∨ _))

theorem entry?_singleton (name key : String) (value : Value) :
    entry? [(.text name, value)] (.text key) = if name = key then some value else none := by
  by_cases h : name = key <;> simp [Value.equals, h, entry?]

theorem findSome?_entry?_singleton (name : String) (value : Value) (keys : List String) :
    (keys.findSome? fun key => entry? [(.text name, value)] (.text key)) =
      if name ∈ keys then some value else none := by
  induction keys with
  | nil => rfl
  | cons key keys ih =>
    rw [List.findSome?_cons, entry?_singleton, ih]
    by_cases h : name = key <;> simp [h]

theorem valueOf_singleton (name key : String) (value : Value) :
    valueOf [(.text name, value)] key = if Finds key name then value else .null := by
  rw [valueOf, findSome?_entry?_singleton]
  by_cases hcases : name ∈ [key, Text.upper key, Text.lower key]
  · have hfinds : Finds key name := by
      simp only [List.mem_cons, List.not_mem_nil, or_false] at hcases
      rcases hcases with h | h | h
      · exact .inl h
      · exact .inr (.inl h)
      · exact .inr (.inr (.inl h))
    rw [if_pos hcases, if_pos hfinds]
  · rw [if_neg hcases]
    simp only [List.mem_cons, List.not_mem_nil, or_false, not_or] at hcases
    by_cases hlower : Text.lower name = Text.lower key <;> simp [Finds, hcases, hlower, Value.shown]

theorem marks_of_finds {key name : String} (h : Finds key name) : marks name.toList = marks key.toList := by
  have hlower : ∀ s : String, marks (Text.lower s).toList = marks s.toList := by
    intro s
    rw [Text.lower, String.toList_ofList]
    exact Text.countP_lowerFrom false s.toList
  rcases h with h | h | h | h
  · rw [h]
  · rw [h, Text.upper, String.toList_ofList]
    exact Text.countP_upperChars key.toList
  · rw [h, hlower]
  · rw [← hlower, h, hlower]

end Row

theorem Dialect.finds_resultName_iff (dialect : Dialect) (column : String) :
    Row.Finds column (dialect.resultName column) ↔ IsBare column := by
  constructor
  · intro h
    by_contra hbare
    have hfewer := dialect.fewer_of_not_bare hbare
    rw [Row.marks_of_finds h] at hfewer
    omega
  · intro h
    rcases dialect.resultName_of_bare h with hsame | hupper
    · exact .inl hsame
    · exact .inr (.inl hupper)

namespace Query

open Dialect Recorded

theorem selectSql_pluckColumn {dialect : Dialect} (hookless : dialect.Hookless) {table : String}
    (htable : table ≠ "") (column : String) :
    (((on (.text table)).pluckColumn (.text column)).selectSql dialect).outcome =
      .ok (Sql.separated " " [Sql.code "select " ++ dialect.written column, Sql.code "from",
        dialect.written table]) := by
  have hcolumn : (dialect.columnize [.text column] .null).outcome = .ok (dialect.written column) :=
    (columnize_eq_ok hookless).mpr ⟨[column], rfl, (Sql.separated_singleton ", " _).symm⟩
  have htableSql : (((on (.text table)).pluckColumn (.text column)).tableSql dialect).outcome =
      .ok (dialect.written table) := by
    have hgiven : (Value.text table).isTrue = true := by simpa [Value.isTrue] using htable
    change (if (Value.text table).isTrue = true then dialect.wrapValue (.text table) .null
      else .fail .tableMissing).outcome = _
    rw [if_pos hgiven]
    exact (wrapValue_eq_ok hookless).mpr ⟨table, rfl, rfl⟩
  refine bind_outcome_eq_ok.mpr ⟨[.text column], rfl, ?_⟩
  refine bind_outcome_eq_ok.mpr ⟨_, hcolumn, ?_⟩
  exact bind_outcome_eq_ok.mpr ⟨_, htableSql, by cases dialect <;> rfl⟩

/-- Nothing but the column and the table is written, and the column is remembered as it was given. -/
theorem toStatement_pluckColumn {dialect : Dialect} (hookless : dialect.Hookless) {table : String}
    (htable : table ≠ "") (column : String) :
    (((on (.text table)).pluckColumn (.text column)).toStatement dialect).outcome =
      .ok { sql := .text ("select " ++ (dialect.written column).text ++ " from " ++
              (dialect.written table).text)
            bindings := []
            method := .pluck
            pluck := .text column } := by
  have hgiven : (Value.text table).isTrue = true := by simpa [Value.isTrue] using htable
  have hnothing : ∀ name, (dialect.written name).bindings = [] := by
    intro name
    rw [written, bindings_referenceSql]
  have htext : (Sql.separated " " [Sql.code "select " ++ dialect.written column, Sql.code "from",
      dialect.written table]).text =
        "select " ++ (dialect.written column).text ++ " from " ++ (dialect.written table).text :=
    String.toList_inj.mp (by simp [Sql.separated_cons_cons])
  have hbindings : (Sql.separated " " [Sql.code "select " ++ dialect.written column, Sql.code "from",
      dialect.written table]).bindings = [] := by
    simp [Sql.bindings_separated, hnothing]
  change (if (Value.text table).isTrue = true then _ else _ : Recorded Statement).outcome = _
  rw [if_pos hgiven]
  refine bind_outcome_eq_ok.mpr ⟨_, selectSql_pluckColumn hookless htable column, ?_⟩
  rw [Statement.ofSql, htext, hbindings]
  rfl

/-- Every row has a value, and it is given if the row is found to name it like the caller. -/
theorem pluckRows_eq (column name : String) (values : List Value) :
    pluckRows (.text column) (values.map fun value => .dict [(.text name, value)]) =
      .ok (values.map fun value => if Row.Finds column name then value else .null) := by
  rw [pluckRows, Recorded.except_mapM_eq_ok, List.forall₂_map_left_iff, List.forall₂_map_right_iff]
  refine List.forall₂_same.mpr fun value _ => ?_
  exact congrArg Except.ok (Row.valueOf_singleton name column value)

/-- Whatever reference a column is plucked by, its values are given in the order of the rows if the reference
is one bare identifier; otherwise each of them is lost. -/
theorem pluck_result (folds : Bool) {table : String} (htable : table ≠ "") (column : String) :
    ∃ statement,
      (((on (.text table)).pluckColumn (.text column)).toStatement (.snowflake folds none)).outcome =
        .ok statement ∧
      statement.sql = .text ("select " ++ ((Dialect.snowflake folds none).written column).text ++ " from " ++
        ((Dialect.snowflake folds none).written table).text) ∧
      ∀ (values : List Value) (rowCount : Value),
        statement.result
            { rows := values.map fun value =>
                .dict [(.text ((Dialect.snowflake folds none).resultName column), value)]
              rowCount } =
          .ok (.value (.list (if IsBare column then values else values.map fun _ => .null))) := by
  refine ⟨_, toStatement_pluckColumn (hookless_snowflake folds) htable column, rfl, ?_⟩
  intro values rowCount
  have hrows := pluckRows_eq column ((Dialect.snowflake folds none).resultName column) values
  simp only [finds_resultName_iff] at hrows
  rw [Statement.result]
  simp only [hrows]
  by_cases hbare : IsBare column <;> simp [hbare]

theorem pluck_result_quoted_alias :
    "users" ≠ "" ∧ ∃ statement,
      (((on (.text "users")).pluckColumn (.text "id as \"Id\"")).toStatement
        (.snowflake true none)).outcome = .ok statement ∧
      statement.sql = .text ("select " ++
        ((Dialect.snowflake true none).written "id as \"Id\"").text ++ " from " ++
        ((Dialect.snowflake true none).written "users").text) ∧
      ∀ (values : List Value) (rowCount : Value),
        statement.result
            { rows := values.map fun value =>
                .dict [(.text ((Dialect.snowflake true none).resultName "id as \"Id\""), value)]
              rowCount } =
          .ok (.value (.list (if IsBare "id as \"Id\"" then values else values.map fun _ => .null))) :=
  ⟨by decide, pluck_result true (by decide) _⟩

/-- A column that is selected by way of its table is not found again in the rows. -/
theorem pluck_qualified_column_lost :
    (Dialect.snowflake true none).resultName "users.id" = "ID" ∧
      ¬ ∃ statement,
        (((on (.text "users")).pluckColumn (.text "users.id")).toStatement
          (.snowflake true none)).outcome = .ok statement ∧
        statement.result { rows := [.dict [(.text "ID", .int 7)]] } = .ok (.value (.list [.int 7])) := by
  refine ⟨by rw [resultName_eq]; decide, ?_⟩
  rintro ⟨statement, hstatement, hresult⟩
  rw [toStatement_pluckColumn (hookless_snowflake true) (by decide)] at hstatement
  obtain rfl := Except.ok.inj hstatement
  have hlost : pluckRows (.text "users.id") [.dict [(.text "ID", .int 7)]] = .ok [.null] := by rfl
  rw [Statement.result] at hresult
  simp [hlost] at hresult

end Query

end SqlBuilder
