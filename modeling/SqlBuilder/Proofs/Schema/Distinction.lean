import SqlBuilder.Proofs.Schema.Catalog

/-!
Which tables the catalog tells apart. Main statement: two references are looked up by the same query exactly
if their last names agree and so do the names before these. What stands further in front, such as the name of
a database, is not asked for.
-/

namespace SqlBuilder.Schema

open Name Recorded

/-- The names that SQL for a table has in it. -/
def namesOf (written : Sql) : List String :=
  (Name.atoms written.text).map unquote

/-- What is asked for of the names of a table: the last one and the one before it, which may be empty as well
as missing. -/
def lookedUp (names : List String) : String × String :=
  (names.getLast?.getD "", names.dropLast.getLast?.getD "")

theorem lookedUp_singleton (table : String) : lookedUp [table] = (table, "") := rfl

theorem lookedUp_append_pair (names : List String) (schema table : String) :
    lookedUp (names ++ [schema, table]) = (table, schema) := by
  have hsplit : names ++ [schema, table] = (names ++ [schema]) ++ [table] := by simp
  rw [lookedUp, hsplit, List.getLast?_concat, List.dropLast_concat, List.getLast?_concat]
  rfl

/-! ### Queries by what is asked for -/

/-- An empty name of a schema counts as none. -/
theorem schemaCondition_eq_ite (schema : Option String) :
    schemaCondition schema =
      if schema.getD "" = "" then Sql.code " and table_schema = current_schema()"
      else equalsValue " and table_schema" (.text (schema.getD "")) := by
  cases schema <;> rfl

theorem bindings_catalogQuery (view table : String) (schema : Option String) :
    (catalogQuery view table none schema).bindings =
      .text table :: if schema.getD "" = "" then [] else [.text (schema.getD "")] := by
  have hcondition : (schemaCondition schema).bindings =
      if schema.getD "" = "" then [] else [.text (schema.getD "")] := by
    rw [schemaCondition_eq_ite]
    split <;> rfl
  rw [catalogQuery, Sql.bindings_append, hcondition]
  rfl

/-- The statement asks a view of the catalog for a table in a schema. -/
def AsksFor (view : String) (names : String × String) (statement : Statement) : Prop :=
  ∃ schema reshape, statement = lookUp (catalogQuery view names.1 none schema) reshape ∧
    schema.getD "" = names.2

/-- What is bound tells what is asked for, and what is asked for decides all of the query. -/
theorem AsksFor.same_iff {view : String} {names names' : String × String} {statement statement' : Statement}
    (h : AsksFor view names statement) (h' : AsksFor view names' statement') :
    (statement.sql = statement'.sql ∧ statement.bindings = statement'.bindings) ↔ names = names' := by
  obtain ⟨schema, reshape, rfl, hschema⟩ := h
  obtain ⟨schema', reshape', rfl, hschema'⟩ := h'
  constructor
  · rintro ⟨-, hbindings⟩
    change (catalogQuery view names.1 none schema).bindings = (catalogQuery view names'.1 none schema').bindings
      at hbindings
    rw [bindings_catalogQuery, bindings_catalogQuery, hschema, hschema'] at hbindings
    obtain ⟨htable, hrest⟩ := List.cons.inj hbindings
    have hsame : names.2 = names'.2 := by
      by_cases hempty : names.2 = "" <;> by_cases hempty' : names'.2 = "" <;> simp_all
    exact Prod.ext (Value.text.inj htable) hsame
  · rintro rfl
    have hcondition : schemaCondition schema = schemaCondition schema' := by
      rw [schemaCondition_eq_ite, schemaCondition_eq_ite schema', hschema, hschema']
    have hquery : catalogQuery view names.1 none schema = catalogQuery view names.1 none schema' := by
      rw [catalogQuery, catalogQuery, hcondition]
    rw [hquery]
    exact ⟨rfl, rfl⟩

/-- However many atoms a reference has, the last two of them are looked up. -/
theorem catalogReference_lookedUp (folds strict : Bool) (context : Value) (reference : String) :
    ∃ schema table, catalogReference ⟨.snowflake folds none, strict, context⟩ (.text reference) =
        pure (schema, table) ∧
      lookedUp ((atoms reference).map (Dialect.snowflake folds none).keptText) = (table, schema.getD "") := by
  have hne : atoms reference ≠ [] := fun hnil => splitAtoms_ne_nil _ _ (List.map_eq_nil_iff.mp hnil)
  obtain ⟨front, table, hfront⟩ := (List.eq_nil_or_concat (atoms reference)).resolve_left hne
  rcases List.eq_nil_or_concat front with hnil | ⟨front', schema, hfront'⟩
  · have hatoms : atoms reference = [table] := by simp [hfront, hnil]
    have hwritten : atoms reference = (none : Option String).toList ++ [table] := hatoms
    refine ⟨none, _, catalogReference_eq hwritten, ?_⟩
    rw [hatoms, List.map_singleton, lookedUp_singleton]
    rfl
  · have hatoms : atoms reference = front' ++ [schema, table] := by simp [hfront, hfront']
    refine ⟨some _, _, catalogReference_append_pair hatoms, ?_⟩
    rw [hatoms, List.map_append, List.map_cons, List.map_singleton, lookedUp_append_pair]
    rfl

theorem hasTable_asksFor (folds strict : Bool) (context : Value) (reference : String) :
    ∃ query, ((Change.hasTable (.text reference)).statements
        ⟨.snowflake folds none, strict, context⟩).outcome = .ok [query] ∧
      AsksFor "tables" (lookedUp ((atoms reference).map (Dialect.snowflake folds none).keptText)) query := by
  obtain ⟨schema, table, hreference, hnames⟩ := catalogReference_lookedUp folds strict context reference
  refine ⟨lookUp (catalogQuery "tables" table none schema) .hasRows, ?_, ?_⟩
  · simp only [Change.statements, tableQuery, hreference, pure_bind, outcome_pure]
  · rw [hnames]
    exact ⟨schema, _, rfl, rfl⟩

theorem columnInfo_asksFor (folds strict : Bool) (context : Value) (reference : String)
    (wanted : Option String) :
    ∃ query, ((Change.columnInfo (.text reference) (wanted.elim .null .text)).statements
        ⟨.snowflake folds none, strict, context⟩).outcome = .ok [query] ∧
      AsksFor "columns" (lookedUp ((atoms reference).map (Dialect.snowflake folds none).keptText)) query := by
  obtain ⟨schema, table, hreference, hnames⟩ := catalogReference_lookedUp folds strict context reference
  refine ⟨lookUp (catalogQuery "columns" table none schema)
    (.columns ((wanted.map (Dialect.snowflake folds none).keptText).elim .null .text)), ?_, ?_⟩
  · simp only [Change.statements, columnsQuery, hreference, wantedColumn_eq, pure_bind, outcome_pure]
  · rw [hnames]
    exact ⟨schema, _, rfl, rfl⟩

/-! ### Two references -/

/-- Each of the two changes is made by one statement, and the two are the same with the same values bound
exactly under this condition. -/
def CoincideIff (target : Target) (change change' : Change) (condition : Prop) : Prop :=
  ∃ query query', (change.statements target).outcome = .ok [query] ∧
    (change'.statements target).outcome = .ok [query'] ∧
    ((query.sql = query'.sql ∧ query.bindings = query'.bindings) ↔ condition)

/-- Two tables are asked for by the same query, whatever columns of them are wanted, exactly if their names
agree in the last one and in the one before it. -/
theorem lookUps_coincide_iff (folds strict : Bool) (context : Value) {reference reference' : String}
    (hdotted : IsDotted reference) (hdotted' : IsDotted reference') (wanted wanted' : Option String) :
    let target : Target := ⟨.snowflake folds none, strict, context⟩
    ∃ written written', (target.dialect.wrap reference context).outcome = .ok written ∧
      (target.dialect.wrap reference' context).outcome = .ok written' ∧
      CoincideIff target (.hasTable (.text reference)) (.hasTable (.text reference'))
        (lookedUp (namesOf written) = lookedUp (namesOf written')) ∧
      CoincideIff target (.columnInfo (.text reference) (wanted.elim .null .text))
        (.columnInfo (.text reference') (wanted'.elim .null .text))
        (lookedUp (namesOf written) = lookedUp (namesOf written')) := by
  intro target
  have hookless : target.dialect.Hookless := Dialect.hookless_snowflake folds
  refine ⟨_, _, Dialect.wrap_outcome hookless reference, Dialect.wrap_outcome hookless reference', ?_, ?_⟩
  all_goals rw [namesOf, namesOf, unquoted_atoms_written hdotted, unquoted_atoms_written hdotted']
  · obtain ⟨query, hquery, hasks⟩ := hasTable_asksFor folds strict context reference
    obtain ⟨query', hquery', hasks'⟩ := hasTable_asksFor folds strict context reference'
    exact ⟨query, query', hquery, hquery', hasks.same_iff hasks'⟩
  · obtain ⟨query, hquery, hasks⟩ := columnInfo_asksFor folds strict context reference wanted
    obtain ⟨query', hquery', hasks'⟩ := columnInfo_asksFor folds strict context reference' wanted'
    exact ⟨query, query', hquery, hquery', hasks.same_iff hasks'⟩

theorem lookUps_coincide_quoted_database :
    let target : Target := { dialect := .snowflake true none }
    IsDotted "\"my.db\".public.Orders" ∧ IsDotted "orders" ∧
      ∃ written written', (target.dialect.wrap "\"my.db\".public.Orders" .null).outcome = .ok written ∧
        (target.dialect.wrap "orders" .null).outcome = .ok written' ∧
        CoincideIff target (.hasTable (.text "\"my.db\".public.Orders")) (.hasTable (.text "orders"))
          (lookedUp (namesOf written) = lookedUp (namesOf written')) ∧
        CoincideIff target (.columnInfo (.text "\"my.db\".public.Orders") (.text "id"))
          (.columnInfo (.text "orders") .null) (lookedUp (namesOf written) = lookedUp (namesOf written')) := by
  have hdotted : IsDotted "\"my.db\".public.Orders" := ⟨by decide, by decide⟩
  have hdotted' : IsDotted "orders" := ⟨by decide, by decide⟩
  exact ⟨hdotted, hdotted', lookUps_coincide_iff true false .null hdotted hdotted' (some "id") none⟩

/-- Two tables of different databases are asked for by one and the same query. -/
theorem database_not_looked_up :
    let target : Target := { dialect := .snowflake true none }
    IsDotted "live.public.orders" ∧ IsDotted "test.public.orders" ∧
      ∃ written written' query, (target.dialect.wrap "live.public.orders" .null).outcome = .ok written ∧
        (target.dialect.wrap "test.public.orders" .null).outcome = .ok written' ∧
        namesOf written = ["LIVE", "PUBLIC", "ORDERS"] ∧ namesOf written' = ["TEST", "PUBLIC", "ORDERS"] ∧
        ((Change.hasTable (.text "live.public.orders")).statements target).outcome = .ok [query] ∧
        ((Change.hasTable (.text "test.public.orders")).statements target).outcome = .ok [query] := by
  have hdotted : IsDotted "live.public.orders" := ⟨by decide, by decide⟩
  have hdotted' : IsDotted "test.public.orders" := ⟨by decide, by decide⟩
  have hookless := Dialect.hookless_snowflake true
  refine ⟨hdotted, hdotted', _, _, lookUp (catalogQuery "tables" "ORDERS" none (some "PUBLIC")) .hasRows,
    Dialect.wrap_outcome hookless _, Dialect.wrap_outcome hookless _, ?_, ?_, ?_, ?_⟩
  · rw [namesOf, unquoted_atoms_written hdotted]
    decide
  · rw [namesOf, unquoted_atoms_written hdotted']
    decide
  · rfl
  · rfl

end SqlBuilder.Schema
