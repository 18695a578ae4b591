import SqlBuilder.Proofs.Dialect.Unquoting
import SqlBuilder.Proofs.Dialect.Written
import SqlBuilder.Schema.Migration

/-!
Queries of the catalog in the dialect that has schemas of its own. Main statement: the table and the schema
that are looked up are those that the reference names when it is written in a statement.
-/

namespace SqlBuilder

open Name Recorded

/-- A reference as it stands: without blanks around it and without an alias. -/
structure Name.IsDotted (reference : String) : Prop where
  trimmed : Text.trim reference.toList = reference.toList
  unaliased : cutAlias? reference.toList = none

theorem Name.IsDotted.parse_eq {reference : String} (h : IsDotted reference) :
    Reference.parse reference.toList = { atoms := splitAtoms false reference.toList, aliasName := none } := by
  simp only [Reference.parse, h.trimmed, h.unaliased]

namespace Schema

/-- A condition on a column of the catalog: that it holds a bound text, or that it holds the name of the
current schema. -/
abbrev CatalogCondition := String × Option String

def CatalogCondition.text : CatalogCondition → String
  | (column, some _) => column ++ " = ?"
  | (column, none) => column ++ " = current_schema()"

/-- All columns of a view of the catalog are selected under these conditions, and their texts are bound in
the order of the placeholders. -/
structure LooksUp (view : String) (conditions : List CatalogCondition) (statement : Statement) : Prop where
  sql : statement.sql = .text ("select * from information_schema." ++ view ++ " where " ++
    String.intercalate " and " (conditions.map CatalogCondition.text))
  bindings : statement.bindings = (conditions.filterMap (·.2)).map .text

/-- The conditions on a table, perhaps on one of its columns, in a schema or in the current one. -/
def catalogConditions (table : String) (column schema : Option String) : List CatalogCondition :=
  ("table_name", some table) :: (column.map fun name => ("column_name", some name)).toList ++
    [("table_schema", schema)]

@[simp] theorem text_equalsValue (condition : String) (value : Value) :
    (equalsValue condition value).text = condition ++ " = ?" := by
  rw [← String.toList_inj]
  simp [equalsValue, Piece.text, Piece.placeholder]

@[simp] theorem bindings_equalsValue (condition : String) (value : Value) :
    (equalsValue condition value).bindings = [value] := rfl

theorem schemaCondition_eq {schema : Option String} (hschema : ∀ name ∈ schema, name ≠ "") :
    schemaCondition schema = schema.elim (Sql.code " and table_schema = current_schema()")
      fun name => equalsValue " and table_schema" (.text name) := by
  cases schema with
  | none => rfl
  | some name => exact if_neg (hschema name rfl)

theorem looksUp_catalogQuery (view table : String) (column : Option String) {schema : Option String}
    (hschema : ∀ name ∈ schema, name ≠ "") (reshape : Reshape) :
    LooksUp view (catalogConditions table column schema)
      (lookUp (catalogQuery view table (column.map .text) schema) reshape) := by
  constructor
  · -- the words between the conditions are taken apart, so that both sides are the same pieces
    have htable : " where table_name" = " where " ++ "table_name" := rfl
    have hcolumn : " and column_name" = " and " ++ "column_name" := rfl
    have hname : " and table_schema" = " and " ++ "table_schema" := rfl
    have hcurrent : " and table_schema = current_schema()" =
        " and " ++ ("table_schema" ++ " = current_schema()") := rfl
    apply congrArg Value.text
    rw [catalogQuery, selectFrom, schemaCondition_eq hschema, htable, hcolumn, hname, hcurrent]
    cases column <;> cases schema <;>
      simp [catalogConditions, CatalogCondition.text, String.intercalate_cons_cons, String.append_assoc]
  · change (catalogQuery view table (column.map .text) schema).bindings = _
    rw [catalogQuery, selectFrom, schemaCondition_eq hschema]
    cases column <;> cases schema <;> simp [catalogConditions]

variable {folds strict : Bool} {context : Value}

/-! ### The names that are looked up -/

theorem catalogName_eq (name : String) :
    catalogName ⟨.snowflake folds none, strict, context⟩ name =
      pure ((Dialect.snowflake folds none).keptText name) := by
  rw [catalogName, Dialect.wrapWith_id (Dialect.hookless_snowflake folds), pure_bind, Dialect.unquote_stored]

theorem catalogValue_text (name : String) :
    catalogValue ⟨.snowflake folds none, strict, context⟩ (.text name) =
      pure (.text ((Dialect.snowflake folds none).keptText name)) := by
  have hwrap : (Dialect.snowflake folds none).wrapValueWith .identity (.text name) context =
      pure (.text (String.ofList ((Dialect.snowflake folds none).stored name.toList))) := by
    rw [Dialect.wrapValueWith, Quoting.identity, Dialect.wrapWith_id (Dialect.hookless_snowflake folds),
      pure_bind]
  rw [catalogValue, hwrap, pure_bind, unquoteValue, Dialect.unquote_stored]
  rfl

theorem wantedColumn_eq (wanted : Option String) :
    wantedColumn ⟨.snowflake folds none, strict, context⟩ (wanted.elim .null .text) =
      pure ((wanted.map (Dialect.snowflake folds none).keptText).elim .null .text) := by
  cases wanted with
  | none => rfl
  | some name => exact catalogValue_text name

/-- The last two atoms are read, whatever stands before them. -/
theorem catalogReference_append_pair {reference schema table : String} {front : List String}
    (h : atoms reference = front ++ [schema, table]) :
    catalogReference ⟨.snowflake folds none, strict, context⟩ (.text reference) =
      pure (some ((Dialect.snowflake folds none).keptText schema), (Dialect.snowflake folds none).keptText table) := by
  have hreverse : (atoms reference).reverse = table :: schema :: front.reverse := by simp [h]
  have heq : catalogReference ⟨.snowflake folds none, strict, context⟩ (.text reference) = do
      let table ← catalogName ⟨.snowflake folds none, strict, context⟩ table
      let schema ← catalogName ⟨.snowflake folds none, strict, context⟩ schema
      return (some schema, table) := by
    have hread : ofExcept (atomsOf (.text reference)) = pure (atoms reference) := rfl
    rw [catalogReference, hread, pure_bind, hreverse]
  rw [heq, catalogName_eq, catalogName_eq, pure_bind, pure_bind]

theorem catalogReference_eq {reference table : String} {schema : Option String}
    (h : atoms reference = schema.toList ++ [table]) :
    catalogReference ⟨.snowflake folds none, strict, context⟩ (.text reference) =
      pure (schema.map (Dialect.snowflake folds none).keptText, (Dialect.snowflake folds none).keptText table) := by
  cases schema with
  | none =>
    have heq : catalogReference ⟨.snowflake folds none, strict, context⟩ (.text reference) = do
        return (none, ← catalogName ⟨.snowflake folds none, strict, context⟩ table) := by
      simp only [catalogReference, atomsOf, h]
      rfl
    rw [heq, catalogName_eq, pure_bind, Option.map_none]
  | some schema =>
    have hpair : atoms reference = [] ++ [schema, table] := h
    exact catalogReference_append_pair hpair

/-- The written reference has the same atoms, as they are kept. -/
theorem unquoted_atoms_written {dialect : Dialect} {reference : String} (h : IsDotted reference) :
    (atoms (dialect.written reference).text).map unquote = (atoms reference).map dialect.keptText := by
  have hsplit : splitAtoms false (dialect.written reference).text.toList =
      (splitAtoms false reference.toList).map dialect.identifierText := by
    rw [Dialect.written, h.parse_eq, Dialect.splitAtoms_referenceSql (areAtoms_splitAtoms _ _) rfl]
  rw [atoms, atoms, hsplit, List.map_map, List.map_map, List.map_map]
  refine List.map_congr_left fun name _ => ?_
  have hname := Dialect.unquote_identifierText dialect (String.ofList name)
  rwa [String.toList_ofList] at hname

/-! ### Looking up -/

/-- The catalog is asked for the table that a statement with this reference names, in the schema that it
names or else in the current one, and for the column that is written for a given name. -/
def LooksUpWritten (target : Target) (reference column : String) (wanted : Option String) : Prop :=
  ∃ written identifier keptSchema keptTable,
    (target.dialect.wrap reference target.context).outcome = .ok written ∧
    (target.dialect.wrapIdentifier column target.context).outcome = .ok identifier ∧
    (Name.atoms written.text).map unquote = keptSchema.toList ++ [keptTable] ∧
    (∃ query, ((Change.hasTable (.text reference)).statements target).outcome = .ok [query] ∧
      LooksUp "tables" (catalogConditions keptTable none keptSchema) query) ∧
    (∃ query, ((Change.hasColumn (.text reference) (.text column)).statements target).outcome =
        .ok [query] ∧
      LooksUp "columns" (catalogConditions keptTable (some (unquote identifier)) keptSchema) query) ∧
    ∃ query, ((Change.columnInfo (.text reference) (wanted.elim .null .text)).statements target).outcome =
        .ok [query] ∧
      LooksUp "columns" (catalogConditions keptTable none keptSchema) query

/-- Whatever one or two atoms a reference has, quoted or not, closed or not, and whether names are folded or
not: it is looked up as it is written. -/
theorem catalog_agrees_with_reference (folds strict : Bool) (context : Value) {reference table : String}
    {schema : Option String} (hdotted : IsDotted reference)
    (hatoms : Name.atoms reference = schema.toList ++ [table])
    (hschema : ∀ name ∈ schema, unquote name ≠ "") (column : String) (wanted : Option String) :
    LooksUpWritten ⟨.snowflake folds none, strict, context⟩ reference column wanted := by
  let target : Target := ⟨.snowflake folds none, strict, context⟩
  let kept := target.dialect.keptText
  have hreference : catalogReference target (.text reference) = pure (schema.map kept, kept table) :=
    catalogReference_eq hatoms
  have hkept : ∀ name ∈ schema.map kept, name ≠ "" := by
    intro name hname
    obtain ⟨given, hgiven, rfl⟩ := Option.map_eq_some_iff.mp hname
    exact Dialect.keptText_ne_empty (hschema given hgiven)
  have hcolumn : (target.dialect.wrapIdentifier column context).outcome =
      .ok (String.ofList (target.dialect.identifierText column.toList)) := by
    have hwrap := Dialect.wrapIdentifier_eq (Dialect.hookless_snowflake folds) column.toList context
    rw [String.ofList_toList] at hwrap
    rw [hwrap]
    rfl
  have hatoms' : (Name.atoms (target.dialect.written reference).text).map unquote =
      (schema.map kept).toList ++ [kept table] := by
    rw [unquoted_atoms_written hdotted, hatoms]
    cases schema <;> rfl
  refine ⟨_, _, schema.map kept, kept table, Dialect.wrap_outcome (Dialect.hookless_snowflake folds) reference,
    hcolumn, hatoms', ⟨_, ?_, looksUp_catalogQuery _ _ none hkept .hasRows⟩,
    ⟨_, ?_, looksUp_catalogQuery _ _ (some _) hkept .hasRows⟩,
    ⟨_, ?_, looksUp_catalogQuery _ _ none hkept (.columns ((wanted.map kept).elim .null .text))⟩⟩
  · simp only [Change.statements, tableQuery, target, hreference, pure_bind, outcome_pure]
    rfl
  · rw [Dialect.unquote_identifierText]
    simp only [Change.statements, columnQuery, target, hreference, catalogValue_text, pure_bind, outcome_pure]
    rfl
  · simp only [Change.statements, columnsQuery, target, hreference, wantedColumn_eq, pure_bind, outcome_pure]
    rfl

theorem catalog_agrees_with_quoted_schema :
    IsDotted "\"my.db\".Orders" ∧ Name.atoms "\"my.db\".Orders" = (some "\"my.db\"").toList ++ ["Orders"] ∧
      (∀ name ∈ some "\"my.db\"", unquote name ≠ "") ∧
      LooksUpWritten { dialect := .snowflake true none } "\"my.db\".Orders" "\"a\"\"b\"" none := by
  have hdotted : IsDotted "\"my.db\".Orders" := ⟨by decide, by decide⟩
  have hatoms : Name.atoms "\"my.db\".Orders" = (some "\"my.db\"").toList ++ ["Orders"] := by decide
  have hschema : ∀ name ∈ some "\"my.db\"", unquote name ≠ "" := by decide
  exact ⟨hdotted, hatoms, hschema,
    catalog_agrees_with_reference true false .null hdotted hatoms hschema "\"a\"\"b\"" none⟩

end Schema

end SqlBuilder
