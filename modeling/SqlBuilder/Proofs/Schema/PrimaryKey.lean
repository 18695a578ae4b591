import SqlBuilder.Proofs.Dialect.Written
import SqlBuilder.Schema.Migration

/-!
Primary keys over new columns that may hold nulls, in the dialect that refuses them. Main statement: such a
key is withheld exactly if it is recognized by the names as they were given; the names that are written
may be the same when the given ones are not.
-/

namespace SqlBuilder.Schema.Table

open Recorded

variable {folds strict : Bool} {context key : Value} {table : Table} {columns : List String}

/-! ### Columns by name -/

/-- The database takes two names for one column if they are written alike. -/
def SameColumn (target : Target) (name other : Value) : Prop :=
  ∃ sql otherSql, (wrap target name).outcome = .ok sql ∧ (wrap target other).outcome = .ok otherSql ∧
    sql.text = otherSql.text

/-- A new column is listed that is not declared not nullable. -/
def ListsNullable (target : Target) (table : Table) (columns : List Value) : Prop :=
  ∃ name ∈ columns, ∃ column ∈ table.added, SameColumn target name column.name ∧
    column.isNotNullable = false

/-- The column added last under exactly this name. -/
def IsLastNamed (table : Table) (name : Value) (column : Column) : Prop :=
  ∃ earlier later, table.added = earlier ++ column :: later ∧ column.name = name ∧
    ∀ other ∈ later, other.name ≠ name

/-- The same as `ListsNullable` where columns are told apart by the spelling of their names. -/
def ListsNullableAsSpelled (table : Table) (columns : List Value) : Prop :=
  ∃ name ∈ columns, ∃ column, table.IsLastNamed name column ∧ column.isNotNullable = false

theorem addedNamed?_eq_some {name : String} {column : Column} :
    table.addedNamed? (.text name) = some column ↔ table.IsLastNamed (.text name) column := by
  have hname : ∀ c : Column, c.name.equals (.text name) = true ↔ c.name = .text name :=
    fun _ => Value.equals_text_iff
  rw [addedNamed?, List.find?_eq_some_iff_append, hname]
  constructor
  · rintro ⟨heq, later, earlier, hsplit, hlater⟩
    refine ⟨earlier.reverse, later.reverse, ?_, heq, fun other hmem hother => ?_⟩
    · have hadded := congrArg List.reverse hsplit
      simpa using hadded
    · have hnot := hlater other (List.mem_reverse.mp hmem)
      rw [(hname other).mpr hother] at hnot
      cases hnot
  · rintro ⟨earlier, later, hsplit, heq, hlater⟩
    refine ⟨heq, later.reverse, earlier.reverse, by simp [hsplit], fun other hmem => ?_⟩
    have hother := mt (hname other).mp (hlater other (List.mem_reverse.mp hmem))
    simpa using hother

theorem any_addedNamed?_iff {name : String} :
    (table.addedNamed? (.text name)).any (!·.isNotNullable) = true ↔
      ∃ column, table.IsLastNamed (.text name) column ∧ column.isNotNullable = false := by
  simp only [Option.any_eq_true, addedNamed?_eq_some, Bool.not_eq_true']

/-- Texts can be looked for, so the guard comes to an end: it finds a listed column, or there is none to be
found. -/
theorem nullableKey?_texts (table : Table) (columns : List String) :
    (table.nullableKey? (columns.map .text) = .ok none ∧
        ¬ table.ListsNullableAsSpelled (columns.map .text)) ∨
      ∃ name, table.nullableKey? (columns.map .text) = .ok (some name) ∧
        table.ListsNullableAsSpelled (columns.map .text) := by
  induction columns with
  | nil => exact .inl ⟨rfl, by simp [ListsNullableAsSpelled]⟩
  | cons name columns ih =>
    have hstep : table.nullableKey? ((name :: columns).map .text) =
        if (table.addedNamed? (.text name)).any (!·.isNotNullable) then .ok (some (.text name))
        else table.nullableKey? (columns.map .text) := rfl
    have hlisted : table.ListsNullableAsSpelled ((name :: columns).map .text) ↔
        (table.addedNamed? (.text name)).any (!·.isNotNullable) = true ∨
          table.ListsNullableAsSpelled (columns.map .text) := by
      rw [any_addedNamed?_iff]
      exact List.exists_mem_cons_iff ..
    rw [hstep, hlisted]
    split
    · next hany => exact .inr ⟨.text name, rfl, .inl hany⟩
    · next hany =>
      rcases ih with ⟨hnone, hunlisted⟩ | ⟨found, hsome, hfound⟩
      · exact .inl ⟨hnone, fun h => h.elim hany hunlisted⟩
      · exact .inr ⟨found, hsome, .inr hfound⟩

/-! ### The statement of a key -/

/-- Nothing is emitted, and there is one warning; in strict mode an error of the schema takes its place. -/
def Withheld (strict : Bool) (compiled : Recorded (List Sql)) : Prop :=
  if strict then ∃ e, e.kind = .schema ∧ compiled = .fail e
  else compiled = ⟨.ok [], [.logged { level := .warning, message := nullableKeyWarning }]⟩

theorem Withheld.outcome_ne_ok {compiled : Recorded (List Sql)} (h : Withheld strict compiled)
    {sqls : List Sql} (hne : sqls ≠ []) : compiled.outcome ≠ .ok sqls := by
  intro hok
  cases strict with
  | true =>
    obtain ⟨e, -, rfl⟩ := h
    cases hok
  | false =>
    obtain rfl : compiled = _ := h
    exact hne (Except.ok.inj hok).symm

theorem primary_of_none {names : List Value} (h : table.nullableKey? names = .ok none) :
    table.primary ⟨.snowflake folds none, strict, context⟩ names key =
      table.addPrimary ⟨.snowflake folds none, strict, context⟩ names key := by
  simp only [primary, h]
  rfl

theorem withheld_primary_of_some {names : List Value} {name : Value}
    (h : table.nullableKey? names = .ok (some name)) :
    Withheld strict (table.primary ⟨.snowflake folds none, strict, context⟩ names key) := by
  simp only [primary, h]
  cases strict with
  | true => exact ⟨.primaryKeyNullable name.shown, rfl, rfl⟩
  | false => rfl

/-! Names that are no texts make a key fail, and such failures are none of the schema. -/

def NotOfSchema (e : Error) : Prop :=
  e.kind ≠ .schema

theorem notOfSchema_wrongType : NotOfSchema .wrongType := by
  rw [NotOfSchema]
  decide

theorem notOfSchema_noAttribute : NotOfSchema .noAttribute := by
  rw [NotOfSchema]
  decide

theorem failsOnly_toName (value : Value) : FailsOnly NotOfSchema value.toName := by
  cases value with
  | text name => exact failsOnly_ok name
  | bytes bs => exact failsOnly_error notOfSchema_wrongType
  | _ => exact failsOnly_error notOfSchema_noAttribute

theorem failsOnly_wrap (name : Value) :
    FailsOnly NotOfSchema (wrap ⟨.snowflake folds none, strict, context⟩ name).outcome := by
  refine failsOnly_outcome_bind (failsOnly_toName name) fun reference => ?_
  rw [Dialect.wrap_outcome (Dialect.hookless_snowflake folds)]
  exact failsOnly_ok _

theorem failsOnly_columnize (names : List Value) :
    FailsOnly NotOfSchema (columnize ⟨.snowflake folds none, strict, context⟩ names).outcome := by
  have hwrap : ∀ name, FailsOnly NotOfSchema
      (wrap ⟨.snowflake folds none, strict, context⟩ name).outcome := failsOnly_wrap
  refine failsOnly_outcome_bind ?_ fun parts => failsOnly_ok _
  rw [mapM_outcome]
  exact failsOnly_mapM names hwrap

theorem failsOnly_lastAtomOf (reference : Value) : FailsOnly NotOfSchema (Name.lastAtomOf reference) := by
  have hpieces : FailsOnly NotOfSchema (Name.pieces reference) := by
    refine FailsOnly.bind ?_ fun items => failsOnly_mapM items fun piece => ?_
    · rw [Value.toItems]
      cases reference.items? with
      | none => exact failsOnly_error notOfSchema_wrongType
      | some items => exact failsOnly_ok items
    · cases piece.text? with
      | none => exact failsOnly_error notOfSchema_wrongType
      | some text => exact failsOnly_ok text
  refine FailsOnly.bind ?_ fun atoms => failsOnly_ok _
  cases reference with
  | text name => exact failsOnly_ok _
  | _ => exact hpieces.bind fun pieces => failsOnly_ok _

theorem failsOnly_wrapNameOr : FailsOnly NotOfSchema
    (wrapNameOr ⟨.snowflake folds none, strict, context⟩ table.primaryName key).outcome := by
  refine failsOnly_outcome_bind ?_ fun name => failsOnly_wrap name
  rw [outcome_ofExcept, nameOr]
  split
  · exact failsOnly_ok key
  · have hname : FailsOnly NotOfSchema table.primaryName :=
      (failsOnly_lastAtomOf table.name).bind fun _ => failsOnly_ok _
    exact hname.map _

theorem failsOnly_addPrimary (names : List Value) : FailsOnly NotOfSchema
    (table.addPrimary ⟨.snowflake folds none, strict, context⟩ names key).outcome := by
  refine failsOnly_outcome_bind failsOnly_wrapNameOr fun name => ?_
  refine failsOnly_outcome_bind ?_ fun sql => failsOnly_ok _
  refine failsOnly_outcome_bind (failsOnly_wrap table.name) fun tableName => ?_
  exact failsOnly_outcome_bind (failsOnly_columnize names) fun columns => failsOnly_ok _

theorem addPrimary_eq_ok {target : Target} {names : List Value} {sqls : List Sql}
    (h : (table.addPrimary target names key).outcome = .ok sqls) : ∃ sql, sqls = [sql] := by
  obtain ⟨name, -, h⟩ := bind_outcome_eq_ok.mp h
  obtain ⟨sql, -, h⟩ := bind_outcome_eq_ok.mp h
  exact ⟨sql, (Except.ok.inj h).symm⟩

theorem not_withheld_addPrimary (names : List Value) :
    ¬ Withheld strict (table.addPrimary ⟨.snowflake folds none, strict, context⟩ names key) := by
  intro h
  cases strict with
  | true =>
    obtain ⟨e, hkind, hfail⟩ := h
    exact failsOnly_addPrimary names e (congrArg Recorded.outcome hfail) hkind
  | false =>
    obtain ⟨sql, hsql⟩ := addPrimary_eq_ok (congrArg Recorded.outcome h)
    cases hsql

/-- What is asked of a key: a statement comes out only if no nullable new column is listed, and if one is,
the key is withheld. -/
structure Guarded (target : Target) (table : Table) (names : List Value) (key : Value) : Prop where
  emitted : ∀ sqls, (table.changeStatements target (.primary names key)).outcome = .ok sqls → sqls ≠ [] →
    ¬ table.ListsNullable target names
  withheld : table.ListsNullable target names →
    Withheld target.strictPrimaryKeys (table.changeStatements target (.primary names key))

/-- Whatever table the calls have made, new or altered: a key of it is guarded exactly if, when it lists a
nullable new column under any spelling, it also lists one under the very name of a new column, of which the
last of that name is nullable. -/
theorem primary_guarded_iff (folds strict : Bool) (context key : Value) (table : Table)
    (columns : List String) :
    let target : Target := ⟨.snowflake folds none, strict, context⟩
    let names := columns.map Value.text
    table.Guarded target names key ↔
      (table.ListsNullable target names → table.ListsNullableAsSpelled names) := by
  intro target names
  rcases nullableKey?_texts table columns with ⟨hnone, hunspelled⟩ | ⟨name, hsome, hspelled⟩
  · have hprimary : table.changeStatements target (.primary names key) =
        table.addPrimary target names key := primary_of_none hnone
    constructor
    · intro hguarded hlists
      have hwithheld := hguarded.withheld hlists
      rw [hprimary] at hwithheld
      exact absurd hwithheld (not_withheld_addPrimary names)
    · intro h
      have hlists : ¬ table.ListsNullable target names := fun hlists => hunspelled (h hlists)
      exact ⟨fun _ _ _ => hlists, fun h => absurd h hlists⟩
  · have hwithheld : Withheld strict (table.changeStatements target (.primary names key)) :=
      withheld_primary_of_some hsome
    refine iff_of_true ⟨fun sqls hok hne => ?_, fun _ => hwithheld⟩ fun _ => hspelled
    exact absurd hok (hwithheld.outcome_ne_ok hne)

/-- A column and a key that spell one name in small letters and in capitals: both are folded when they are
written, and the key of a nullable column goes out. -/
theorem primary_unguarded_folded :
    let target : Target := { dialect := .snowflake true none }
    let start : Table := { name := .text "t" }
    let actions : List TableAction := [.column (.text "id") (.fixed .integer) [],
      .further (.primary [.text "ID"] .null)]
    (tableStatements target start actions).outcome = .ok [
        { sql := .text "create table \"T\" (\"ID\" int)", method := .schema },
        { sql := .text "alter table \"T\" add constraint \"T_PKEY\" primary key (\"ID\")",
          method := .schema }] ∧
      ∃ table, (start.build target.dialect actions).outcome = .ok table ∧
        TableChange.primary [.text "ID"] .null ∈ table.changes ∧
        ¬ table.Guarded target [.text "ID"] .null := by
  refine ⟨rfl, _, rfl, List.mem_singleton.mpr rfl, fun hguarded => ?_⟩
  refine hguarded.emitted _ rfl (List.cons_ne_nil _ _) ?_
  exact ⟨.text "ID", List.mem_singleton.mpr rfl, _, List.mem_singleton.mpr rfl, ⟨_, _, rfl, rfl, rfl⟩, rfl⟩

end SqlBuilder.Schema.Table
