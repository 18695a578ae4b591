import SqlBuilder.Proofs.Schema.Ingredients

/-!
Placeholders in the statements of migrations. Main statement: whatever texts its names, comments, defaults and
values hold, every statement has as many placeholders as bindings, as long as nothing in it looks quoted
without being so and nothing but integers is written as it was given.
-/

namespace SqlBuilder.Schema

open Placeholder Sql Recorded

/-- The statement is let through to the driver. -/
structure Passes (statement : Statement) : Prop where
  counted : ∃ text, statement.sql = .text text ∧ Placeholder.count text = statement.bindings.length
  checked : Placeholder.check statement.sql statement.bindings = .ok ()

variable {target : Target}

theorem passes_of_bindsAt {sql : Sql} {sites : List Site} {statement : Statement} (h : BindsAt sql sites)
    (hsql : statement.sql = .text sql.text) (hbindings : statement.bindings = sql.bindings) :
    Passes statement := by
  have hbinds := h [] rfl
  have hcount : Placeholder.count sql.text = statement.bindings.length := by
    rw [hbindings, hbinds.bindings, List.length_map]
    exact hbinds.scan.2
  exact ⟨⟨sql.text, hsql, hcount⟩, by rw [hsql]; exact check_text hcount⟩

theorem passes_ofSql {sql : Sql} (h : Quiet sql) : Passes (Statement.ofSql sql .schema) :=
  passes_of_bindsAt h.bindsAt rfl rfl

/-! ### Catalog queries -/

theorem bindsAt_equalsValue {condition : String} (hcondition : condition.toList.all isPlain = true)
    (value : Value) : BindsAt (equalsValue condition value) [.listed "" value] := by
  have hword : (condition ++ " = ").toList.all isPlain = true := isPlain_append hcondition (by decide)
  have hslot : BindsAt [.slot value] [.listed "" value] :=
    fun before hbefore => binds_listed ⟨before, (List.append_nil before).symm, hbefore⟩
  exact (quiet_code hword).bindsAt.append hslot

theorem bindsAt_selectFrom {view : String} (hview : view.toList.all isPlain = true) (table : Value)
    (column : Option Value) : ∃ sites, BindsAt (selectFrom view table column) sites := by
  have hhead : ("select * from information_schema." ++ view ++ " where table_name").toList.all isPlain = true :=
    isPlain_append (isPlain_append (by decide) hview) (by decide)
  cases column with
  | none => exact ⟨_, (bindsAt_equalsValue hhead table).append quiet_nil.bindsAt⟩
  | some column =>
    exact ⟨_, (bindsAt_equalsValue hhead table).append (bindsAt_equalsValue (by decide) column)⟩

theorem bindsAt_schemaCondition (schema : Option String) :
    ∃ sites, BindsAt (schemaCondition schema) sites := by
  have hcurrent : Quiet (code " and table_schema = current_schema()") := quiet_code (by decide)
  cases schema with
  | none => exact ⟨_, hcurrent.bindsAt⟩
  | some schema =>
    rw [schemaCondition]
    split
    · exact ⟨_, hcurrent.bindsAt⟩
    · exact ⟨_, bindsAt_equalsValue (by decide) (.text schema)⟩

theorem passes_catalogQuery {view : String} (hview : view.toList.all isPlain = true) (table : String)
    (column : Option Value) (schema : Option String) (reshape : Reshape) :
    Passes (lookUp (catalogQuery view table column schema) reshape) := by
  obtain ⟨selected, hselected⟩ := bindsAt_selectFrom hview (.text table) column
  obtain ⟨limited, hlimited⟩ := bindsAt_schemaCondition schema
  exact passes_of_bindsAt (hselected.append hlimited) rfl rfl

theorem passes_ansiCatalogQuery {view : String} (hview : view.toList.all isPlain = true) (table : Value)
    (column : Option Value) (reshape : Reshape) :
    Passes (lookUp (ansiCatalogQuery view table column) reshape) := by
  obtain ⟨selected, hselected⟩ := bindsAt_selectFrom hview table column
  have hcurrent : Quiet (code " and table_schema = database()") := quiet_code (by decide)
  exact passes_of_bindsAt (hselected.append hcurrent.bindsAt) rfl rfl

theorem passes_tableQuery {table : Value} {statement : Statement}
    (h : (tableQuery target table).outcome = .ok statement) : Passes statement := by
  obtain ⟨dialect, strict, context⟩ := target
  cases dialect with
  | ansi supportsReturning =>
    obtain rfl := Except.ok.inj h
    exact passes_ansiCatalogQuery (by decide) table none _
  | snowflake folds hook =>
    obtain ⟨⟨schema, name⟩, -, h⟩ := bind_outcome_eq_ok.mp h
    obtain rfl := Except.ok.inj h
    exact passes_catalogQuery (by decide) name none schema _

theorem passes_columnQuery {table column : Value} {statement : Statement}
    (h : (columnQuery target table column).outcome = .ok statement) : Passes statement := by
  obtain ⟨dialect, strict, context⟩ := target
  cases dialect with
  | ansi supportsReturning =>
    obtain rfl := Except.ok.inj h
    exact passes_ansiCatalogQuery (by decide) table (some column) _
  | snowflake folds hook =>
    obtain ⟨⟨schema, name⟩, -, h⟩ := bind_outcome_eq_ok.mp h
    obtain ⟨kept, -, h⟩ := bind_outcome_eq_ok.mp h
    obtain rfl := Except.ok.inj h
    exact passes_catalogQuery (by decide) name (some kept) schema _

theorem passes_columnsQuery {table column : Value} {statement : Statement}
    (h : (columnsQuery target table column).outcome = .ok statement) : Passes statement := by
  obtain ⟨dialect, strict, context⟩ := target
  cases dialect with
  | ansi supportsReturning =>
    obtain rfl := Except.ok.inj h
    exact passes_ansiCatalogQuery (by decide) table none _
  | snowflake folds hook =>
    obtain ⟨⟨schema, name⟩, -, h⟩ := bind_outcome_eq_ok.mp h
    obtain ⟨wanted, -, h⟩ := bind_outcome_eq_ok.mp h
    obtain rfl := Except.ok.inj h
    exact passes_catalogQuery (by decide) name none schema _

/-! ### Migrations -/

/-- Each statement of a table passes whose names keep their quotes and that holds only integers as they were
given. -/
def Table.Passes (target : Target) (table : Table) (output : List Statement) : Prop :=
  List.Forall₂ (fun entry statement => KeepQuotes (entry.names target.dialect table) →
    (∀ value ∈ entry.verbatim target.dialect table, IsIntegral value) → Schema.Passes statement)
    (table.entries target.dialect) output

theorem Table.Passes.forall_mem {table : Table} {output : List Statement} (h : table.Passes target output)
    (hnames : ∀ entry ∈ table.entries target.dialect, KeepQuotes (entry.names target.dialect table))
    (hverbatim : ∀ entry ∈ table.entries target.dialect,
      ∀ value ∈ entry.verbatim target.dialect table, IsIntegral value) :
    ∀ statement ∈ output, Schema.Passes statement := by
  rw [Table.Passes] at h
  generalize table.entries target.dialect = entries at h hnames hverbatim
  induction h with
  | nil => simp
  | cons hfirst _ ih =>
    obtain ⟨hname, hnames⟩ := List.forall_mem_cons.mp hnames
    obtain ⟨hgiven, hverbatim⟩ := List.forall_mem_cons.mp hverbatim
    exact List.forall_mem_cons.mpr ⟨hfirst hname hgiven, ih hnames hverbatim⟩

/-- The names that a change of something else than a table's definition quotes; catalog queries bind theirs. -/
def Change.names : Change → List Value
  | .dropTable name _ => [name]
  | .renameTable old new => [old, new]
  | .createSchema name _ => [name]
  | .dropSchema name _ _ => [name]
  | _ => []

/-- Nothing is said of statements that are given as they are. -/
def Change.Passes (target : Target) (output : List Statement) : Change → Prop
  | .createTable name ifNotExists actions =>
    (({ name, ifNotExists } : Table).declare target.dialect actions).Passes target output
  | .alterTable name actions =>
    (({ name, isAltered := true } : Table).declare target.dialect actions).Passes target output
  | .raw .. => True
  | change => ∃ statement, output = [statement] ∧ (KeepQuotes change.names → Schema.Passes statement)

theorem Table.passes_of_statements (hookless : target.dialect.Hookless) {table : Table}
    {actions : List TableAction} {output : List Statement}
    (h : (tableStatements target table actions).outcome = .ok output) :
    (table.declare target.dialect actions).Passes target output := by
  obtain ⟨sqls, rfl, hwrites⟩ := tableStatements_eq_ok h
  rw [Table.Passes, List.forall₂_map_right_iff]
  exact hwrites.imp fun entry sql hwrites hnames hverbatim =>
    passes_ofSql (hwrites.quiet hookless hnames hverbatim)

theorem Change.passes_of_statements (hookless : target.dialect.Hookless) {change : Change}
    {output : List Statement} (h : (change.statements target).outcome = .ok output) :
    change.Passes target output := by
  cases change with
  | createTable name ifNotExists actions => exact Table.passes_of_statements hookless h
  | alterTable name actions => exact Table.passes_of_statements hookless h
  | raw sql bindings => trivial
  | hasTable name =>
    obtain ⟨query, hquery, h⟩ := bind_outcome_eq_ok.mp h
    exact ⟨query, (Except.ok.inj h).symm, fun _ => passes_tableQuery hquery⟩
  | hasColumn table column =>
    obtain ⟨query, hquery, h⟩ := bind_outcome_eq_ok.mp h
    exact ⟨query, (Except.ok.inj h).symm, fun _ => passes_columnQuery hquery⟩
  | columnInfo table column =>
    obtain ⟨query, hquery, h⟩ := bind_outcome_eq_ok.mp h
    exact ⟨query, (Except.ok.inj h).symm, fun _ => passes_columnsQuery hquery⟩
  | renameTable old new =>
    obtain ⟨oldName, hold, h⟩ := bind_outcome_eq_ok.mp h
    obtain ⟨newName, hnew, h⟩ := bind_outcome_eq_ok.mp h
    refine ⟨_, (Except.ok.inj h).symm, fun hnames => passes_ofSql ?_⟩
    obtain ⟨holdName, hnewName⟩ := keepQuotes_cons.mp hnames
    have holdSql := quiet_wrapValue hookless holdName hold
    have hnewSql := quiet_wrapValue hookless hnewName hnew
    split
    · exact (((quiet_code (by decide)).append holdSql).append (quiet_code (by decide))).append hnewSql
    · exact (((quiet_code (by decide)).append holdSql).append (quiet_code (by decide))).append hnewSql
  | dropTable name ifExists =>
    obtain ⟨sql, hsql, h⟩ := bind_outcome_eq_ok.mp h
    refine ⟨_, (Except.ok.inj h).symm, fun hnames => passes_ofSql ?_⟩
    exact (quiet_codeIf (by decide) (by decide)).append (quiet_wrapValue hookless hnames hsql)
  | createSchema name ifNotExists =>
    obtain ⟨sql, hsql, h⟩ := bind_outcome_eq_ok.mp h
    refine ⟨_, (Except.ok.inj h).symm, fun hnames => passes_ofSql ?_⟩
    exact (quiet_codeIf (by decide) (by decide)).append (quiet_wrapValue hookless hnames hsql)
  | dropSchema name ifExists cascade =>
    obtain ⟨sql, hsql, h⟩ := bind_outcome_eq_ok.mp h
    refine ⟨_, (Except.ok.inj h).symm, fun hnames => passes_ofSql ?_⟩
    exact ((quiet_codeIf (by decide) (by decide)).append (quiet_wrapValue hookless hnames hsql)).append
      (quiet_codeIf (by decide) (by decide))

/-- Whatever calls a migration is made of: if it is compiled, each statement has a binding for each of its
placeholders, unless a name in it looks quoted without being so or something else than an integer is written as
it was given. -/
theorem migration_placeholders {dialect : Dialect} (hookless : dialect.Hookless) (strict : Bool)
    {migration : Migration} {statements : List Statement}
    (h : (migration.statements dialect strict).outcome = .ok statements) :
    let target : Target := ⟨dialect, strict, migration.context⟩
    ∃ outputs, statements = outputs.flatten ∧
      List.Forall₂ (fun change output => (change.statements target).outcome = .ok output ∧
        change.Passes target output) migration.changes outputs := by
  obtain ⟨outputs, hflatten, hall⟩ := Migration.statements_eq_ok h
  exact ⟨outputs, hflatten,
    hall.imp fun change output houtput => ⟨houtput, Change.passes_of_statements hookless houtput⟩⟩

/-- Quotes of both kinds and marks in every place that holds a text. -/
def marked : Migration where
  changes := [.createTable (.text "a?'\"") false [
    .column (.text "it's?") (.enum (.tuple [.text "'?\""])) [.defaultTo (.text "?'"), .collate (.text "\"?")],
    .further (.unique [.text "it's?"] .null),
    .comment (.text "'\"?")]]

def markedTable : Table where
  name := .text "a?'\""
  columns := [{
    name := .text "it's?"
    type := .enum (.tuple [.text "'?\""])
    modifiers := { default := some (.text "?'"), collation := some (.text "\"?") } }]
  changes := [.unique [.text "it's?"] .null]
  comment := some (.text "'\"?")

theorem markedTable_entries : markedTable.entries (.ansi false) =
    [.create, .change (.unique [.text "it's?"] .null)] := by
  rfl

theorem markedTable_keepQuotes : ∀ entry ∈ markedTable.entries (.ansi false),
    KeepQuotes (entry.names (.ansi false) markedTable) := by
  have hkeeps : ∀ name ∈ ["a?'\"_it's?_unique", "a?'\"", "it's?"], Name.KeepsQuotes name :=
    fun name hname => Name.keepsQuotes_of_not_quoted (by revert name; decide)
  have hnames : KeepQuotes [.text "a?'\"_it's?_unique", .text "a?'\"", .text "it's?"] :=
    fun name hname => hkeeps name (by simpa using hname)
  have hcreate : Entry.create.names (.ansi false) markedTable = [.text "a?'\"", .text "it's?"] := by rfl
  have hkey : (Entry.change (.unique [.text "it's?"] .null)).names (.ansi false) markedTable =
      [.text "a?'\"_it's?_unique", .text "a?'\"", .text "it's?"] := by rfl
  rw [markedTable_entries, List.forall_mem_cons, List.forall_mem_singleton, hcreate, hkey]
  exact ⟨(keepQuotes_cons.mp hnames).2, hnames⟩

theorem markedTable_verbatim : ∀ entry ∈ markedTable.entries (.ansi false),
    entry.verbatim (.ansi false) markedTable = [] := by
  rw [markedTable_entries, List.forall_mem_cons, List.forall_mem_singleton]
  exact ⟨by rfl, by rfl⟩

theorem marked_placeholders :
    (Dialect.ansi false).Hookless ∧
    ∃ statements, (marked.statements (.ansi false) false).outcome = .ok statements ∧
      (∀ statement ∈ statements, Passes statement) ∧
      ∃ outputs, statements = outputs.flatten ∧
        List.Forall₂ (fun change output =>
          (change.statements { dialect := .ansi false }).outcome = .ok output ∧
            change.Passes { dialect := .ansi false } output) marked.changes outputs := by
  have hpass : ∀ {statements}, (marked.statements (.ansi false) false).outcome = .ok statements →
      ∀ statement ∈ statements, Passes statement := by
    intro statements h
    obtain ⟨outputs, rfl, hall⟩ := migration_placeholders (Dialect.hookless_ansi false) false h
    obtain ⟨output, rest, ⟨-, houtput⟩, hrest, rfl⟩ := List.forall₂_cons_left_iff.mp hall
    obtain rfl := List.forall₂_nil_left_iff.mp hrest
    have hpasses : markedTable.Passes { dialect := .ansi false } output := houtput
    rw [List.flatten_singleton]
    exact hpasses.forall_mem markedTable_keepQuotes fun entry hentry => by
      simp [markedTable_verbatim entry hentry]
  exact ⟨Dialect.hookless_ansi false, _, rfl, hpass rfl,
    @migration_placeholders (.ansi false) (Dialect.hookless_ansi false) false marked _ rfl⟩

end SqlBuilder.Schema
