import SqlBuilder.Proofs.Schema.Building
import SqlBuilder.Proofs.Schema.PrimaryKey

/-!
The statements of a table. Main statement: a table is compiled to exactly one statement for each entry of a
list that is read off its columns, its comment and its further changes.
-/

namespace SqlBuilder.Schema

open Recorded

/-- What a statement of a table is there for. -/
inductive Entry where
  /-- The table with all its new columns. -/
  | create
  /-- All new columns of a table that exists already. -/
  | add
  | setType (column : Column)
  | setNullability (column : Column) (nullable : Bool)
  | tableComment (comment : Value)
  | columnComment (column : Column) (comment : Value)
  | change (change : TableChange)

/-! ### Which statements there are -/

/-- Snowflake keeps the comments of columns apart. -/
def Column.commentEntries (dialect : Dialect) (column : Column) : List Entry :=
  match dialect with
  | .ansi _ => []
  | .snowflake .. => (column.modifiers.comment.map (Entry.columnComment column)).toList

def Column.alterEntries (dialect : Dialect) (column : Column) : List Entry :=
  match dialect with
  | .ansi _ => [.setType column]
  | .snowflake .. =>
    .setType column :: (column.modifiers.nullable.map (Entry.setNullability column)).toList

namespace Table

/-- The key lists a new column of its very name that may hold nulls. -/
def rejectsKey (table : Table) (columns : List Value) : Bool :=
  columns.any fun name => (table.addedNamed? name).any (!·.isNotNullable)

/-- Snowflake has no indexes and refuses such keys. -/
def emits (dialect : Dialect) (table : Table) (change : TableChange) : Bool :=
  match dialect, change with
  | .snowflake .., .index .. => false
  | .snowflake .., .dropIndex .. => false
  | .snowflake .., .primary columns _ => !table.rejectsKey columns
  | _, _ => true

def commentEntries (table : Table) : List Entry :=
  (table.comment.map Entry.tableComment).toList

/-- A table is created with its comment, or on Snowflake it follows. -/
def createEntries (dialect : Dialect) (table : Table) : List Entry :=
  .create :: (match dialect with
    | .ansi _ => []
    | .snowflake .. => table.commentEntries) ++
  table.added.flatMap (Column.commentEntries dialect)

def addEntries (table : Table) : List Entry :=
  if table.added.isEmpty then [] else [.add]

def alterEntries (dialect : Dialect) (table : Table) : List Entry :=
  table.addEntries ++ table.altered.flatMap (Column.alterEntries dialect) ++ table.commentEntries ++
    table.added.flatMap (Column.commentEntries dialect) ++
    table.altered.flatMap (Column.commentEntries dialect)

def changeEntries (dialect : Dialect) (table : Table) : List Entry :=
  (table.changes.filter (table.emits dialect)).map Entry.change

def entries (dialect : Dialect) (table : Table) : List Entry :=
  (if table.isAltered then table.alterEntries dialect else table.createEntries dialect) ++
    table.changeEntries dialect

end Table

/-! ### What is written for each of them -/

def Column.IsDefinedBy (target : Target) (table : Table) (column : Column) (definition : Sql) : Prop :=
  ∃ later, (column.definition target.dialect target.context table.name).outcome = .ok (definition, later)

/-- What ends the statement that creates a table: its comment, or on Snowflake its parent. -/
def Table.createTail (target : Target) (table : Table) : Recorded Sql :=
  match target.dialect with
  | .ansi _ => Recorded.ofExcept table.commentClause
  | .snowflake .. => table.parentSql target

def typeWord : Dialect → String
  | .ansi _ => " type "
  | .snowflake .. => " set data type "

inductive Entry.Writes (target : Target) (table : Table) : Entry → Sql → Prop
  | create {name tail : Sql} {definitions : List Sql} :
      (table.nameSql target).outcome = .ok name →
      List.Forall₂ (Column.IsDefinedBy target table) table.added definitions →
      (table.createTail target).outcome = .ok tail →
      Writes target table .create
        (table.createHead ++ name ++ Sql.code " (" ++ Sql.separated ", " definitions ++ Sql.code ")" ++ tail)
  | add {name : Sql} {definitions : List Sql} :
      (table.nameSql target).outcome = .ok name →
      List.Forall₂ (Column.IsDefinedBy target table) table.added definitions →
      Writes target table .add
        (Sql.code "alter table " ++ name ++ Sql.code " " ++
          Sql.separated ", " (definitions.map fun definition => Sql.code "add " ++ definition))
  | setType {column : Column} {name columnName type : Sql} :
      (table.nameSql target).outcome = .ok name →
      (column.wrappedName target.dialect target.context).outcome = .ok columnName →
      (column.typeSql target.dialect).outcome = .ok type →
      Writes target table (.setType column)
        (Sql.code "alter table " ++ name ++ Sql.code " alter column " ++ columnName ++
          Sql.code (typeWord target.dialect) ++ type)
  | setNullability {column : Column} {nullable : Bool} {name columnName : Sql} :
      (table.nameSql target).outcome = .ok name →
      (column.wrappedName target.dialect target.context).outcome = .ok columnName →
      Writes target table (.setNullability column nullable)
        (Sql.code "alter table " ++ name ++ Sql.code " alter column " ++ columnName ++
          Sql.code (if nullable then " drop not null" else " set not null"))
  | tableComment {comment : Value} {sql : Sql} :
      (table.commentStatement target comment).outcome = .ok sql →
      Writes target table (.tableComment comment) sql
  | columnComment {column : Column} {comment : Value} {sql : Sql} :
      (column.commentStatement target.dialect target.context table.name comment).outcome = .ok sql →
      Writes target table (.columnComment column comment) sql
  | change {change : TableChange} {sql : Sql} :
      (table.changeStatements target change).outcome = .ok [sql] →
      Writes target table (.change change) sql

/-! ### Columns -/

variable {target : Target} {table : Table}

/-- A warning that may be given first does not change the outcome. -/
theorem outcome_warn_if {α : Type} (condition : Prop) [Decidable condition] (message : String)
    (next : Unit → Recorded α) :
    (if condition then warn message >>= next else next ()).outcome = (next ()).outcome := by
  split
  · rfl
  · rfl

/-- The parts of a definition: name and type, then the modifiers in a fixed order. -/
theorem Column.IsDefinedBy.exists_parts {column : Column} {definition : Sql}
    (h : column.IsDefinedBy target table definition) :
    ∃ name type unsigned comment later,
      (column.wrappedName target.dialect target.context).outcome = .ok name ∧
      (column.typeSql target.dialect).outcome = .ok type ∧
      (column.unsignedSql target.dialect).outcome = .ok unsigned ∧
      (column.commentSql target.dialect target.context table.name).outcome = .ok (comment, later) ∧
      definition = Sql.separated " " ([name, type] ++
        (unsigned ++ column.nullableSql ++ column.defaultSql ++ column.collationSql ++ comment)) := by
  obtain ⟨later, h⟩ := h
  obtain ⟨name, hname, h⟩ := bind_outcome_eq_ok.mp h
  obtain ⟨type, htype, h⟩ := bind_outcome_eq_ok.mp h
  obtain ⟨unsigned, hunsigned, h⟩ := bind_outcome_eq_ok.mp h
  obtain ⟨⟨comment, later'⟩, hcomment, h⟩ := bind_outcome_eq_ok.mp h
  obtain ⟨rfl, -⟩ := Prod.mk.inj (Except.ok.inj h)
  exact ⟨name, type, unsigned, comment, later', hname, htype, hunsigned, hcomment, rfl⟩

theorem Column.writes_commentSql {column : Column} {written later : List Sql}
    (h : (column.commentSql target.dialect target.context table.name).outcome = .ok (written, later)) :
    List.Forall₂ (Entry.Writes target table) (column.commentEntries target.dialect) later := by
  obtain ⟨dialect, strict, context⟩ := target
  cases hcomment : column.modifiers.comment with
  | none =>
    simp only [commentSql, hcomment] at h
    obtain ⟨-, rfl⟩ := Prod.mk.inj (Except.ok.inj h)
    cases dialect <;> simp [commentEntries, hcomment]
  | some comment =>
    cases dialect with
    | ansi supportsReturning =>
      simp only [commentSql, hcomment] at h
      obtain ⟨-, rfl⟩ := Prod.mk.inj (Except.ok.inj h)
      exact .nil
    | snowflake folds hook =>
      simp only [commentSql, hcomment] at h
      obtain ⟨sql, hsql, h⟩ := bind_outcome_eq_ok.mp h
      obtain ⟨-, rfl⟩ := Prod.mk.inj (Except.ok.inj h)
      simp only [commentEntries, hcomment]
      exact .cons (.columnComment hsql) .nil

theorem Column.writes_definition {column : Column} {result : Sql × List Sql}
    (h : (column.definition target.dialect target.context table.name).outcome = .ok result) :
    List.Forall₂ (Entry.Writes target table) (column.commentEntries target.dialect) result.2 := by
  obtain ⟨name, -, h⟩ := bind_outcome_eq_ok.mp h
  obtain ⟨type, -, h⟩ := bind_outcome_eq_ok.mp h
  obtain ⟨unsigned, -, h⟩ := bind_outcome_eq_ok.mp h
  obtain ⟨⟨comment, later⟩, hcomment, h⟩ := bind_outcome_eq_ok.mp h
  obtain rfl := Except.ok.inj h
  exact writes_commentSql hcomment

namespace Table

theorem writes_definitions {columns : List Column} {definitions later : List Sql}
    (h : (table.definitions target columns).outcome = .ok (definitions, later)) :
    List.Forall₂ (Column.IsDefinedBy target table) columns definitions ∧
      List.Forall₂ (Entry.Writes target table)
        (columns.flatMap (Column.commentEntries target.dialect)) later := by
  obtain ⟨results, hresults, h⟩ := bind_outcome_eq_ok.mp h
  obtain ⟨rfl, rfl⟩ := Prod.mk.inj (Except.ok.inj h)
  have hall := mapM_outcome_eq_ok.mp hresults
  refine ⟨?_, List.rel_flatMap hall fun column result hresult => Column.writes_definition hresult⟩
  rw [List.forall₂_map_right_iff]
  exact hall.imp fun column result hresult => ⟨result.2, hresult⟩

theorem writes_comment {sqls : List Sql} (h : (table.commentStatements target).outcome = .ok sqls) :
    List.Forall₂ (Entry.Writes target table) table.commentEntries sqls := by
  rw [commentStatements] at h
  rw [commentEntries]
  split at h
  · next hcomment =>
    obtain rfl := Except.ok.inj h
    rw [hcomment]
    exact .nil
  · next comment hcomment =>
    obtain ⟨sql, hsql, h⟩ := bind_outcome_eq_ok.mp h
    obtain rfl := Except.ok.inj h
    rw [hcomment]
    exact .cons (.tableComment hsql) .nil

theorem writes_ansiCreate {supportsReturning strict : Bool} {context : Value} {definitions sqls : List Sql}
    (hdefinitions : List.Forall₂ (Column.IsDefinedBy ⟨.ansi supportsReturning, strict, context⟩ table)
      table.added definitions)
    (h : (table.ansiCreate ⟨.ansi supportsReturning, strict, context⟩ definitions).outcome = .ok sqls) :
    List.Forall₂ (Entry.Writes ⟨.ansi supportsReturning, strict, context⟩ table) [.create] sqls := by
  obtain ⟨name, hname, h⟩ := bind_outcome_eq_ok.mp h
  obtain ⟨comment, hcomment, h⟩ := bind_outcome_eq_ok.mp ((outcome_warn_if _ _ _).symm.trans h)
  obtain rfl := Except.ok.inj h
  exact .cons (.create hname hdefinitions hcomment) .nil

theorem writes_snowflakeCreate {folds strict : Bool} {hook : Option Hook} {context : Value}
    {definitions sqls : List Sql}
    (hdefinitions : List.Forall₂ (Column.IsDefinedBy ⟨.snowflake folds hook, strict, context⟩ table)
      table.added definitions)
    (h : (table.snowflakeCreate ⟨.snowflake folds hook, strict, context⟩ definitions).outcome = .ok sqls) :
    List.Forall₂ (Entry.Writes ⟨.snowflake folds hook, strict, context⟩ table)
      (.create :: table.commentEntries) sqls := by
  obtain ⟨name, hname, h⟩ := bind_outcome_eq_ok.mp h
  obtain ⟨parent, hparent, h⟩ := bind_outcome_eq_ok.mp h
  obtain ⟨comment, hcomment, h⟩ := bind_outcome_eq_ok.mp h
  obtain rfl := Except.ok.inj h
  exact .cons (.create hname hdefinitions hparent) (writes_comment hcomment)

theorem writes_create {sqls : List Sql} (h : (table.createStatements target).outcome = .ok sqls) :
    List.Forall₂ (Entry.Writes target table) (table.createEntries target.dialect) sqls := by
  obtain ⟨⟨definitions, later⟩, hdefinitions, h⟩ := bind_outcome_eq_ok.mp h
  obtain ⟨hdefined, hlater⟩ := writes_definitions hdefinitions
  obtain ⟨dialect, strict, context⟩ := target
  cases dialect with
  | ansi supportsReturning =>
    obtain ⟨statements, hstatements, h⟩ := bind_outcome_eq_ok.mp h
    obtain rfl := Except.ok.inj h
    exact List.rel_append (writes_ansiCreate hdefined hstatements) hlater
  | snowflake folds hook =>
    obtain ⟨statements, hstatements, h⟩ := bind_outcome_eq_ok.mp h
    obtain rfl := Except.ok.inj h
    exact List.rel_append (writes_snowflakeCreate hdefined hstatements) hlater

theorem writes_add {additions later : List Sql}
    (h : (table.addStatements target).outcome = .ok (additions, later)) :
    List.Forall₂ (Entry.Writes target table) table.addEntries additions ∧
      List.Forall₂ (Entry.Writes target table)
        (table.added.flatMap (Column.commentEntries target.dialect)) later := by
  rw [addStatements] at h
  rw [addEntries]
  split at h
  · next hnone =>
    obtain ⟨rfl, rfl⟩ := Prod.mk.inj (Except.ok.inj h)
    rw [if_pos hnone, List.isEmpty_iff.mp hnone]
    exact ⟨.nil, .nil⟩
  · next hsome =>
    obtain ⟨⟨definitions, later⟩, hdefinitions, h⟩ := bind_outcome_eq_ok.mp h
    obtain ⟨name, hname, h⟩ := bind_outcome_eq_ok.mp h
    obtain ⟨rfl, rfl⟩ := Prod.mk.inj (Except.ok.inj h)
    obtain ⟨hdefined, hlater⟩ := writes_definitions hdefinitions
    rw [if_neg hsome]
    exact ⟨.cons (.add hname hdefined) .nil, hlater⟩

/-- A column that stays nullable or not as it was has no statement for that. -/
theorem writes_nullability {column : Column} {name columnName : Sql}
    (hname : (table.nameSql target).outcome = .ok name)
    (hcolumn : (column.wrappedName target.dialect target.context).outcome = .ok columnName) :
    List.Forall₂ (Entry.Writes target table)
      (column.modifiers.nullable.map (Entry.setNullability column)).toList
      (nullabilityChange (Sql.code "alter table " ++ name ++ Sql.code " alter column " ++ columnName) column) := by
  rw [nullabilityChange]
  match column.modifiers.nullable with
  | none => exact .nil
  | some true => exact .cons (.setNullability hname hcolumn) .nil
  | some false => exact .cons (.setNullability hname hcolumn) .nil

theorem writes_alterColumn {column : Column} {result : List Sql × List Sql}
    (h : (table.alterColumn target column).outcome = .ok result) :
    List.Forall₂ (Entry.Writes target table) (column.alterEntries target.dialect) result.1 ∧
      List.Forall₂ (Entry.Writes target table) (column.commentEntries target.dialect) result.2 := by
  obtain ⟨dialect, strict, context⟩ := target
  cases dialect with
  | ansi supportsReturning =>
    obtain ⟨name, hname, h⟩ := bind_outcome_eq_ok.mp h
    obtain ⟨columnName, hcolumn, h⟩ := bind_outcome_eq_ok.mp h
    obtain ⟨type, htype, h⟩ := bind_outcome_eq_ok.mp h
    obtain rfl := Except.ok.inj h
    exact ⟨.cons (.setType hname hcolumn htype) .nil, .nil⟩
  | snowflake folds hook =>
    obtain ⟨columnName, hcolumn, h⟩ := bind_outcome_eq_ok.mp h
    obtain ⟨name, hname, h⟩ := bind_outcome_eq_ok.mp h
    obtain ⟨type, htype, h⟩ := bind_outcome_eq_ok.mp h
    obtain ⟨⟨written, later⟩, hcomment, h⟩ := bind_outcome_eq_ok.mp ((outcome_warn_if _ _ _).symm.trans h)
    obtain rfl := Except.ok.inj h
    exact ⟨.cons (.setType hname hcolumn htype) (writes_nullability hname hcolumn),
      Column.writes_commentSql hcomment⟩

theorem writes_alter {sqls : List Sql} (h : (table.alterStatements target).outcome = .ok sqls) :
    List.Forall₂ (Entry.Writes target table) (table.alterEntries target.dialect) sqls := by
  obtain ⟨⟨additions, later⟩, hadd, h⟩ := bind_outcome_eq_ok.mp h
  obtain ⟨results, hresults, h⟩ := bind_outcome_eq_ok.mp h
  obtain ⟨comment, hcomment, h⟩ := bind_outcome_eq_ok.mp h
  obtain rfl := Except.ok.inj h
  obtain ⟨hadditions, hlater⟩ := writes_add hadd
  have hall := mapM_outcome_eq_ok.mp hresults
  have haltered := List.rel_flatMap hall fun column result hresult => (writes_alterColumn hresult).1
  have hcomments := List.rel_flatMap hall fun column result hresult => (writes_alterColumn hresult).2
  exact List.rel_append (List.rel_append (List.rel_append (List.rel_append hadditions haltered)
    (writes_comment hcomment)) hlater) hcomments

/-! ### Further changes -/

theorem isSome_of_nullableKey? {columns : List Value} {found : Option Value}
    (h : table.nullableKey? columns = .ok found) : found.isSome = table.rejectsKey columns := by
  induction columns with
  | nil =>
    obtain rfl := Except.ok.inj h
    rfl
  | cons name columns ih =>
    have hcons : table.rejectsKey (name :: columns) =
        ((table.addedNamed? name).any (!·.isNotNullable) || table.rejectsKey columns) := rfl
    rw [nullableKey?] at h
    split at h
    · cases h
    · split at h
      · next hnullable =>
        obtain rfl := Except.ok.inj h
        rw [hcons, hnullable]
        rfl
      · next hnullable =>
        rw [hcons, ih h]
        simp [hnullable]

/-- A key that is not rejected has one statement, and a rejected one none. -/
theorem primary_eq_ok {columns : List Value} {key : Value} {sqls : List Sql}
    (h : (table.primary target columns key).outcome = .ok sqls) :
    if table.emits target.dialect (.primary columns key) then ∃ sql, sqls = [sql] else sqls = [] := by
  obtain ⟨dialect, strict, context⟩ := target
  cases dialect with
  | ansi supportsReturning => exact addPrimary_eq_ok h
  | snowflake folds hook =>
    obtain ⟨found, hfound, h⟩ := bind_outcome_eq_ok.mp h
    have hsome := isSome_of_nullableKey? hfound
    cases found with
    | none =>
      simp only [emits, ← hsome, Option.isSome_none, Bool.not_false, if_true]
      exact addPrimary_eq_ok h
    | some column =>
      simp only [emits, ← hsome, Option.isSome_some, Bool.not_true]
      cases strict with
      | true => cases h
      | false => exact (Except.ok.inj h).symm

theorem changeStatements_eq_ok {change : TableChange} {sqls : List Sql}
    (h : (table.changeStatements target change).outcome = .ok sqls) :
    if table.emits target.dialect change then ∃ sql, sqls = [sql] else sqls = [] := by
  obtain ⟨dialect, strict, context⟩ := target
  cases change with
  | primary columns key => exact primary_eq_ok h
  | dropPrimary key =>
    cases dialect with
    | ansi supportsReturning =>
      obtain ⟨name, -, h⟩ := bind_outcome_eq_ok.mp h
      obtain ⟨sql, -, h⟩ := bind_outcome_eq_ok.mp h
      exact ⟨sql, (Except.ok.inj h).symm⟩
    | snowflake folds hook =>
      obtain ⟨name, -, h⟩ := bind_outcome_eq_ok.mp h
      exact ⟨_, (Except.ok.inj h).symm⟩
  | index columns key kind =>
    cases dialect with
    | ansi supportsReturning =>
      obtain ⟨name, -, h⟩ := bind_outcome_eq_ok.mp h
      obtain ⟨tableName, -, h⟩ := bind_outcome_eq_ok.mp h
      obtain ⟨columns, -, h⟩ := bind_outcome_eq_ok.mp h
      exact ⟨_, (Except.ok.inj h).symm⟩
    | snowflake folds hook => exact (Except.ok.inj h).symm
  | dropIndex columns key =>
    cases dialect with
    | ansi supportsReturning =>
      obtain ⟨name, -, h⟩ := bind_outcome_eq_ok.mp h
      exact ⟨_, (Except.ok.inj h).symm⟩
    | snowflake folds hook => exact (Except.ok.inj h).symm
  | _ =>
    rw [if_pos (by cases dialect <;> rfl)]
    obtain ⟨sql, -, h⟩ := bind_outcome_eq_ok.mp h
    exact ⟨sql, (Except.ok.inj h).symm⟩

theorem writes_change {change : TableChange} {sqls : List Sql}
    (h : (table.changeStatements target change).outcome = .ok sqls) :
    List.Forall₂ (Entry.Writes target table)
      (if table.emits target.dialect change then [.change change] else []) sqls := by
  have hcount := changeStatements_eq_ok h
  split
  · next hemits =>
    rw [if_pos hemits] at hcount
    obtain ⟨sql, rfl⟩ := hcount
    exact .cons (.change h) .nil
  · next hemits =>
    rw [if_neg hemits] at hcount
    rw [hcount]
    exact .nil

theorem changeEntries_eq (dialect : Dialect) (table : Table) :
    table.changeEntries dialect =
      table.changes.flatMap fun change => if table.emits dialect change then [.change change] else [] := by
  rw [changeEntries]
  induction table.changes with
  | nil => rfl
  | cons change changes ih =>
    rw [List.flatMap_cons, ← ih, List.filter_cons]
    split <;> rfl

theorem writes_changes {changes : List (List Sql)}
    (h : (table.changes.mapM (table.changeStatements target)).outcome = .ok changes) :
    List.Forall₂ (Entry.Writes target table) (table.changeEntries target.dialect) changes.flatten := by
  rw [changeEntries_eq, ← List.flatMap_id]
  exact List.rel_flatMap (mapM_outcome_eq_ok.mp h) fun change sqls hsqls => writes_change hsqls

/-- A table is compiled to one statement for each of its entries. -/
theorem writes_entries {sqls : List Sql} (h : (table.statements target).outcome = .ok sqls) :
    List.Forall₂ (Entry.Writes target table) (table.entries target.dialect) sqls := by
  rw [statements] at h
  rw [entries]
  cases hmode : table.isAltered with
  | true =>
    simp only [hmode, if_true] at h ⊢
    obtain ⟨main, hmain, h⟩ := bind_outcome_eq_ok.mp h
    obtain ⟨changes, hall, h⟩ := bind_outcome_eq_ok.mp h
    obtain rfl := Except.ok.inj h
    exact List.rel_append (writes_alter hmain) (writes_changes hall)
  | false =>
    simp only [hmode, Bool.false_eq_true, if_false] at h ⊢
    obtain ⟨main, hmain, h⟩ := bind_outcome_eq_ok.mp h
    obtain ⟨changes, hall, h⟩ := bind_outcome_eq_ok.mp h
    obtain rfl := Except.ok.inj h
    exact List.rel_append (writes_create hmain) (writes_changes hall)

end Table

/-! ### Migrations -/

/-- The statements of a table, compiled as its actions describe it. -/
theorem tableStatements_eq_ok {actions : List TableAction} {output : List Statement}
    (h : (tableStatements target table actions).outcome = .ok output) :
    ∃ sqls, output = sqls.map (Statement.ofSql · .schema) ∧
      List.Forall₂ (Entry.Writes target (table.declare target.dialect actions))
        ((table.declare target.dialect actions).entries target.dialect) sqls := by
  obtain ⟨built, hbuilt, h⟩ := bind_outcome_eq_ok.mp h
  obtain rfl := Table.build_eq_ok hbuilt
  obtain ⟨sqls, hsqls, h⟩ := bind_outcome_eq_ok.mp h
  exact ⟨sqls, (Except.ok.inj h).symm, Table.writes_entries hsqls⟩

theorem exists_statement_of_entry {actions : List TableAction} {output : List Statement}
    (h : (tableStatements target table actions).outcome = .ok output) {entry : Entry}
    (hentry : entry ∈ (table.declare target.dialect actions).entries target.dialect) :
    ∃ sql, Entry.Writes target (table.declare target.dialect actions) entry sql ∧
      Statement.ofSql sql .schema ∈ output := by
  obtain ⟨sqls, rfl, hwrites⟩ := tableStatements_eq_ok h
  obtain ⟨sql, hsql, hwritten⟩ := exists_mem_of_forall₂ hwrites hentry
  exact ⟨sql, hwritten, List.mem_map_of_mem hsql⟩

/-- The changes of a migration are compiled one after the other. -/
theorem Migration.statements_eq_ok {dialect : Dialect} {strict : Bool} {migration : Migration}
    {statements : List Statement} (h : (migration.statements dialect strict).outcome = .ok statements) :
    ∃ outputs, statements = outputs.flatten ∧
      List.Forall₂ (fun change output =>
        (Change.statements ⟨dialect, strict, migration.context⟩ change).outcome = .ok output)
        migration.changes outputs := by
  obtain ⟨outputs, houtputs, h⟩ := bind_outcome_eq_ok.mp h
  exact ⟨outputs, (Except.ok.inj h).symm, mapM_outcome_eq_ok.mp houtputs⟩

end SqlBuilder.Schema
