import SqlBuilder.Proofs.Schema.Constants
import SqlBuilder.Proofs.Schema.Entries

/-!
What the statements of tables are written from. Main statement: where no name looks quoted without being so and
nothing but integers is written as it was given, a statement leaves no quote open and holds no placeholder.
-/

namespace SqlBuilder.Schema

open Placeholder Sql Recorded

/-- Those of the names that are texts hold no quote by itself where they look quoted. -/
def KeepQuotes (names : List Value) : Prop :=
  ∀ name, .text name ∈ names → Name.KeepsQuotes name

/-! ### What a statement is written from -/

namespace Table

/-- The name of a key or an index: the given one, or else the derived one. -/
def keyNames (fallback : Except Error String) (name : Value) : List Value :=
  (nameOr fallback name).toOption.toList

/-- Only Snowflake has tables inherit. -/
def parentNames (dialect : Dialect) (table : Table) : List Value :=
  match dialect with
  | .ansi _ => []
  | .snowflake .. => table.parent.toList

def changeNames (dialect : Dialect) (table : Table) : TableChange → List Value
  | .primary columns name => keyNames table.primaryName name ++ table.name :: columns
  | .dropPrimary name =>
    match dialect with
    | .ansi _ => keyNames table.primaryName name ++ [table.name]
    | .snowflake .. => [table.name]
  | .unique columns name => keyNames (table.indexName columns "unique") name ++ table.name :: columns
  | .dropUnique columns name => keyNames (table.indexName columns "unique") name ++ [table.name]
  | .index columns name _ => keyNames (table.indexName columns "index") name ++ table.name :: columns
  | .dropIndex columns name => keyNames (table.indexName columns "index") name
  | .foreign key =>
    keyNames (table.indexName key.columns "foreign") key.name ++ table.name :: key.columns ++
      key.table :: key.references
  | .dropForeign columns name => keyNames (table.indexName columns "foreign") name ++ [table.name]
  | .dropColumns columns => table.name :: columns
  | .renameColumn old new => [table.name, old, new]

end Table

/-- The words of a change that are written as they were given. -/
def TableChange.verbatim : TableChange → List Value
  | .index _ _ kind => [kind].filter Value.isTrue
  | .foreign key => [key.onDelete, key.onUpdate].filter Value.isTrue
  | _ => []

namespace Entry

/-- The names that the statement quotes. -/
def names (dialect : Dialect) (table : Table) : Entry → List Value
  | .create => table.name :: table.added.map (·.name) ++ table.parentNames dialect
  | .add => table.name :: table.added.map (·.name)
  | .setType column => [table.name, column.name]
  | .setNullability column _ => [table.name, column.name]
  | .tableComment _ => [table.name]
  | .columnComment column _ => [table.name, column.name]
  | .change further => table.changeNames dialect further

/-- What the statement holds as it was given. -/
def verbatim (dialect : Dialect) (table : Table) : Entry → List Value
  | .create => table.added.flatMap (Column.verbatim dialect)
  | .add => table.added.flatMap (Column.verbatim dialect)
  | .setType column => column.type.verbatim dialect
  | .change further => further.verbatim
  | _ => []

end Entry

variable {target : Target} {table : Table}

theorem keepQuotes_append (xs ys : List Value) :
    KeepQuotes (xs ++ ys) ↔ KeepQuotes xs ∧ KeepQuotes ys := by
  simp only [KeepQuotes, List.mem_append, or_imp, forall_and]

theorem keepQuotes_cons {x : Value} {xs : List Value} : KeepQuotes (x :: xs) ↔ KeepQuotes [x] ∧ KeepQuotes xs :=
  keepQuotes_append [x] xs

theorem quiet_codeIf {condition : Bool} {first second : String} (hfirst : first.toList.all isPlain = true)
    (hsecond : second.toList.all isPlain = true) : Quiet (code (if condition then first else second)) := by
  cases condition with
  | true => exact quiet_code hfirst
  | false => exact quiet_code hsecond

/-! ### Names -/

theorem quiet_wrapValue (hookless : target.dialect.Hookless) {name : Value} {sql : Sql}
    (hname : KeepQuotes [name]) (h : (target.dialect.wrapValue name target.context).outcome = .ok sql) :
    Quiet sql := by
  obtain ⟨text, rfl, rfl⟩ := (Dialect.wrapValue_eq_ok hookless).mp h
  exact Dialect.quiet_written (hname text (List.mem_singleton.mpr rfl))

theorem quiet_columnize (hookless : target.dialect.Hookless) {names : List Value} {sql : Sql}
    (hnames : KeepQuotes names) (h : (Table.columnize target names).outcome = .ok sql) : Quiet sql := by
  obtain ⟨texts, rfl, rfl⟩ := (Dialect.columnize_eq_ok hookless).mp h
  exact Dialect.quiet_writtenList fun text htext => hnames text (List.mem_map_of_mem htext)

theorem quiet_wrapNameOr (hookless : target.dialect.Hookless) {fallback : Except Error String} {name : Value}
    {sql : Sql} (hnames : KeepQuotes (Table.keyNames fallback name))
    (h : (Table.wrapNameOr target fallback name).outcome = .ok sql) : Quiet sql := by
  obtain ⟨given, hgiven, h⟩ := bind_outcome_eq_ok.mp h
  have hkey : Table.keyNames fallback name = [given] := by
    rw [Table.keyNames, show Table.nameOr fallback name = .ok given from hgiven]
    rfl
  rw [hkey] at hnames
  exact quiet_wrapValue hookless hnames h

/-! ### Columns -/

variable {column : Column}

theorem quiet_definition (hookless : target.dialect.Hookless) {definition : Sql}
    (hname : KeepQuotes [column.name]) (hverbatim : ∀ value ∈ column.verbatim target.dialect, IsIntegral value)
    (h : column.IsDefinedBy target table definition) : Quiet definition := by
  obtain ⟨name, type, unsigned, comment, later, hnameSql, htype, hunsigned, hcomment, rfl⟩ := h.exists_parts
  rw [Column.verbatim, List.forall_mem_append] at hverbatim
  have hhead : ∀ part ∈ [name, type], Quiet part := by
    simpa using ⟨quiet_wrapValue hookless hname hnameSql, quiet_typeSql hverbatim.1 htype⟩
  refine quiet_separated (by decide) ?_
  simp only [List.forall_mem_append]
  exact ⟨hhead, ⟨⟨⟨Column.quiet_unsignedSql hunsigned, column.quiet_nullableSql⟩,
    Column.quiet_defaultSql hverbatim.2⟩, column.quiet_collationSql⟩, Column.quiet_commentSql hcomment⟩

theorem quiet_definitions (hookless : target.dialect.Hookless) {columns : List Column} {definitions : List Sql}
    (hnames : KeepQuotes (columns.map (·.name)))
    (hverbatim : ∀ value ∈ columns.flatMap (Column.verbatim target.dialect), IsIntegral value)
    (h : List.Forall₂ (Column.IsDefinedBy target table) columns definitions) :
    ∀ definition ∈ definitions, Quiet definition := by
  induction h with
  | nil => simp
  | @cons column definition columns definitions hdefined _ ih =>
    rw [List.map_cons, keepQuotes_cons] at hnames
    rw [List.flatMap_cons, List.forall_mem_append] at hverbatim
    exact List.forall_mem_cons.mpr
      ⟨quiet_definition hookless hnames.1 hverbatim.1 hdefined, ih hnames.2 hverbatim.2⟩

/-! ### Further changes -/

namespace Table

theorem quiet_alterHead (hookless : target.dialect.Hookless) {name : Sql} (htable : KeepQuotes [table.name])
    (h : (table.nameSql target).outcome = .ok name) : Quiet (alterHead name) :=
  (quiet_code (by decide)).append (quiet_wrapValue hookless htable h)

theorem quiet_addConstraint (hookless : target.dialect.Hookless) {name sql : Sql} {kind : String}
    (hkind : kind.toList.all isPlain = true) {columns : List Value} (hname : Quiet name)
    (hnames : KeepQuotes (table.name :: columns))
    (h : (table.addConstraint target name kind columns).outcome = .ok sql) : Quiet sql := by
  rw [keepQuotes_cons] at hnames
  obtain ⟨tableName, htable, h⟩ := bind_outcome_eq_ok.mp h
  obtain ⟨columnNames, hcolumns, h⟩ := bind_outcome_eq_ok.mp h
  obtain rfl := Except.ok.inj h
  have hword : (" " ++ kind ++ " (").toList.all isPlain = true :=
    isPlain_append (isPlain_append (by decide) hkind) (by decide)
  have hhead := quiet_alterHead hookless hnames.1 htable
  exact hhead.append (quiet_code (by decide))
    |>.append hname
    |>.append (quiet_code hword)
    |>.append (quiet_columnize hookless hnames.2 hcolumns)
    |>.append (quiet_code (by decide))

theorem quiet_dropConstraint (hookless : target.dialect.Hookless) {name sql : Sql} (hname : Quiet name)
    (htable : KeepQuotes [table.name]) (h : (table.dropConstraint target name).outcome = .ok sql) : Quiet sql := by
  obtain ⟨tableName, htableSql, h⟩ := bind_outcome_eq_ok.mp h
  obtain rfl := Except.ok.inj h
  have hhead := quiet_alterHead hookless htable htableSql
  exact (hhead.append (quiet_code (by decide))).append hname

theorem quiet_addPrimary (hookless : target.dialect.Hookless) {columns : List Value} {name : Value} {sql : Sql}
    (hnames : KeepQuotes (keyNames table.primaryName name ++ table.name :: columns))
    (h : (table.addPrimary target columns name).outcome = .ok [sql]) : Quiet sql := by
  rw [keepQuotes_append] at hnames
  obtain ⟨key, hkey, h⟩ := bind_outcome_eq_ok.mp h
  obtain ⟨constraint, hconstraint, h⟩ := bind_outcome_eq_ok.mp h
  obtain rfl := List.singleton_injective (Except.ok.inj h)
  exact quiet_addConstraint hookless (by decide) (quiet_wrapNameOr hookless hnames.1 hkey) hnames.2 hconstraint

theorem quiet_onEvent {event : String} (hevent : event.toList.all isPlain = true) {action : Value}
    (h : action.isTrue = true → IsIntegral action) : Quiet (onEvent event action) := by
  rw [onEvent]
  split
  · next hgiven =>
    have hword : (" on " ++ event ++ " ").toList.all isPlain = true :=
      isPlain_append (isPlain_append (by decide) hevent) (by decide)
    exact (quiet_code hword).append (quiet_givenSql (h hgiven))
  · exact quiet_nil

theorem quiet_primary (hookless : target.dialect.Hookless) {columns : List Value} {name : Value} {sql : Sql}
    (hnames : KeepQuotes (keyNames table.primaryName name ++ table.name :: columns))
    (h : (table.primary target columns name).outcome = .ok [sql]) : Quiet sql := by
  obtain ⟨dialect, strict, context⟩ := target
  cases dialect with
  | ansi supportsReturning => exact quiet_addPrimary hookless hnames h
  | snowflake folds hook =>
    obtain ⟨found, -, h⟩ := bind_outcome_eq_ok.mp h
    cases found with
    | none => exact quiet_addPrimary hookless hnames h
    | some column =>
      cases strict with
      | true => cases h
      | false => cases h

theorem quiet_dropPrimary (hookless : target.dialect.Hookless) {name : Value} {sql : Sql}
    (hnames : KeepQuotes (table.changeNames target.dialect (.dropPrimary name)))
    (h : (table.dropPrimary target name).outcome = .ok [sql]) : Quiet sql := by
  obtain ⟨dialect, strict, context⟩ := target
  cases dialect with
  | ansi supportsReturning =>
    simp only [changeNames, keepQuotes_append] at hnames
    obtain ⟨key, hkey, h⟩ := bind_outcome_eq_ok.mp h
    obtain ⟨constraint, hconstraint, h⟩ := bind_outcome_eq_ok.mp h
    obtain rfl := List.singleton_injective (Except.ok.inj h)
    exact quiet_dropConstraint hookless (quiet_wrapNameOr hookless hnames.1 hkey) hnames.2 hconstraint
  | snowflake folds hook =>
    obtain ⟨tableName, htable, h⟩ := bind_outcome_eq_ok.mp h
    obtain rfl := List.singleton_injective (Except.ok.inj h)
    exact (quiet_alterHead hookless hnames htable).append (quiet_code (by decide))

theorem quiet_index (hookless : target.dialect.Hookless) {columns : List Value} {name kind : Value} {sql : Sql}
    (hnames : KeepQuotes (keyNames (table.indexName columns "index") name ++ table.name :: columns))
    (hkind : kind.isTrue = true → IsIntegral kind)
    (h : (table.index target columns name kind).outcome = .ok [sql]) : Quiet sql := by
  obtain ⟨dialect, strict, context⟩ := target
  cases dialect with
  | ansi supportsReturning =>
    rw [keepQuotes_append, keepQuotes_cons] at hnames
    obtain ⟨hkeyNames, htableName, hcolumnNames⟩ := hnames
    obtain ⟨key, hkey, h⟩ := bind_outcome_eq_ok.mp h
    obtain ⟨tableName, htable, h⟩ := bind_outcome_eq_ok.mp h
    obtain ⟨columnNames, hcolumns, h⟩ := bind_outcome_eq_ok.mp h
    obtain rfl := List.singleton_injective (Except.ok.inj h)
    have hkindSql : Quiet (if kind.isTrue then [.raw kind.shown, .code " "] else []) := by
      split
      · next hgiven => exact (quiet_givenSql (hkind hgiven)).append (quiet_code (by decide))
      · exact quiet_nil
    exact (quiet_code (by decide)).append hkindSql
      |>.append (quiet_code (by decide))
      |>.append (quiet_wrapNameOr hookless hkeyNames hkey)
      |>.append (quiet_code (by decide))
      |>.append (quiet_wrapValue hookless htableName htable)
      |>.append (quiet_code (by decide))
      |>.append (quiet_columnize hookless hcolumnNames hcolumns)
      |>.append (quiet_code (by decide))
  | snowflake folds hook => cases h

theorem quiet_dropIndex (hookless : target.dialect.Hookless) {columns : List Value} {name : Value} {sql : Sql}
    (hnames : KeepQuotes (keyNames (table.indexName columns "index") name))
    (h : (table.dropIndex target columns name).outcome = .ok [sql]) : Quiet sql := by
  obtain ⟨dialect, strict, context⟩ := target
  cases dialect with
  | ansi supportsReturning =>
    obtain ⟨key, hkey, h⟩ := bind_outcome_eq_ok.mp h
    obtain rfl := List.singleton_injective (Except.ok.inj h)
    exact (quiet_code (by decide)).append (quiet_wrapNameOr hookless hnames hkey)
  | snowflake folds hook => cases h

theorem quiet_dropKey (hookless : target.dialect.Hookless) {columns : List Value} {suffix : String}
    {name : Value} {sql : Sql}
    (hnames : KeepQuotes (keyNames (table.indexName columns suffix) name ++ [table.name]))
    (h : (table.dropKey target columns suffix name).outcome = .ok sql) : Quiet sql := by
  rw [keepQuotes_append] at hnames
  obtain ⟨key, hkey, h⟩ := bind_outcome_eq_ok.mp h
  exact quiet_dropConstraint hookless (quiet_wrapNameOr hookless hnames.1 hkey) hnames.2 h

theorem quiet_foreign (hookless : target.dialect.Hookless) {key : ForeignKey} {sql : Sql}
    (hnames : KeepQuotes (table.changeNames target.dialect (.foreign key)))
    (hverbatim : ∀ value ∈ [key.onDelete, key.onUpdate].filter Value.isTrue, IsIntegral value)
    (h : (table.foreign target key).outcome = .ok sql) : Quiet sql := by
  have hgiven : ∀ value ∈ [key.onDelete, key.onUpdate], value.isTrue = true → IsIntegral value :=
    fun value hmem htrue => hverbatim value (List.mem_filter.mpr ⟨hmem, htrue⟩)
  simp only [List.forall_mem_cons] at hgiven
  obtain ⟨hnames, hreferenced⟩ := (keepQuotes_append _ _).mp hnames
  obtain ⟨hreferenced, hreferences⟩ := keepQuotes_cons.mp hreferenced
  obtain ⟨hkeyNames, hnames⟩ := (keepQuotes_append _ _).mp hnames
  obtain ⟨htableName, hcolumnNames⟩ := keepQuotes_cons.mp hnames
  obtain ⟨name, hname, h⟩ := bind_outcome_eq_ok.mp h
  obtain ⟨tableName, htable, h⟩ := bind_outcome_eq_ok.mp h
  obtain ⟨columns, hcolumns, h⟩ := bind_outcome_eq_ok.mp h
  obtain ⟨referenced, hreferencedSql, h⟩ := bind_outcome_eq_ok.mp h
  obtain ⟨references, hreferencesSql, h⟩ := bind_outcome_eq_ok.mp h
  obtain rfl := Except.ok.inj h
  exact (quiet_alterHead hookless htableName htable).append (quiet_code (by decide))
    |>.append (quiet_wrapNameOr hookless hkeyNames hname)
    |>.append (quiet_code (by decide))
    |>.append (quiet_columnize hookless hcolumnNames hcolumns)
    |>.append (quiet_code (by decide))
    |>.append (quiet_wrapValue hookless hreferenced hreferencedSql)
    |>.append (quiet_code (by decide))
    |>.append (quiet_columnize hookless hreferences hreferencesSql)
    |>.append (quiet_code (by decide))
    |>.append (quiet_onEvent (by decide) hgiven.1)
    |>.append (quiet_onEvent (by decide) hgiven.2.1)

theorem quiet_dropColumns (hookless : target.dialect.Hookless) {columns : List Value} {sql : Sql}
    (hnames : KeepQuotes (table.name :: columns))
    (h : (table.dropColumns target columns).outcome = .ok sql) : Quiet sql := by
  obtain ⟨dialect, strict, context⟩ := target
  rw [keepQuotes_cons] at hnames
  cases dialect with
  | ansi supportsReturning =>
    obtain ⟨drops, hdrops, h⟩ := bind_outcome_eq_ok.mp h
    obtain ⟨tableName, htable, h⟩ := bind_outcome_eq_ok.mp h
    obtain rfl := Except.ok.inj h
    have hquiet : ∀ drop ∈ drops, Quiet drop := by
      refine forall_mem_mapM hdrops fun column hcolumn drop hdrop => ?_
      obtain ⟨name, hname, hdrop⟩ := bind_outcome_eq_ok.mp hdrop
      obtain rfl := Except.ok.inj hdrop
      have hkeeps : KeepQuotes [column] := fun text htext =>
        hnames.2 text (by rwa [← List.mem_singleton.mp htext] at hcolumn)
      exact (quiet_code (by decide)).append (quiet_wrapValue hookless hkeeps hname)
    exact ((quiet_alterHead hookless hnames.1 htable).append (quiet_code (by decide))).append
      (quiet_separated (by decide) hquiet)
  | snowflake folds hook =>
    obtain ⟨tableName, htable, h⟩ := bind_outcome_eq_ok.mp h
    obtain ⟨columnNames, hcolumns, h⟩ := bind_outcome_eq_ok.mp h
    obtain rfl := Except.ok.inj h
    exact ((quiet_alterHead hookless hnames.1 htable).append (quiet_code (by decide))).append
      (quiet_columnize hookless hnames.2 hcolumns)

theorem quiet_renameColumn (hookless : target.dialect.Hookless) {old new : Value} {sql : Sql}
    (hnames : KeepQuotes [table.name, old, new])
    (h : (table.renameColumn target old new).outcome = .ok sql) : Quiet sql := by
  obtain ⟨htableName, hnames⟩ := keepQuotes_cons.mp hnames
  obtain ⟨hold, hnew⟩ := keepQuotes_cons.mp hnames
  obtain ⟨tableName, htable, h⟩ := bind_outcome_eq_ok.mp h
  obtain ⟨oldName, holdSql, h⟩ := bind_outcome_eq_ok.mp h
  obtain ⟨newName, hnewSql, h⟩ := bind_outcome_eq_ok.mp h
  obtain rfl := Except.ok.inj h
  exact (quiet_alterHead hookless htableName htable).append (quiet_code (by decide))
    |>.append (quiet_wrapValue hookless hold holdSql)
    |>.append (quiet_code (by decide))
    |>.append (quiet_wrapValue hookless hnew hnewSql)

theorem quiet_addUnique (hookless : target.dialect.Hookless) {columns : List Value} {name : Value} {sql : Sql}
    (hnames : KeepQuotes (keyNames (table.indexName columns "unique") name ++ table.name :: columns))
    (h : (table.addUnique target columns name).outcome = .ok sql) : Quiet sql := by
  rw [keepQuotes_append] at hnames
  obtain ⟨key, hkey, h⟩ := bind_outcome_eq_ok.mp h
  exact quiet_addConstraint hookless (by decide) (quiet_wrapNameOr hookless hnames.1 hkey) hnames.2 h

theorem eq_ok_of_singleton {written : Recorded Sql} {sql : Sql}
    (h : (do return [← written] : Recorded (List Sql)).outcome = .ok [sql]) : written.outcome = .ok sql := by
  obtain ⟨only, honly, h⟩ := bind_outcome_eq_ok.mp h
  rwa [← List.singleton_injective (Except.ok.inj h)]

/-- Whatever a change is written from, its statement is quiet. -/
theorem quiet_changeStatements (hookless : target.dialect.Hookless) {change : TableChange} {sql : Sql}
    (hnames : KeepQuotes (table.changeNames target.dialect change))
    (hverbatim : ∀ value ∈ change.verbatim, IsIntegral value)
    (h : (table.changeStatements target change).outcome = .ok [sql]) : Quiet sql := by
  cases change with
  | primary columns name => exact quiet_primary hookless hnames h
  | dropPrimary name => exact quiet_dropPrimary hookless hnames h
  | unique columns name => exact quiet_addUnique hookless hnames (eq_ok_of_singleton h)
  | dropUnique columns name => exact quiet_dropKey hookless hnames (eq_ok_of_singleton h)
  | index columns name kind => exact quiet_index hookless hnames (isIntegral_of_filter hverbatim) h
  | dropIndex columns name => exact quiet_dropIndex hookless hnames h
  | foreign key => exact quiet_foreign hookless hnames hverbatim (eq_ok_of_singleton h)
  | dropForeign columns name => exact quiet_dropKey hookless hnames (eq_ok_of_singleton h)
  | dropColumns columns => exact quiet_dropColumns hookless hnames (eq_ok_of_singleton h)
  | renameColumn old new => exact quiet_renameColumn hookless hnames (eq_ok_of_singleton h)

end Table

/-! ### Statements -/

theorem Table.quiet_commentLiteral {comment : Value} {sql : Sql} (h : commentLiteral comment = .ok sql) :
    Quiet sql := by
  unfold commentLiteral at h
  split at h
  · cases hname : comment.toName with
    | error e =>
      rw [hname] at h
      cases h
    | ok name =>
      rw [hname] at h
      obtain rfl := Except.ok.inj h
      exact quiet_literalSql name
  · obtain rfl := Except.ok.inj h
    exact quiet_literalSql ""

theorem Table.quiet_commentStatement (hookless : target.dialect.Hookless) {comment : Value} {sql : Sql}
    (htable : KeepQuotes [table.name]) (h : (table.commentStatement target comment).outcome = .ok sql) :
    Quiet sql := by
  obtain ⟨name, hname, h⟩ := bind_outcome_eq_ok.mp h
  obtain ⟨literal, hliteral, h⟩ := bind_outcome_eq_ok.mp h
  have hnameSql := quiet_wrapValue hookless htable hname
  obtain ⟨dialect, strict, context⟩ := target
  cases dialect with
  | ansi supportsReturning | snowflake folds hook =>
    obtain rfl := Except.ok.inj h
    exact (((quiet_code (by decide)).append hnameSql).append (quiet_code (by decide))).append
      (quiet_commentLiteral hliteral)

theorem Column.quiet_commentStatement (hookless : target.dialect.Hookless) {comment : Value} {sql : Sql}
    (hnames : KeepQuotes [table.name, column.name])
    (h : (column.commentStatement target.dialect target.context table.name comment).outcome = .ok sql) :
    Quiet sql := by
  obtain ⟨htable, hcolumn⟩ := keepQuotes_cons.mp hnames
  obtain ⟨name, hname, h⟩ := bind_outcome_eq_ok.mp h
  obtain ⟨columnName, hcolumnSql, h⟩ := bind_outcome_eq_ok.mp h
  obtain rfl := Except.ok.inj h
  exact (quiet_code (by decide)).append (quiet_wrapValue hookless htable hname)
    |>.append (quiet_code (by decide))
    |>.append (quiet_wrapValue hookless hcolumn hcolumnSql)
    |>.append (quiet_code (by decide))
    |>.append (quiet_commentValueSql comment)

theorem Table.quiet_createTail (hookless : target.dialect.Hookless) {tail : Sql}
    (hparent : KeepQuotes (table.parentNames target.dialect))
    (h : (table.createTail target).outcome = .ok tail) : Quiet tail := by
  obtain ⟨dialect, strict, context⟩ := target
  cases dialect with
  | ansi supportsReturning =>
    have h : table.commentClause = .ok tail := h
    unfold commentClause at h
    split at h
    · obtain rfl := Except.ok.inj h
      exact quiet_nil
    · obtain ⟨literal, hliteral, h⟩ := except_bind_eq_ok.mp h
      obtain rfl := Except.ok.inj h
      exact (quiet_code (by decide)).append (quiet_commentLiteral hliteral)
  | snowflake folds hook =>
    have h : (table.parentSql ⟨.snowflake folds hook, strict, context⟩).outcome = .ok tail := h
    unfold parentSql at h
    split at h
    · obtain rfl := Except.ok.inj h
      exact quiet_nil
    · next parent hsome =>
      obtain ⟨name, hname, h⟩ := bind_outcome_eq_ok.mp h
      obtain rfl := Except.ok.inj h
      have hkeeps : KeepQuotes [parent] := by simpa [parentNames, hsome] using hparent
      exact ((quiet_code (by decide)).append (quiet_wrapValue hookless hkeeps hname)).append
        (quiet_code (by decide))

theorem isPlain_typeWord (dialect : Dialect) : (typeWord dialect).toList.all isPlain = true := by
  have hansi : " type ".toList.all isPlain = true := by decide
  have hsnowflake : " set data type ".toList.all isPlain = true := by decide
  cases dialect with
  | ansi supportsReturning => exact hansi
  | snowflake folds hook => exact hsnowflake

/-- A statement of a table, for whatever it is there, is quiet. -/
theorem Entry.Writes.quiet (hookless : target.dialect.Hookless) {entry : Entry} {sql : Sql}
    (hnames : KeepQuotes (entry.names target.dialect table))
    (hverbatim : ∀ value ∈ entry.verbatim target.dialect table, IsIntegral value)
    (h : entry.Writes target table sql) : Quiet sql := by
  cases h with
  | create hname hdefinitions htail =>
    obtain ⟨hnames, hparent⟩ := (keepQuotes_append _ _).mp hnames
    obtain ⟨htable, hcolumns⟩ := keepQuotes_cons.mp hnames
    have hhead : Quiet table.createHead := quiet_codeIf (by decide) (by decide)
    exact hhead.append (quiet_wrapValue hookless htable hname)
      |>.append (quiet_code (by decide))
      |>.append (quiet_separated (by decide) (quiet_definitions hookless hcolumns hverbatim hdefinitions))
      |>.append (quiet_code (by decide))
      |>.append (Table.quiet_createTail hookless hparent htail)
  | add hname hdefinitions =>
    obtain ⟨htable, hcolumns⟩ := keepQuotes_cons.mp hnames
    have hparts := quiet_definitions hookless hcolumns hverbatim hdefinitions
    have hadditions : ∀ definition ∈ _, Quiet (code "add " ++ definition) := fun definition hmem =>
      (quiet_code (by decide)).append (hparts definition hmem)
    exact (quiet_code (by decide)).append (quiet_wrapValue hookless htable hname)
      |>.append (quiet_code (by decide))
      |>.append (quiet_separated (by decide) (List.forall_mem_map.mpr hadditions))
  | setType hname hcolumn htype =>
    obtain ⟨htable, hcolumnName⟩ := keepQuotes_cons.mp hnames
    have hword : Quiet (code (typeWord target.dialect)) := quiet_code (isPlain_typeWord target.dialect)
    exact (quiet_code (by decide)).append (quiet_wrapValue hookless htable hname)
      |>.append (quiet_code (by decide))
      |>.append (quiet_wrapValue hookless hcolumnName hcolumn)
      |>.append hword
      |>.append (quiet_typeSql hverbatim htype)
  | @setNullability column nullable _ _ hname hcolumn =>
    obtain ⟨htable, hcolumnName⟩ := keepQuotes_cons.mp hnames
    have hword : Quiet (code (if nullable then " drop not null" else " set not null")) :=
      quiet_codeIf (by decide) (by decide)
    exact (quiet_code (by decide)).append (quiet_wrapValue hookless htable hname)
      |>.append (quiet_code (by decide))
      |>.append (quiet_wrapValue hookless hcolumnName hcolumn)
      |>.append hword
  | tableComment hcomment => exact Table.quiet_commentStatement hookless hnames hcomment
  | columnComment hcomment => exact Column.quiet_commentStatement hookless hnames hcomment
  | change hchange => exact Table.quiet_changeStatements hookless hnames hverbatim hchange

end SqlBuilder.Schema
