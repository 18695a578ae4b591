import SqlBuilder.Proofs.Query.Rows
import SqlBuilder.Proofs.Query.Sites

/-!
Where the values of a query are bound. Main statement: in a compiled query the placeholders stand for its
bindings one by one, each in the assignment, the row or the comparison that its value was given for.
-/

namespace SqlBuilder

open Name Placeholder Sql Recorded

theorem Sql.ofValue_of_not_raw {value : Value} (h : value.isRaw = false) : ofValue value = [.slot value] := by
  cases value with
  | raw sql => cases h
  | _ => rfl

namespace Query

/-! ### The parts of a statement -/

variable {dialect : Dialect} {q : Query}

theorem quiet_tableSql (hookless : dialect.Hookless) (hnames : ∀ name ∈ q.tableNames, KeepsQuotes name)
    {table : Sql} (h : (q.tableSql dialect).outcome = .ok table) : Quiet table := by
  rw [tableSql] at h
  split at h
  · obtain ⟨name, htable, rfl⟩ := (Dialect.wrapValue_eq_ok hookless).mp h
    exact Dialect.quiet_written (hnames name (by simp [tableNames, htable, Value.text?]))
  · cases h

theorem quiet_columnize (hookless : dialect.Hookless) {columns : List Value} {context : Value} {sql : Sql}
    (hnames : ∀ name ∈ columns.filterMap Value.text?, KeepsQuotes name)
    (h : (dialect.columnize columns context).outcome = .ok sql) : Quiet sql := by
  obtain ⟨names, rfl, rfl⟩ := (Dialect.columnize_eq_ok hookless).mp h
  rw [Value.filterMap_text?] at hnames
  exact Dialect.quiet_writtenList hnames

theorem bindEach_whereSql (hookless : dialect.Hookless)
    (hnames : ∀ name ∈ q.comparedNames, KeepsQuotes name)
    (hraw : ∀ value ∈ q.lookups.map (·.2), value.isRaw = false)
    {parts : List Sql} (h : (q.whereSql dialect).outcome = .ok parts) :
    BindEach parts (q.conditionSites dialect) := by
  rw [comparedNames, List.forall_mem_map] at hnames
  rw [List.forall_mem_map] at hraw
  rcases whereSql_eq_ok h with ⟨hnone, rfl⟩ | ⟨filter, condition, hfilter, hcondition, -, rfl⟩
  · rw [conditionSites, hnone]
    exact bindEach_quiet (by simp)
  · have hlookups := lookups_of_filter hfilter
    rw [hlookups] at hnames hraw
    rw [conditionSites, hlookups]
    have hbinds := Filter.bindsInCondition_compile hookless hnames hraw hcondition
    refine bindEach_singleton fun before hbefore => ?_
    refine .quiet_append (quiet_code (by decide)) (hbinds _ ?_)
    exact ⟨before, [], by simp, hbefore⟩

theorem isPlain_direction (field : String) : (" " ++ (splitDirection field).2).toList.all isPlain = true := by
  unfold splitDirection
  split
  · change (" " ++ "desc").toList.all isPlain = true
    decide
  · change (" " ++ "asc").toList.all isPlain = true
    decide

theorem quiet_orderSql (hookless : dialect.Hookless) {field : Value} {sql : Sql}
    (hname : ∀ name, field = .text name → KeepsQuotes (splitDirection name).1)
    (h : (q.orderSql dialect field).outcome = .ok sql) : Quiet sql := by
  obtain ⟨name, hfield, h⟩ := bind_outcome_eq_ok.mp h
  have hquiet : Quiet (dialect.written (splitDirection name).1) :=
    Dialect.quiet_written (hname name (Value.toName_eq_ok.mp hfield))
  obtain ⟨written, hwritten, h⟩ := bind_outcome_eq_ok.mp h
  rw [Dialect.wrap_outcome hookless] at hwritten
  obtain rfl := Except.ok.inj hwritten
  obtain rfl := Except.ok.inj h
  exact hquiet.append (quiet_code (isPlain_direction name))

theorem quiet_orderingSql (hookless : dialect.Hookless) (hnames : ∀ name ∈ q.orderedNames, KeepsQuotes name)
    {parts : List Sql} (h : (q.orderingSql dialect).outcome = .ok parts) : ∀ part ∈ parts, Quiet part := by
  rcases parts_of_orderingSql h with ⟨-, rfl⟩ | ⟨fields, orders, hfields, horders, rfl⟩
  · simp
  · have hname : ∀ field ∈ fields, ∀ name, field = .text name → KeepsQuotes (splitDirection name).1 := by
      rintro field hfield name rfl
      refine hnames _ (List.mem_map_of_mem ?_)
      rw [hfields]
      exact List.mem_filterMap.mpr ⟨.text name, hfield, rfl⟩
    have hquiet := forall_mem_mapM horders fun field hfield sql hsql =>
      quiet_orderSql hookless (hname field hfield) hsql
    simpa using (quiet_code (s := "order by ") (by decide)).append (quiet_separated (by decide) hquiet)

theorem quiet_limitSql {parts : List Sql} (h : q.limitSql dialect = .ok parts) :
    ∀ part ∈ parts, Quiet part := by
  obtain ⟨clause, hclause, h⟩ := except_bind_eq_ok.mp h
  have hquiet := Dialect.quiet_limitClause hclause
  cases clause with
  | nil =>
    obtain rfl := Except.ok.inj h
    simp
  | cons piece clause =>
    obtain rfl := Except.ok.inj h
    simpa using hquiet

theorem quiet_lockSql {parts : List Sql} (h : (q.lockSql dialect).outcome = .ok parts) :
    ∀ part ∈ parts, Quiet part := by
  unfold lockSql at h
  split at h
  · obtain rfl := Except.ok.inj h
    simp
  · obtain rfl := Except.ok.inj h
    simpa using quiet_code (s := "for update") (by decide)
  · obtain rfl := Except.ok.inj h
    simpa using quiet_code (s := "for share") (by decide)
  · obtain rfl := Except.ok.inj h
    simp
  · obtain rfl := Except.ok.inj h
    simp

theorem quiet_returningSql (hookless : dialect.Hookless)
    (hnames : ∀ name ∈ q.returnedNames dialect, KeepsQuotes name) {sql : Sql}
    (h : (q.returningSql dialect).outcome = .ok sql) : Quiet sql := by
  rcases parts_of_returningSql h with rfl | ⟨columns, names, hsupports, hcolumns, hwritten, rfl⟩
  · exact quiet_nil
  · rw [returnedNames, if_pos hsupports, hcolumns] at hnames
    exact (quiet_code (by decide)).append (quiet_columnize hookless hnames hwritten)

theorem bindsAt_writeTail (hookless : dialect.Hookless)
    (hcompared : ∀ name ∈ q.comparedNames, KeepsQuotes name)
    (hreturned : ∀ name ∈ q.returnedNames dialect, KeepsQuotes name)
    (hraw : ∀ value ∈ q.lookups.map (·.2), value.isRaw = false)
    {sql : Sql} (h : (q.writeTail dialect).outcome = .ok sql) :
    BindsAt sql (q.conditionSites dialect) := by
  obtain ⟨condition, returning, hcondition, hreturning, rfl⟩ := writeTail_eq_ok.mp h
  have hspaced := (bindEach_whereSql hookless hcompared hraw hcondition).spaced
  simpa using hspaced.flatten.append (quiet_returningSql hookless hreturned hreturning).bindsAt

/-! ### Statements -/

theorem bindsAt_selectSql (hookless : dialect.Hookless)
    (hnames : ∀ name ∈ q.selectedNames ++ q.tableNames ++ q.comparedNames ++ q.orderedNames,
      KeepsQuotes name)
    (hraw : ∀ value ∈ q.lookups.map (·.2), value.isRaw = false)
    {sql : Sql} (h : (q.selectSql dialect).outcome = .ok sql) :
    BindsAt sql (q.conditionSites dialect) := by
  obtain ⟨hnames, hordered⟩ := List.forall_mem_append.mp hnames
  obtain ⟨hnames, hcompared⟩ := List.forall_mem_append.mp hnames
  obtain ⟨hselected, htable⟩ := List.forall_mem_append.mp hnames
  obtain ⟨given, columns, table, condition, ordering, limit, lock, hgiven, hcolumns, htableSql, hcondition,
    hordering, hlimit, hlock, rfl⟩ := selectSql_eq_ok.mp h
  rw [selectedNames, hgiven] at hselected
  have hselect : Quiet (code "select ") := quiet_code (by decide)
  have hfrom : Quiet (code "from") := quiet_code (by decide)
  have hhead : ∀ part ∈ [code "select " ++ columns, code "from", table], Quiet part := by
    simp only [List.forall_mem_cons, List.not_mem_nil, false_implies, implies_true, and_true]
    exact ⟨hselect.append (quiet_columnize hookless hselected hcolumns), hfrom,
      quiet_tableSql hookless htable htableSql⟩
  have hparts := (bindEach_quiet hhead).append (bindEach_whereSql hookless hcompared hraw hcondition)
    |>.append (bindEach_quiet (quiet_orderingSql hookless hordered hordering))
    |>.append (bindEach_quiet (quiet_limitSql hlimit))
    |>.append (bindEach_quiet (quiet_lockSql hlock))
  have hbinds : BindsAt (separated " " _) _ := hparts.separated (by decide)
  simpa using hbinds

theorem bindsAt_deleteSql (hookless : dialect.Hookless)
    (hnames : ∀ name ∈ q.tableNames ++ q.comparedNames ++ q.returnedNames dialect, KeepsQuotes name)
    (hraw : ∀ value ∈ q.lookups.map (·.2), value.isRaw = false)
    {sql : Sql} (h : (q.deleteSql dialect).outcome = .ok sql) :
    BindsAt sql (q.conditionSites dialect) := by
  obtain ⟨hnames, hreturned⟩ := List.forall_mem_append.mp hnames
  obtain ⟨htable, hcompared⟩ := List.forall_mem_append.mp hnames
  obtain ⟨table, tail, htableSql, htail, rfl⟩ := deleteSql_eq_ok.mp h
  have hdelete : Quiet (code "delete from ") := quiet_code (by decide)
  have hhead := hdelete.append (quiet_tableSql hookless htable htableSql)
  exact hhead.bindsAt.append (bindsAt_writeTail hookless hcompared hreturned hraw htail)

theorem quiet_truncateSql (hookless : dialect.Hookless) (hnames : ∀ name ∈ q.tableNames, KeepsQuotes name)
    {sql : Sql} (h : (q.truncateSql dialect).outcome = .ok sql) : Quiet sql := by
  obtain ⟨table, htable, h⟩ := bind_outcome_eq_ok.mp h
  obtain rfl := Except.ok.inj h
  have hquiet := quiet_tableSql hookless hnames htable
  cases dialect with
  | ansi supportsReturning => exact (quiet_code (s := "truncate table ") (by decide)).append hquiet
  | snowflake folds hook => exact (quiet_code (s := "truncate ") (by decide)).append hquiet

/-- What is assigned in an update. -/
theorem assignments_written (hookless : dialect.Hookless) {entries : List (Value × Value)}
    {parts : List Sql} (hentries : q.payload = .dict entries)
    (h : (entries.mapM (q.assignmentSql dialect)).outcome = .ok parts) :
    parts = q.assignments.map fun assignment =>
      dialect.written assignment.1 ++ code " = " ++ ofValue assignment.2 := by
  rw [assignments, hentries]
  simp only
  have hall := mapM_outcome_eq_ok.mp h
  clear h hentries
  induction hall with
  | nil => rfl
  | @cons entry part entries parts hpart _ ih =>
    obtain ⟨column, hcolumn, rfl⟩ := assignmentSql_eq_ok.mp hpart
    obtain ⟨name, hname, rfl⟩ := (Dialect.wrapValue_eq_ok hookless).mp hcolumn
    obtain ⟨key, value⟩ := entry
    obtain rfl : key = .text name := hname
    simp only [List.filterMap_cons, Value.text?_text, Option.map_some, List.map_cons]
    rw [← ih]

/-- All of it is bound if none of it is SQL. -/
theorem assignments_eq_ok (hookless : dialect.Hookless) {entries : List (Value × Value)}
    {parts : List Sql} (hentries : q.payload = .dict entries)
    (hraw : ∀ value ∈ q.assignments.map (·.2), value.isRaw = false)
    (h : (entries.mapM (q.assignmentSql dialect)).outcome = .ok parts) :
    parts = q.assignments.map (assignedSql dialect) := by
  rw [assignments_written hookless hentries h]
  refine List.map_congr_left fun assignment hassignment => ?_
  rw [assignedSql, ofValue_of_not_raw (hraw _ (List.mem_map_of_mem hassignment))]

theorem bindsAt_setSql (hookless : dialect.Hookless) {entries : List (Value × Value)}
    (hentries : q.payload = .dict entries)
    (hnames : ∀ name ∈ q.assignments.map (·.1) ++ q.tableNames ++ q.comparedNames ++
      q.returnedNames dialect, KeepsQuotes name)
    (hraw : ∀ value ∈ q.assignments.map (·.2) ++ q.lookups.map (·.2), value.isRaw = false)
    {sql : Sql} (h : (q.setSql dialect entries).outcome = .ok sql) :
    BindsAt sql (assignmentSites dialect q.assignments ++ q.conditionSites dialect) := by
  obtain ⟨hnames, hreturned⟩ := List.forall_mem_append.mp hnames
  obtain ⟨hnames, hcompared⟩ := List.forall_mem_append.mp hnames
  obtain ⟨hassigned, htable⟩ := List.forall_mem_append.mp hnames
  obtain ⟨hassignedRaw, hcomparedRaw⟩ := List.forall_mem_append.mp hraw
  obtain ⟨parts, table, tail, hparts, htableSql, htail, rfl⟩ := setSql_eq_ok.mp h
  obtain rfl := assignments_eq_ok hookless hentries hassignedRaw hparts
  have hupdate : Quiet (code "update ") := quiet_code (by decide)
  have hhead := hupdate.append (quiet_tableSql hookless htable htableSql)
  have hset : BindsAt (code " set " ++ separated ", " (q.assignments.map (assignedSql dialect)))
      (assignmentSites dialect q.assignments) := by
    rw [assignmentSites, ← text_code " set "]
    refine bindsAt_ofList (quiet_code (by decide)) ?_
    intro assignment hmem lead before hafter
    have hname : Quiet (dialect.written assignment.1) :=
      Dialect.quiet_written (hassigned _ (List.mem_map_of_mem hmem))
    have hequals : Quiet (code " = ") := quiet_code (by decide)
    refine .quiet_append (hname.append hequals) (binds_listed ?_)
    simpa using hafter.append ((dialect.written assignment.1).text ++ " = ")
  have htailBinds := bindsAt_writeTail hookless hcompared hreturned hcomparedRaw htail
  simpa using (hhead.bindsAt.append hset).append htailBinds

theorem bindsAt_updateSql (hookless : dialect.Hookless)
    (hnames : ∀ name ∈ q.assignments.map (·.1) ++ q.tableNames ++ q.comparedNames ++
      q.returnedNames dialect, KeepsQuotes name)
    (hraw : ∀ value ∈ q.assignments.map (·.2) ++ q.lookups.map (·.2), value.isRaw = false)
    {sql : Sql} (h : (q.updateSql dialect).outcome = .ok sql) :
    BindsAt sql (assignmentSites dialect q.assignments ++ q.conditionSites dialect) := by
  obtain ⟨entries, hentries, -, h⟩ := updateSql_eq_ok.mp h
  exact bindsAt_setSql hookless hentries hnames hraw h

theorem binds_cellSql {row : Row} (hraw : ∀ value ∈ row.map (·.2), value.isRaw = false)
    {lead : String} {before : List Char} (h : After OutsideQuotes lead before) (column : String) :
    Binds before (cellSql row column)
      (match row.lookup column with
      | some value => [.listed lead value]
      | none => []) := by
  rw [cellSql]
  cases hcell : row.lookup column with
  | none => exact (quiet_code (s := "DEFAULT") (by decide)).binds before
  | some value =>
    obtain ⟨l₁, l₂, rfl, -⟩ := List.lookup_eq_some_iff.mp hcell
    have hvalue : value.isRaw = false := hraw value (by simp)
    change Binds before (ofValue value) [.listed lead value]
    rw [ofValue_of_not_raw hvalue]
    exact binds_listed h

theorem binds_tupleSql {row : Row} (hraw : ∀ value ∈ row.map (·.2), value.isRaw = false)
    {lead : String} {before : List Char} (h : After OutsideQuotes lead before) (columns : List String) :
    Binds before (tupleSql columns row) (cellSites row (lead ++ "(") columns) := by
  have hopen : Quiet (code "(") := quiet_code (by decide)
  have hclose : Quiet (code ")") := quiet_code (by decide)
  have hcells : Binds (before ++ (code "(").text.toList) (separated ", " (columns.map (cellSql row)))
      (cellSites row (lead ++ "(") columns) := by
    refine binds_ofList (fun column _ lead before hafter => binds_cellSql hraw hafter column) ?_
    simpa using h.append "("
  simpa [tupleSql] using (Binds.quiet_append hopen hcells).append (hclose.binds _)

theorem bindsAt_rows {columns : List String} {rows : List Row}
    (hcolumns : ∀ name ∈ columns, KeepsQuotes name)
    (hraw : ∀ value ∈ rows.flatMap fun row => row.map (·.2), value.isRaw = false) :
    BindsAt (code " (" ++ dialect.writtenList columns ++ code ") values " ++
      separated ", " (rows.map (tupleSql columns))) (rowSites dialect columns rows) := by
  have hopen : Quiet (code " (") := quiet_code (by decide)
  have hvalues : Quiet (code ") values ") := quiet_code (by decide)
  have hcolumnsQuiet : Quiet (dialect.writtenList columns) := Dialect.quiet_writtenList hcolumns
  have hrow : ∀ row ∈ rows, ∀ lead before, After OutsideQuotes lead before →
      Binds before (tupleSql columns row) (cellSites row (lead ++ "(") columns) := by
    intro row hrow lead before hafter
    refine binds_tupleSql (fun value hvalue => hraw value ?_) hafter columns
    exact List.mem_flatMap.mpr ⟨row, hrow, hvalue⟩
  have hbinds := bindsAt_ofList ((hopen.append hcolumnsQuiet).append hvalues) hrow
  simpa [rowSites, String.append_assoc] using hbinds

/-- Without columns nothing is bound. -/
theorem rowSites_nil (dialect : Dialect) (rows : List Row) : rowSites dialect [] rows = [] := by
  rw [rowSites]
  generalize " (" ++ (dialect.writtenList []).text ++ ") values " = lead
  induction rows generalizing lead with
  | nil => rfl
  | cons row rows ih => exact ih _

theorem quiet_defaultRowSql {table sql : Sql} (htable : Quiet table)
    (h : (defaultRowSql dialect table).outcome = .ok sql) : Quiet sql := by
  cases dialect with
  | ansi supportsReturning =>
    obtain rfl := Except.ok.inj h
    have hinsert : Quiet (code "insert into ") := quiet_code (by decide)
    exact (hinsert.append htable).append (quiet_code (by decide))
  | snowflake folds hook =>
    obtain rfl := Except.ok.inj h
    exact quiet_nil

theorem bindsAt_insertRowsSql (hookless : dialect.Hookless) {rows : List Row}
    (hcolumns : ∀ name ∈ columnUnion rows, KeepsQuotes name)
    (hreturned : columnUnion rows ≠ [] → ∀ name ∈ q.returnedNames dialect, KeepsQuotes name)
    (hraw : ∀ value ∈ rows.flatMap fun row => row.map (·.2), value.isRaw = false)
    {table sql : Sql} (htable : Quiet table)
    (h : (q.insertRowsSql dialect table rows).outcome = .ok sql) :
    BindsAt sql (rowSites dialect (columnUnion rows) rows) := by
  by_cases hcolumnless : columnUnion rows = []
  · rw [insertRowsSql_empty q hcolumnless] at h
    rw [hcolumnless, rowSites_nil]
    exact (quiet_defaultRowSql htable h).bindsAt
  · obtain ⟨names, returning, hnames, hreturning, rfl⟩ := (insertRowsSql_eq_ok hcolumnless).mp h
    obtain ⟨texts, htexts, rfl⟩ := (Dialect.columnize_eq_ok hookless).mp hnames
    obtain rfl : columnUnion rows = texts := List.map_injective_iff.mpr (fun _ _ => Value.text.inj) htexts
    have hinsert : Quiet (code "insert into ") := quiet_code (by decide)
    have hrows : BindsAt _ (rowSites dialect _ _) := bindsAt_rows hcolumns hraw
    have hhead := (hinsert.append htable).bindsAt.append hrows
    simpa using hhead.append (quiet_returningSql hookless (hreturned hcolumnless) hreturning).bindsAt

/-- An insert has no rows, or it writes its table and then its rows. -/
theorem parts_of_insertSql {sql : Sql} (h : (q.insertSql dialect).outcome = .ok sql) :
    (q.payload.toItemsIfTrue = .ok [] ∧ sql = []) ∨
      ∃ item items table, q.payload.toItemsIfTrue = .ok (item :: items) ∧ Row.ofValues (item :: items) = .ok q.rows ∧
        (q.tableSql dialect).outcome = .ok table ∧ (q.insertRowsSql dialect table q.rows).outcome = .ok sql := by
  obtain ⟨items, hitems, h⟩ := bind_outcome_eq_ok.mp h
  cases items with
  | nil => exact .inl ⟨hitems, (Except.ok.inj h).symm⟩
  | cons item items =>
    obtain ⟨table, htable, h⟩ := bind_outcome_eq_ok.mp h
    obtain ⟨rows, hrows, h⟩ := bind_outcome_eq_ok.mp h
    obtain rfl : q.rows = rows := rows_eq_of_ofValues hitems hrows
    exact .inr ⟨item, items, table, hitems, hrows, htable, h⟩

theorem bindsAt_insertSql (hookless : dialect.Hookless)
    (hnames : ∀ name ∈ q.insertedNames dialect, KeepsQuotes name)
    (hraw : ∀ value ∈ q.rows.flatMap fun row => row.map (·.2), value.isRaw = false)
    {sql : Sql} (h : (q.insertSql dialect).outcome = .ok sql) :
    BindsAt sql (rowSites dialect (columnUnion q.rows) q.rows) := by
  rcases parts_of_insertSql h with ⟨hnone, rfl⟩ | ⟨item, items, table, -, hrows, htable, h⟩
  · have hrows : q.rows = [] := rows_eq_of_ofValues hnone rfl
    rw [hrows]
    exact quiet_nil.bindsAt
  · rw [insertedNames, if_neg (Row.ne_nil_of_ofValues hrows)] at hnames
    split at hnames
    · next hnone =>
      refine bindsAt_insertRowsSql hookless ?_ (absurd hnone) hraw (quiet_tableSql hookless hnames htable) h
      simp [hnone]
    · obtain ⟨hnames, hreturned⟩ := List.forall_mem_append.mp hnames
      obtain ⟨htableNames, hcolumns⟩ := List.forall_mem_append.mp hnames
      exact bindsAt_insertRowsSql hookless hcolumns (fun _ => hreturned) hraw
        (quiet_tableSql hookless htableNames htable) h

theorem bindsAt_sql (hookless : dialect.Hookless) (hnames : ∀ name ∈ q.names dialect, KeepsQuotes name)
    (hraw : ∀ value ∈ q.values, value.isRaw = false) {sql : Sql} (h : (q.sql dialect).outcome = .ok sql) :
    BindsAt sql (q.sites dialect) := by
  rw [Query.sql] at h
  rw [names] at hnames
  rw [values] at hraw
  rw [sites]
  cases hmethod : q.method with
  | select | first | pluck =>
    simp only [hmethod] at h hnames hraw ⊢
    exact bindsAt_selectSql hookless hnames hraw h
  | insert =>
    simp only [hmethod] at h hnames hraw ⊢
    exact bindsAt_insertSql hookless hnames hraw h
  | update =>
    simp only [hmethod] at h hnames hraw ⊢
    exact bindsAt_updateSql hookless hnames hraw h
  | delete =>
    simp only [hmethod] at h hnames hraw ⊢
    exact bindsAt_deleteSql hookless hnames hraw h
  | truncate =>
    simp only [hmethod] at h hnames ⊢
    exact (quiet_truncateSql hookless hnames h).bindsAt
  | raw | schema | other name =>
    rw [hmethod] at h
    cases h

/-- A compiled query binds the values that it was given, and reading its text outside quotes the marks are
as many, each behind the assignment, in the row or behind the comparison of its value. -/
theorem compile_placeholders (hookless : dialect.Hookless)
    (hnames : ∀ name ∈ q.names dialect, KeepsQuotes name) (hraw : ∀ value ∈ q.values, value.isRaw = false)
    {statement : Statement} (h : (q.compile dialect).outcome = .ok statement) :
    ∃ text, statement.sql = .text text ∧
      statement.bindings = (q.sites dialect).map Site.value ∧
      Placeholder.count text = statement.bindings.length ∧
      (∀ k site, (q.sites dialect)[k]? = some site →
        ∃ before after, text.toList = before ++ mark :: after ∧ quoteAfter none before = none ∧
          countFrom none before = k ∧ site.EndsAt before) ∧
      Placeholder.check statement.sql statement.bindings = .ok () := by
  obtain ⟨sql, hsql, h⟩ := bind_outcome_eq_ok.mp h
  obtain rfl := Except.ok.inj h
  have hbinds := bindsAt_sql hookless hnames hraw hsql [] rfl
  have hbindings : sql.bindings = (q.sites dialect).map Site.value := hbinds.bindings
  have hcount : Placeholder.count sql.text = sql.bindings.length := by
    rw [hbindings, List.length_map]
    exact hbinds.scan.2
  refine ⟨sql.text, rfl, hbindings, hcount, ?_, check_text hcount⟩
  intro k site hk
  exact hbinds.placeholder hk

/-- Sets a column whose name holds a mark, in rows that are chosen by two more. -/
def markedUpdate : Query :=
  { table := .text "t", method := .update, payload := .dict [(.text "\"a\"\"?\"", .int 1)]
    filter := some (.node .and false
      [.lookup "b__contains" (.text "x"), .lookup "c__in" (.list [.int 2, .int 3])]) }

theorem markedUpdate_placeholders :
    (∀ name ∈ markedUpdate.names (.ansi false), KeepsQuotes name) ∧
    (∀ value ∈ markedUpdate.values, value.isRaw = false) ∧
    ∃ statement, (markedUpdate.compile (.ansi false)).outcome = .ok statement ∧
      ∃ text, statement.sql = .text text ∧
        statement.bindings = (markedUpdate.sites (.ansi false)).map Site.value ∧
        Placeholder.count text = statement.bindings.length ∧
        (∀ k site, (markedUpdate.sites (.ansi false))[k]? = some site →
          ∃ before after, text.toList = before ++ mark :: after ∧ quoteAfter none before = none ∧
            countFrom none before = k ∧ site.EndsAt before) ∧
        Placeholder.check statement.sql statement.bindings = .ok () := by
  have hquoted : KeepsQuotes "\"a\"\"?\"" := by
    intro identifier hidentifier hquoted
    obtain rfl : identifier = "\"a\"\"?\"".toList := List.mem_singleton.mp hidentifier
    exact .other (by decide) (.pair (.other (by decide) .nil))
  have hothers : ∀ name ∈ ["t", "b", "c"], KeepsQuotes name :=
    fun name hname => keepsQuotes_of_not_quoted (by revert name; decide)
  have hnames : ∀ name ∈ markedUpdate.names (.ansi false), KeepsQuotes name :=
    List.forall_mem_cons.mpr ⟨hquoted, hothers⟩
  have hraw : ∀ value ∈ markedUpdate.values, value.isRaw = false := by decide
  exact ⟨hnames, hraw, _, rfl, compile_placeholders (Dialect.hookless_ansi false) hnames hraw rfl⟩

end Query

end SqlBuilder
