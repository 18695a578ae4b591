import SqlBuilder.Dialect.Hook
import SqlBuilder.Proofs.Filter.Hooked
import SqlBuilder.Proofs.Query.Rows
import SqlBuilder.Proofs.Query.Sites

/-!
Statements whose identifiers a caller's hook writes. Main statement: a statement that is compiled with a hook
is the outline of its query with an answer of the hook in each open place, and the hook is called for the
identifiers of the names that the query writes and for nothing else.
-/

namespace SqlBuilder.Query

open Outline Recorded

/-! ### Outlines -/

def tableOutline (q : Query) : Outline :=
  q.tableNames.flatMap ofName

/-- The condition with its keyword, or nothing. -/
def conditionOutline (q : Query) : List Outline :=
  match q.filter.elim [] Filter.outline with
  | [] => []
  | condition => [Outline.text "where " ++ condition]

def orderOutline (field : String) : Outline :=
  ofName (splitDirection field).1 ++ Outline.text (" " ++ (splitDirection field).2)

def orderingOutline (q : Query) : List Outline :=
  match q.ordering with
  | .ok (_ :: _) => [Outline.text "order by " ++ separated ", " (q.ordering.texts.map orderOutline)]
  | _ => []

/-- No limit names anything. -/
def limitOutline (dialect : Dialect) (q : Query) : List Outline :=
  match q.limitSql dialect with
  | .ok parts => parts.map fun part => Outline.text part.text
  | .error _ => []

def selectOutline (dialect : Dialect) (q : Query) : Outline :=
  separated " " ([Outline.text "select " ++ separated ", " (q.selectedNames.map ofName), Outline.text "from",
    q.tableOutline] ++ q.conditionOutline ++ q.orderingOutline ++ q.limitOutline dialect)

def insertOutline (q : Query) : Outline :=
  Outline.text "insert into " ++ q.tableOutline ++ Outline.text " (" ++
    separated ", " ((columnUnion q.rows).map ofName) ++ Outline.text ") values " ++
    Outline.text (Sql.separated ", " (q.rows.map (tupleSql (columnUnion q.rows)))).text

def assignmentOutline (assignment : String × Value) : Outline :=
  ofName assignment.1 ++ Outline.text " = " ++ Outline.text (Sql.ofValue assignment.2).text

def tailOutline (q : Query) : Outline :=
  (q.conditionOutline.map fun condition => Outline.text " " ++ condition).flatten

def updateOutline (q : Query) : Outline :=
  Outline.text "update " ++ q.tableOutline ++ Outline.text " set " ++
    separated ", " (q.assignments.map assignmentOutline) ++ q.tailOutline

def deleteOutline (q : Query) : Outline :=
  Outline.text "delete from " ++ q.tableOutline ++ q.tailOutline

def truncateOutline (q : Query) : Outline :=
  Outline.text "truncate " ++ q.tableOutline

/-- The statement of a query for a dialect without row locks and returned rows, with the places of its
identifiers left open. -/
def outline (dialect : Dialect) (q : Query) : Outline :=
  match q.method with
  | .select | .first | .pluck => q.selectOutline dialect
  | .insert => q.insertOutline
  | .update => q.updateOutline
  | .delete => q.deleteOutline
  | .truncate => q.truncateOutline
  | _ => []

/-! ### The identifiers of outlines -/

variable {q : Query}

theorem identifiers_tableOutline : q.tableOutline.identifiers = q.tableNames.flatMap Name.identifiersIn := by
  rw [tableOutline, tableNames]
  cases q.table.text? <;> simp

theorem identifiers_conditionOutline :
    q.conditionOutline.flatMap Outline.identifiers = q.comparedNames.flatMap Name.identifiersIn := by
  have hfilter : Outline.identifiers (q.filter.elim [] Filter.outline) =
      q.comparedNames.flatMap Name.identifiersIn := by
    rw [comparedNames, lookups, List.flatMap_map]
    cases q.filter with
    | none => rfl
    | some filter => exact Filter.identifiers_outline filter
  rw [← hfilter, conditionOutline]
  split
  · next hnone => rw [hnone]; rfl
  · simp

theorem identifiers_tailOutline : q.tailOutline.identifiers = q.comparedNames.flatMap Name.identifiersIn := by
  rw [← identifiers_conditionOutline, tailOutline]
  generalize q.conditionOutline = parts
  induction parts with
  | nil => rfl
  | cons part parts ih => simp [ih]

theorem identifiers_orderingOutline :
    q.orderingOutline.flatMap Outline.identifiers = q.orderedNames.flatMap Name.identifiersIn := by
  rw [orderingOutline, orderedNames]
  cases q.ordering with
  | error e => rfl
  | ok fields =>
    cases fields with
    | nil => rfl
    | cons field fields => simp [List.flatMap_map, orderOutline]

theorem identifiers_limitOutline (dialect : Dialect) :
    (q.limitOutline dialect).flatMap Outline.identifiers = [] := by
  rw [limitOutline]
  split
  · simp [List.flatMap_map]
  · rfl

theorem identifiers_selectOutline (dialect : Dialect) :
    (q.selectOutline dialect).identifiers =
      (q.selectedNames ++ q.tableNames ++ q.comparedNames ++ q.orderedNames).flatMap Name.identifiersIn := by
  simp [selectOutline, identifiers_tableOutline, identifiers_conditionOutline, identifiers_orderingOutline,
    identifiers_limitOutline, List.flatMap_map]

theorem identifiers_insertOutline :
    q.insertOutline.identifiers = (q.tableNames ++ columnUnion q.rows).flatMap Name.identifiersIn := by
  simp [insertOutline, identifiers_tableOutline, List.flatMap_map]

theorem identifiers_deleteOutline :
    q.deleteOutline.identifiers = (q.tableNames ++ q.comparedNames).flatMap Name.identifiersIn := by
  simp [deleteOutline, identifiers_tableOutline, identifiers_tailOutline]

theorem identifiers_truncateOutline :
    q.truncateOutline.identifiers = q.tableNames.flatMap Name.identifiersIn := by
  simp [truncateOutline, identifiers_tableOutline]

/-! ### The parts of a statement -/

section

variable {folds : Bool} {hook : Hook} {calls : List (Value × Value)}

theorem answered_tableSql {sql : Sql} (h : (q.tableSql (.snowflake folds (some hook))).Gives sql calls) :
    Answered hook q.context q.tableOutline sql.text calls := by
  rw [tableSql] at h
  split at h
  · obtain ⟨name, hname, hwritten⟩ := Dialect.answered_wrapValue h
    simpa [tableOutline, tableNames, hname] using hwritten
  · cases h.outcome

theorem answered_whereSql {parts : List Sql} (h : (q.whereSql (.snowflake folds (some hook))).Gives parts calls) :
    AnsweredEach hook q.context q.conditionOutline parts calls := by
  unfold whereSql at h
  split at h
  · next hfilter =>
    obtain ⟨rfl, rfl⟩ := gives_pure h
    rw [conditionOutline, hfilter]
    exact .nil
  · cases h.outcome
  · next filter _ hfilter =>
    obtain ⟨condition, first, rest, hcondition, hend, rfl⟩ := gives_bind h
    obtain ⟨hanswered, hnil⟩ := Filter.filled_compile filter hcondition
    rw [conditionOutline, hfilter, Option.elim_some]
    cases condition with
    | nil =>
      obtain ⟨rfl, rfl⟩ := gives_pure hend
      rw [hnil.mpr rfl] at hanswered ⊢
      cases hanswered
      exact .nil
    | cons token condition =>
      obtain ⟨rfl, rfl⟩ := gives_pure hend
      have houtline : filter.outline ≠ [] := fun hnone => List.cons_ne_nil _ _ (hnil.mp hnone)
      split
      · next hnone => exact absurd hnone houtline
      · rw [List.append_nil]
        refine answeredEach_singleton ?_
        rw [Sql.text_append, Sql.text_code]
        exact hanswered.after_text "where "

theorem answered_orderSql {field : Value} {sql : Sql}
    (h : (q.orderSql (.snowflake folds (some hook)) field).Gives sql calls) :
    ∃ name, field.text? = some name ∧ Answered hook q.context (orderOutline name) sql.text calls := by
  obtain ⟨name, first, rest, hname, hend, rfl⟩ := gives_bind h
  obtain ⟨htext, rfl⟩ := gives_liftM hname
  obtain rfl := Value.toName_eq_ok.mp htext
  obtain ⟨written, second, last, hwritten, hjoined, rfl⟩ := gives_bind hend
  obtain ⟨rfl, rfl⟩ := gives_pure hjoined
  refine ⟨name, rfl, ?_⟩
  rw [List.append_nil, orderOutline, Sql.text_append, Sql.text_code]
  exact (Dialect.answered_wrap hwritten).before_text (" " ++ (splitDirection name).2)

theorem answered_orderingSql {parts : List Sql}
    (h : (q.orderingSql (.snowflake folds (some hook))).Gives parts calls) :
    AnsweredEach hook q.context q.orderingOutline parts calls := by
  obtain ⟨fields, first, rest, hfields, hend, rfl⟩ := gives_bind h
  obtain ⟨hordering, rfl⟩ := gives_ofExcept hfields
  rw [orderingOutline, show q.ordering = .ok fields from hordering]
  cases fields with
  | nil =>
    obtain ⟨rfl, rfl⟩ := gives_pure hend
    exact .nil
  | cons field fields =>
    obtain ⟨sqls, each, last, hsqls, hjoined, rfl⟩ := gives_bind hend
    obtain ⟨rfl, rfl⟩ := gives_pure hjoined
    have heach := answeredEach_mapM (fun field _ part calls hpart => answered_orderSql hpart) hsqls
    refine answeredEach_singleton ?_
    rw [Sql.text_append, Sql.text_code, List.nil_append, List.append_nil]
    exact (heach.separated ", ").after_text "order by "

theorem answered_limitSql {parts : List Sql}
    (h : (Recorded.ofExcept (q.limitSql (.snowflake folds (some hook)))).Gives parts calls) :
    AnsweredEach hook q.context (q.limitOutline (.snowflake folds (some hook))) parts calls := by
  obtain ⟨hlimit, rfl⟩ := gives_ofExcept h
  rw [limitOutline, hlimit]
  clear h hlimit
  induction parts with
  | nil => exact .nil
  | cons part parts ih => exact .cons (answered_text part.text) ih

theorem gives_lockSql {parts : List Sql} (h : (q.lockSql (.snowflake folds (some hook))).Gives parts calls) :
    parts = [] ∧ calls = [] := by
  unfold lockSql at h
  cases hlock : q.lock with
  | none =>
    rw [hlock] at h
    exact gives_pure h
  | some lock =>
    rw [hlock] at h
    cases lock <;> exact ⟨(Except.ok.inj h.outcome).symm, h.calls.symm⟩

theorem gives_returningSql {sql : Sql} (h : (q.returningSql (.snowflake folds (some hook))).Gives sql calls) :
    sql = [] ∧ calls = [] := by
  rw [returningSql_of_snowflake] at h
  exact gives_pure h

theorem gives_warnReturning {done : Unit}
    (h : (q.warnReturning (.snowflake folds (some hook))).Gives done calls) : calls = [] := by
  unfold warnReturning at h
  simp only at h
  split at h
  · exact h.calls.symm
  · exact (gives_pure h).2

theorem answered_spaced {context : Value} {outlines : List Outline} {parts : List Sql}
    (h : AnsweredEach hook context outlines parts calls) :
    Answered hook context (outlines.map fun outline => Outline.text " " ++ outline).flatten
      (Sql.text (parts.map fun part => Sql.code " " ++ part).flatten) calls := by
  induction h with
  | nil => exact .nil
  | cons hpart _ ih =>
    rw [List.map_cons, List.map_cons, List.flatten_cons, List.flatten_cons, Sql.text_append, Sql.text_append,
      Sql.text_code]
    exact (hpart.after_text " ").append ih

theorem answered_writeTail {sql : Sql} (h : (q.writeTail (.snowflake folds (some hook))).Gives sql calls) :
    Answered hook q.context q.tailOutline sql.text calls := by
  obtain ⟨condition, first, rest, hcondition, hrest, rfl⟩ := gives_bind h
  obtain ⟨returning, second, last, hreturning, hlast, rfl⟩ := gives_bind hrest
  obtain ⟨⟨⟩, warned, joined, hwarn, hjoined, rfl⟩ := gives_bind hlast
  obtain ⟨rfl, rfl⟩ := gives_pure hjoined
  obtain ⟨rfl, rfl⟩ := gives_returningSql hreturning
  obtain rfl := gives_warnReturning hwarn
  simp only [List.append_nil]
  exact answered_spaced (answered_whereSql hcondition)

/-! ### Statements -/

/-- The calls that the identifiers of these names ask for. -/
def callsFor (names : List String) (context : Value) : List (Value × Value) :=
  (names.flatMap Name.identifiersIn).map fun identifier => (.text identifier, context)

theorem callsFor_append (names names' : List String) (context : Value) :
    callsFor (names ++ names') context = callsFor names context ++ callsFor names' context := by
  rw [callsFor, List.flatMap_append, List.map_append]
  rfl

theorem calls_eq_of_answered {outline : Outline} {text : String} {names : List String}
    (h : Answered hook q.context outline text calls)
    (hnames : outline.identifiers = names.flatMap Name.identifiersIn) : calls = callsFor names q.context := by
  rw [h.calls_eq, hnames, callsFor]

theorem answered_selectSql {sql : Sql} (h : (q.selectSql (.snowflake folds (some hook))).Gives sql calls) :
    Answered hook q.context (q.selectOutline (.snowflake folds (some hook))) sql.text calls := by
  obtain ⟨given, givenCalls, rest₁, hgiven, h₁, rfl⟩ := gives_bind h
  obtain ⟨columns, columnCalls, rest₂, hcolumns, h₂, rfl⟩ := gives_bind h₁
  obtain ⟨table, tableCalls, rest₃, htable, h₃, rfl⟩ := gives_bind h₂
  obtain ⟨condition, conditionCalls, rest₄, hcondition, h₄, rfl⟩ := gives_bind h₃
  obtain ⟨ordering, orderingCalls, rest₅, hordering, h₅, rfl⟩ := gives_bind h₄
  obtain ⟨limit, limitCalls, rest₆, hlimit, h₆, rfl⟩ := gives_bind h₅
  obtain ⟨lock, lockCalls, rest₇, hlock, h₇, rfl⟩ := gives_bind h₆
  obtain ⟨rfl, rfl⟩ := gives_pure h₇
  obtain ⟨hnames, rfl⟩ := gives_ofExcept hgiven
  obtain ⟨rfl, rfl⟩ := gives_lockSql hlock
  have hselected : q.selectedNames = (columnsOrAll given).filterMap Value.text? := by
    rw [selectedNames, show q.columns = .ok given from hnames]
    rfl
  have hhead : AnsweredEach hook q.context
      [Outline.text "select " ++ separated ", " (q.selectedNames.map ofName), Outline.text "from", q.tableOutline]
      [Sql.code "select " ++ columns, Sql.code "from", table] (columnCalls ++ ([] ++ (tableCalls ++ []))) := by
    refine .cons ?_ (.cons (by simpa using answered_text "from") (.cons (answered_tableSql htable) .nil))
    rw [hselected, Sql.text_append, Sql.text_code]
    exact (Dialect.answered_columnize hcolumns).after_text "select "
  have hparts := ((hhead.append (answered_whereSql hcondition)).append (answered_orderingSql hordering)).append
    (answered_limitSql hlimit)
  simpa [selectOutline, List.append_assoc] using hparts.separated " "

theorem answered_insertRowsSql {table sql : Sql} {tableCalls : List (Value × Value)}
    (htable : Answered hook q.context q.tableOutline table.text tableCalls) (hcolumns : columnUnion q.rows ≠ [])
    (h : (q.insertRowsSql (.snowflake folds (some hook)) table q.rows).Gives sql calls) :
    Answered hook q.context q.insertOutline sql.text (tableCalls ++ calls) := by
  rw [insertRowsSql_columns q hcolumns] at h
  obtain ⟨names, first, rest, hnames, hrest, rfl⟩ := gives_bind h
  obtain ⟨returning, second, last, hreturning, hlast, rfl⟩ := gives_bind hrest
  obtain ⟨⟨⟩, warned, joined, hwarn, hjoined, rfl⟩ := gives_bind hlast
  obtain ⟨rfl, rfl⟩ := gives_pure hjoined
  obtain ⟨rfl, rfl⟩ := gives_returningSql hreturning
  obtain rfl := gives_warnReturning hwarn
  have hwritten := Dialect.answered_columnize hnames
  rw [Value.filterMap_text?] at hwritten
  simp only [List.append_nil, Sql.text_append, Sql.text_code]
  exact (((htable.after_text "insert into ").before_text " (").append hwritten).before_text ") values "
    |>.before_text _

theorem answered_insertSql {sql : Sql} (hne : sql ≠ [])
    (h : (q.insertSql (.snowflake folds (some hook))).Gives sql calls) :
    Answered hook q.context q.insertOutline sql.text calls ∧ columnUnion q.rows ≠ [] := by
  obtain ⟨items, first, rest, hitems, hrest, rfl⟩ := gives_bind h
  obtain ⟨hpayload, rfl⟩ := gives_ofExcept hitems
  cases items with
  | nil => exact absurd (gives_pure hrest).1 hne
  | cons item items =>
    obtain ⟨table, second, last, htable, hlast, rfl⟩ := gives_bind hrest
    obtain ⟨rows, third, written, hrows, hwritten, rfl⟩ := gives_bind hlast
    obtain ⟨hvalues, rfl⟩ := gives_ofExcept hrows
    obtain rfl : q.rows = rows := rows_eq_of_ofValues hpayload hvalues
    by_cases hcolumns : columnUnion q.rows = []
    · rw [insertRowsSql_empty q hcolumns] at hwritten
      exact absurd (Except.ok.inj hwritten.outcome).symm hne
    · have hanswered := answered_insertRowsSql (answered_tableSql htable) hcolumns hwritten
      exact ⟨by simpa using hanswered, hcolumns⟩

theorem answered_assignmentSql {assignment : Value × Value} {sql : Sql}
    (h : (q.assignmentSql (.snowflake folds (some hook)) assignment).Gives sql calls) :
    ∃ named, assignment.1.text?.map (·, assignment.2) = some named ∧
      Answered hook q.context (assignmentOutline named) sql.text calls := by
  obtain ⟨column, first, rest, hcolumn, hend, rfl⟩ := gives_bind h
  obtain ⟨rfl, rfl⟩ := gives_pure hend
  obtain ⟨name, hname, hwritten⟩ := Dialect.answered_wrapValue hcolumn
  refine ⟨(name, assignment.2), by rw [hname]; rfl, ?_⟩
  rw [List.append_nil, Sql.text_append, Sql.text_append, Sql.text_code]
  exact (hwritten.before_text " = ").before_text _

/-- The assignments of an update are written before its table, but stand behind it. -/
theorem answered_updateSql {sql : Sql} (h : (q.updateSql (.snowflake folds (some hook))).Gives sql calls) :
    calls = callsFor (q.assignments.map (·.1) ++ q.tableNames ++ q.comparedNames) q.context ∧
      ∃ answered, Answered hook q.context q.updateOutline sql.text answered ∧ calls.Perm answered := by
  unfold updateSql at h
  split at h
  · cases h.outcome
  · split at h
    · next entries hentries =>
      obtain ⟨assignments, assigned, rest₁, hassignments, h₁, rfl⟩ := gives_bind h
      obtain ⟨table, tableCalls, rest₂, htable, h₂, rfl⟩ := gives_bind h₁
      obtain ⟨tail, tailCalls, rest₃, htail, h₃, rfl⟩ := gives_bind h₂
      obtain ⟨rfl, rfl⟩ := gives_pure h₃
      have heach : AnsweredEach hook q.context (q.assignments.map assignmentOutline) assignments assigned := by
        rw [Query.assignments, hentries]
        exact answeredEach_mapM (fun entry _ part calls hpart => answered_assignmentSql hpart) hassignments
      have hassigned := heach.separated ", "
      have htableAnswered := answered_tableSql htable
      have htailAnswered := answered_writeTail htail
      have hanswered := (((htableAnswered.after_text "update ").before_text " set ").append hassigned).append
        htailAnswered
      have hcalls : assigned ++ (tableCalls ++ tailCalls) =
          callsFor (q.assignments.map (·.1) ++ q.tableNames ++ q.comparedNames) q.context := by
        rw [List.append_assoc, callsFor_append, callsFor_append,
          ← calls_eq_of_answered htableAnswered identifiers_tableOutline,
          ← calls_eq_of_answered htailAnswered identifiers_tailOutline,
          ← calls_eq_of_answered hassigned (by simp [assignmentOutline, List.flatMap_map])]
      rw [List.append_nil]
      refine ⟨hcalls, tableCalls ++ assigned ++ tailCalls, ?_, ?_⟩
      · simp only [Sql.text_append, Sql.text_code]
        exact hanswered
      · rw [← List.append_assoc]
        exact List.perm_append_comm.append_right tailCalls
    · cases h.outcome

theorem answered_deleteSql {sql : Sql} (h : (q.deleteSql (.snowflake folds (some hook))).Gives sql calls) :
    Answered hook q.context q.deleteOutline sql.text calls := by
  obtain ⟨table, first, rest, htable, hrest, rfl⟩ := gives_bind h
  obtain ⟨tail, second, last, htail, hjoined, rfl⟩ := gives_bind hrest
  obtain ⟨rfl, rfl⟩ := gives_pure hjoined
  simp only [List.append_nil, Sql.text_append, Sql.text_code]
  exact ((answered_tableSql htable).after_text "delete from ").append (answered_writeTail htail)

theorem answered_truncateSql {sql : Sql} (h : (q.truncateSql (.snowflake folds (some hook))).Gives sql calls) :
    Answered hook q.context q.truncateOutline sql.text calls := by
  obtain ⟨table, first, rest, htable, hjoined, rfl⟩ := gives_bind h
  obtain ⟨rfl, rfl⟩ := gives_pure hjoined
  simp only [List.append_nil, Sql.text_append, Sql.text_code]
  exact (answered_tableSql htable).after_text "truncate "

/-- What is written with a hook is the outline with the answers of the hook, which is called for the names of
the query in the order in which the parts of the statement are made. -/
theorem answered_sql {sql : Sql} (hne : sql ≠ [])
    (h : (q.sql (.snowflake folds (some hook))).Gives sql calls) :
    calls = callsFor (q.names (.snowflake folds (some hook))) q.context ∧
      ∃ answered, Answered hook q.context (q.outline (.snowflake folds (some hook))) sql.text answered ∧
        calls.Perm answered := by
  have hreturned : q.returnedNames (.snowflake folds (some hook)) = [] := rfl
  rw [Query.sql] at h
  rw [outline, names]
  cases hmethod : q.method with
  | select | first | pluck =>
    simp only [hmethod] at h ⊢
    have hanswered := answered_selectSql h
    exact ⟨calls_eq_of_answered hanswered (identifiers_selectOutline _), calls, hanswered, .refl calls⟩
  | insert =>
    simp only [hmethod] at h ⊢
    obtain ⟨hanswered, hcolumns⟩ := answered_insertSql hne h
    rw [insertedNames, if_neg (rows_ne_nil_of_columnUnion hcolumns), if_neg hcolumns, hreturned, List.append_nil]
    exact ⟨calls_eq_of_answered hanswered identifiers_insertOutline, calls, hanswered, .refl calls⟩
  | update =>
    simp only [hmethod] at h ⊢
    rw [hreturned, List.append_nil]
    exact answered_updateSql h
  | delete =>
    simp only [hmethod] at h ⊢
    have hanswered := answered_deleteSql h
    rw [hreturned, List.append_nil]
    exact ⟨calls_eq_of_answered hanswered identifiers_deleteOutline, calls, hanswered, .refl calls⟩
  | truncate =>
    simp only [hmethod] at h ⊢
    have hanswered := answered_truncateSql h
    exact ⟨calls_eq_of_answered hanswered identifiers_truncateOutline, calls, hanswered, .refl calls⟩
  | raw | schema | other name =>
    rw [hmethod] at h
    cases h.outcome

/-- A statement is the outline of its query with the answers of the hook in the open places. The hook is called
once for each identifier in the names of the query, with the context of the query, and for nothing else. -/
theorem compile_hooked {statement : Statement}
    (h : (q.compile (.snowflake folds (some hook))).outcome = .ok statement) (hne : statement.sql ≠ .text "") :
    (q.compile (.snowflake folds (some hook))).calls =
        callsFor (q.names (.snowflake folds (some hook))) q.context ∧
      ∃ text answered, statement.sql = .text text ∧
        Answered hook q.context (q.outline (.snowflake folds (some hook))) text answered ∧
        (q.compile (.snowflake folds (some hook))).calls.Perm answered := by
  obtain ⟨sql, first, rest, hsql, hend, hcalls⟩ := gives_bind (gives_of_outcome h)
  obtain ⟨rfl, rfl⟩ := gives_pure hend
  have hpieces : sql ≠ [] := by
    rintro rfl
    exact hne rfl
  obtain ⟨hnames, answered, hanswered, hperm⟩ := answered_sql hpieces hsql
  have hsame : (q.compile (.snowflake folds (some hook))).calls = first := by
    rw [← List.append_nil first]
    exact hcalls
  rw [hsame]
  exact ⟨hnames, sql.text, answered, rfl, hanswered, hperm⟩

end

/-- Sets a dotted column and a quoted one of an aliased table, under a condition that is negated and nested. -/
def tenantUpdate : Query :=
  { table := .text "db.t as u", method := .update
    payload := .dict [(.text "u.a", .int 1), (.text "\"b\"", .raw "now()")]
    filter := some (.node .and true
      [.lookup "c__gt" (.int 2), .node .or false [.lookup "u.d" .null, .node .and false []]])
    context := .text "acme" }

theorem tenantUpdate_hooked :
    ∃ statement, (tenantUpdate.compile (.snowflake true (some Hook.prefixed))).outcome = .ok statement ∧
      statement.sql ≠ .text "" ∧
      (tenantUpdate.compile (.snowflake true (some Hook.prefixed))).calls =
        callsFor (tenantUpdate.names (.snowflake true (some Hook.prefixed))) tenantUpdate.context ∧
      ∃ text answered, statement.sql = .text text ∧
        Answered Hook.prefixed tenantUpdate.context
          (tenantUpdate.outline (.snowflake true (some Hook.prefixed))) text answered ∧
        (tenantUpdate.compile (.snowflake true (some Hook.prefixed))).calls.Perm answered := by
  have hwritten : ∀ sql : String, sql ≠ "" → Value.text sql ≠ .text "" := fun sql hsql heq => hsql (Value.text.inj heq)
  exact ⟨_, rfl, hwritten _ (by decide), compile_hooked rfl (hwritten _ (by decide))⟩

example : (tenantUpdate.compile (.snowflake true (some Hook.prefixed))).calls =
    ["u", "a", "\"b\"", "db", "t", "u", "c", "u", "d"].map fun name => (.text name, .text "acme") := rfl

end SqlBuilder.Query
