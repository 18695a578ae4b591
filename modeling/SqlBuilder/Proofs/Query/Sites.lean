import SqlBuilder.Proofs.Filter.Placement
import SqlBuilder.Proofs.Query.Condition

/-!
What a query has written for it, and where its values belong: the names, the values and their sites, all
read off the query and not off the statement.
-/

namespace SqlBuilder

open Sql

/-- The texts among what was given as names. -/
def Names.texts : Names → List String
  | .ok values => values.filterMap Value.text?
  | .error _ => []

namespace Query

/-! ### What a query writes -/

def tableNames (q : Query) : List String :=
  q.table.text?.toList

def selectedNames (q : Query) : List String :=
  Names.texts (q.columns.map columnsOrAll)

def orderedNames (q : Query) : List String :=
  q.ordering.texts.map fun field => (splitDirection field).1

def comparedNames (q : Query) : List String :=
  q.lookups.map fun lookup => (Filter.splitKey lookup.1).1

def returnedNames (dialect : Dialect) (q : Query) : List String :=
  if dialect.supportsReturning then q.returning.texts else []

/-- The assignments of an update. -/
def assignments (q : Query) : List (String × Value) :=
  match q.payload with
  | .dict entries => entries.filterMap fun entry => entry.1.text?.map (·, entry.2)
  | _ => []

/-- The rows of an insert. -/
def rows (q : Query) : List Row :=
  match q.payload.toItemsIfTrue.bind Row.ofValues with
  | .ok rows => rows
  | .error _ => []

theorem rows_eq_of_ofValues {q : Query} {items : List Value} {rows : List Row}
    (hitems : q.payload.toItemsIfTrue = .ok items) (hrows : Row.ofValues items = .ok rows) :
    q.rows = rows := by
  have hbind : q.payload.toItemsIfTrue.bind Row.ofValues = .ok rows := by
    rw [hitems]
    exact hrows
  rw [Query.rows, hbind]

/-- Without rows nothing is written, and without columns no more than the table. -/
def insertedNames (dialect : Dialect) (q : Query) : List String :=
  if q.rows = [] then []
  else if columnUnion q.rows = [] then q.tableNames
  else q.tableNames ++ columnUnion q.rows ++ q.returnedNames dialect

/-- The names that a query writes: all that is quoted for it are the atoms of these and their aliases. -/
def names (dialect : Dialect) (q : Query) : List String :=
  match q.method with
  | .select | .first | .pluck => q.selectedNames ++ q.tableNames ++ q.comparedNames ++ q.orderedNames
  | .insert => q.insertedNames dialect
  | .update => q.assignments.map (·.1) ++ q.tableNames ++ q.comparedNames ++ q.returnedNames dialect
  | .delete => q.tableNames ++ q.comparedNames ++ q.returnedNames dialect
  | .truncate => q.tableNames
  | _ => []

/-- The values that a query was given for its statement. -/
def values (q : Query) : List Value :=
  match q.method with
  | .select | .first | .pluck | .delete => q.lookups.map (·.2)
  | .insert => q.rows.flatMap fun row => row.map (·.2)
  | .update => q.assignments.map (·.2) ++ q.lookups.map (·.2)
  | _ => []

/-! ### Where its values are bound -/

def conditionSites (dialect : Dialect) (q : Query) : List Site :=
  q.lookups.flatMap (Filter.lookupSites dialect)

def assignedSql (dialect : Dialect) (assignment : String × Value) : Sql :=
  dialect.written assignment.1 ++ code " = " ++ [.slot assignment.2]

/-- The assignments of an update, each told by those before it and by its column. -/
def assignmentSites (dialect : Dialect) (assignments : List (String × Value)) : List Site :=
  Site.ofList (assignedSql dialect)
    (fun lead assignment =>
      [.listed (lead ++ ((dialect.written assignment.1).text ++ " = ")) assignment.2])
    " set " assignments

/-- The cells of a row, each told by those before it. -/
def cellSites (row : Row) (lead : String) (columns : List String) : List Site :=
  Site.ofList (cellSql row)
    (fun lead column =>
      match row.lookup column with
      | some value => [.listed lead value]
      | none => [])
    lead columns

/-- The rows of an insert, each told by the columns and by the rows before it. -/
def rowSites (dialect : Dialect) (columns : List String) (rows : List Row) : List Site :=
  Site.ofList (tupleSql columns) (fun lead row => cellSites row (lead ++ "(") columns)
    (" (" ++ (dialect.writtenList columns).text ++ ") values ") rows

def sites (dialect : Dialect) (q : Query) : List Site :=
  match q.method with
  | .select | .first | .pluck | .delete => q.conditionSites dialect
  | .insert => rowSites dialect (columnUnion q.rows) q.rows
  | .update => assignmentSites dialect q.assignments ++ q.conditionSites dialect
  | _ => []

end Query

end SqlBuilder
