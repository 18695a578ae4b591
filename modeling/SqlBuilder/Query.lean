import SqlBuilder.Error
import SqlBuilder.Filter
import SqlBuilder.Statement

/-!
Queries under construction. Every call gives a new query and leaves the old one as it was.
-/

namespace SqlBuilder

inductive Lock where
  | update | share
deriving DecidableEq, Repr

/-- The columns of a row and their values. -/
abbrev Row := List (String × Value)

namespace Row

/-- A row as callers give it. -/
def toValue (row : Row) : Value :=
  .dict (row.map fun (column, value) => (.text column, value))

end Row

/-- Names as they were given, texts or not. A value in their place that holds none is the error that it
leads to where they are written. -/
abbrev Names := Except Error (List Value)

namespace Names

def areGiven : Names → Bool
  | .ok [] => false
  | _ => true

end Names

/-- What was asked for, as it was given: nothing is looked at before the query is compiled. The payload of
an insert is a collection of rows, that of an update a mapping from columns to values. -/
structure Query where
  table : Value := .null
  method : Method := .select
  columns : Names := .ok []
  filter : Option Filter := none
  ordering : Names := .ok []
  limit : Value := .null
  offset : Value := .null
  payload : Value := .null
  returning : Names := .ok []
  lock : Option Lock := none
  pluck : Value := .null
  context : Value := .null
  options : Value := .null

namespace Query

def on (table : Value) : Query :=
  { table }

def select (columns : List Value) (q : Query) : Query :=
  { q with method := .select, columns := q.columns.map (· ++ columns) }

def first (columns : List Value) (q : Query) : Query :=
  { q with method := .first, columns := q.columns.map (· ++ columns) }

def pluckColumn (column : Value) (q : Query) : Query :=
  { q with method := .pluck, columns := .ok [column], pluck := column }

/-- The new condition has to hold besides those before it. -/
def whereFilter (filter : Filter) (q : Query) : Query :=
  match q.filter with
  | none => { q with filter := some filter }
  | some old =>
    { q with filter := some (if old.isEmpty then filter else Filter.combine .and old filter) }

def filterBy (lookups : Row) (q : Query) : Query :=
  q.whereFilter (Filter.all [] lookups)

def exclude (lookups : Row) (q : Query) : Query :=
  q.whereFilter (Filter.all [] lookups).negate

def orderBy (fields : List Value) (q : Query) : Query :=
  { q with ordering := .ok fields }

def limitTo (limit : Value) (q : Query) : Query :=
  { q with limit }

def startAt (offset : Value) (q : Query) : Query :=
  { q with offset }

def lockFor (lock : Lock) (q : Query) : Query :=
  { q with lock := some lock }

def insert (rows : List Value) (returning : List Value) (q : Query) : Query :=
  { q with method := .insert, payload := .list rows, returning := .ok returning }

def update (values : List (Value × Value)) (returning : List Value) (q : Query) : Query :=
  { q with method := .update, payload := .dict values, returning := .ok returning }

def delete (returning : List Value) (q : Query) : Query :=
  { q with method := .delete, returning := .ok returning }

def truncate (q : Query) : Query :=
  { q with method := .truncate }

def inContext (context : Value) (q : Query) : Query :=
  { q with context }

def withOptions (options : List (Value × Value)) (q : Query) : Query :=
  let old := q.options.entries?.getD []
  { q with options := .dict (options.foldl (fun all o => Value.setEntry o.1 o.2 all) old) }

end Query

end SqlBuilder
