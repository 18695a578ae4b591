import SqlBuilder.Call
import SqlBuilder.Query
import SqlBuilder.Value.Mapping

/-!
Queries built by calls, and queries given by their fields.
-/

namespace SqlBuilder

namespace Query

open Parameter

def returningParameter : Parameter :=
  optional "returning" (.tuple [])

/-- A single row, or a collection of rows. -/
def rowsOf : Value → Except Error (List Value)
  | .dict entries => .ok [.dict entries]
  | rows => rows.toItems

/-- Calls of the operations on queries; a call with a filter of its own is not among them. -/
def call (c : Call) (q : Query) : Except Error Query := do
  match c.name with
  | "select" => return q.select (← c.positional)
  | "first" => return q.first (← c.positional)
  | "order_by" => return q.orderBy (← c.positional)
  | "filter" => return q.filterBy (← c.keywords)
  | "exclude" => return q.exclude (← c.keywords)
  | "options" => return q.withOptions ((← c.keywords).map fun (name, value) => (.text name, value))
  | "pluck" => return q.pluckColumn (← c.one (required "column"))
  | "limit" => return q.limitTo (← c.one (required "value"))
  | "offset" => return q.startAt (← c.one (required "value"))
  | "query_context" => return q.inContext (← c.one (required "context"))
  | "for_update" => do c.checkEmpty; return q.lockFor .update
  | "for_share" => do c.checkEmpty; return q.lockFor .share
  | "truncate" => do c.checkEmpty; return q.truncate
  | "insert" => do
    let (rows, returning) ← c.two (required "rows") returningParameter
    return q.insert (← rowsOf rows) (← returning.toItems)
  | "update" => do
    let (values, returning) ← c.two (required "values") returningParameter
    return q.update (← values.toMapping) (← returning.toItems)
  | "delete" => return q.delete (← (← c.one returningParameter).toItems)
  | _ => throw .noAttribute

/-! ### Fields -/

def methodOf : Value → Except Error Method
  | .text name => .ok (.ofName name)
  | value => if value.isKey then .ok (.other value.shown) else .error .wrongType

def lockOf : Value → Option Lock
  | .text "update" => some .update
  | .text "share" => some .share
  | _ => none

def filterOf : Value → Option Filter
  | .null => none
  | value => some (.other value)

def setField (q : Query) (name : String) (value : Value) : Except Error Query := do
  match name with
  | "table" => return { q with table := value }
  | "method" => return { q with method := ← methodOf value }
  | "columns" => return { q with columns := value.toItemsIfTrue }
  | "where" => return { q with filter := filterOf value }
  | "ordering" => return { q with ordering := value.toItemsIfTrue }
  | "returning" => return { q with returning := value.toItemsIfTrue }
  | "limit" => return { q with limit := value }
  | "offset" => return { q with offset := value }
  | "context" => return { q with context := value }
  | "pluck" => return { q with pluck := value }
  | "values" => return { q with payload := value }
  | "lock" => return { q with lock := lockOf value }
  | "options" => return { q with options := value }
  | _ => throw .wrongType

/-- A filter wins over a field in its place. -/
def ofFields (fields : List (String × Value)) (filter : Option Filter) : Except Error Query := do
  let q : Query ← fields.foldlM (fun q (name, value) => q.setField name value) {}
  return { q with filter := filter.or q.filter }

end Query

end SqlBuilder
