import SqlBuilder.Query
import SqlBuilder.Text.Split
import SqlBuilder.Value.Order
import SqlBuilder.Value.Reading

/-!
The rows of an insert. A row is a mapping from columns to values; an empty collection passes as a row
without columns. Anything else in the place of a row names columns of its own, too, and is refused, each
for the first reason that shows when the cells are looked up.
-/

namespace SqlBuilder.Row

/-- What a row names as its columns: a mapping its keys, another collection its members. -/
def columnsOf (row : Value) : Except Error (List Value) := do
  let columns ← row.toItems
  if columns.all Value.isKey then return columns else throw .wrongType

/-- A member of a collection of this size is found by its number, from either end. -/
def checkPosition (size : Nat) (position : Value) : Except Error Unit :=
  match position.integral? with
  | none => .error .wrongType
  | some n => if -(size : Int) ≤ n ∧ n < size then .ok () else .error .indexOutOfRange

/-- A byte string holds bytes. -/
def checkByte (bytes : List UInt8) (column : Value) : Except Error Unit :=
  match column.integral? with
  | none => .error .wrongType
  | some n =>
    if n < 0 ∨ 256 ≤ n then .error .byteOutOfRange
    else if bytes.any fun b => (b.toNat : Int) == n then checkPosition bytes.length column
    else .ok ()

/-- Whether the cell of a row in this column can be told: a column that the row holds has to lead to a
value. -/
def checkCell (row column : Value) : Except Error Unit :=
  match row, column with
  | .list xs, column | .tuple xs, column =>
    if xs.any (·.equals column) then checkPosition xs.length column else .ok ()
  | .text s, .text part => if Text.occursIn part.toList s.toList then .error .wrongType else .ok ()
  | .text _, _ => .error .wrongType
  | .bytes bs, .bytes part => if Text.occursIn part bs then .error .wrongType else .ok ()
  | .bytes bs, column => checkByte bs column
  | _, _ => .ok ()

def ofEntries (entries : List (Value × Value)) : Except Error Row :=
  entries.mapM fun (key, value) => return (← key.toName, value)

/-- A row whose columns are all names: a collection that is no mapping has none then. -/
def ofValue : Value → Except Error Row
  | .dict entries => ofEntries entries
  | _ => .ok []

/-- Rows in the form in which they are written. The columns of all rows are put in order and looked for in
every row, and then have to be names. -/
def ofValues (rows : List Value) : Except Error (List Row) := do
  let columns := Value.distinct (← rows.mapM columnsOf).flatten
  if !Value.areOrdered columns then throw .wrongType
  rows.forM fun row => (Value.ascending columns).forM (checkCell row)
  columns.forM fun column => discard column.toName
  rows.mapM ofValue

end SqlBuilder.Row
