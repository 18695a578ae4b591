import SqlBuilder.Statement
import SqlBuilder.Text.Case
import SqlBuilder.Value.Written
import SqlBuilder.Error
import SqlBuilder.Text.Split

/-!
Responses of a driver, and the results made of them.
-/

namespace SqlBuilder

structure Response where
  rows : List Value := []
  rowCount : Value := .null

/-- A column as the catalog describes it. -/
structure ColumnInfo where
  type : Value
  maxLength : Value
  nullable : Bool
  default : Value

inductive Result where
  | value (v : Value)
  | response (r : Response)
  | column (info : ColumnInfo)
  | columns (infos : List (Value × ColumnInfo))
  | many (results : List Result)

namespace Row

/-- The value under a key of a mapping. -/
def entry? (entries : List (Value × Value)) (key : Value) : Option Value :=
  (entries.find? fun entry => entry.1.equals key).map (·.2)

/-- The value under a key, whatever the case in which the catalog spells it: as given, in upper case, in
lower case, or in any other. -/
def valueOf (entries : List (Value × Value)) (key : String) : Value :=
  let candidates := [key, Text.upper key, Text.lower key]
  match candidates.findSome? fun candidate => entry? entries (.text candidate) with
  | some value => value
  | none =>
    ((entries.find? fun entry => Text.lower entry.1.shown == Text.lower key).map (·.2)).getD .null

/-- The value under a key that is a byte string, in the case given, in upper case or in lower case. -/
def valueOfBytes (entries : List (Value × Value)) (key : List UInt8) : Value :=
  let candidates := [key, Text.changeBytes Char.toUpper key, Text.changeBytes Char.toLower key]
  (candidates.findSome? fun candidate => entry? entries (.bytes candidate)).getD .null

/-- The cases in which a key is looked for first; only texts and byte strings have any. -/
def cases? : Value → Option (List Value)
  | .text key => some [.text key, .text (Text.upper key), .text (Text.lower key)]
  | .bytes key =>
    some [.bytes key, .bytes (Text.changeBytes Char.toUpper key), .bytes (Text.changeBytes Char.toLower key)]
  | _ => none

/-- Whether a row that is no mapping can be searched for a key and does not hold it. -/
def lacks (row key : Value) : Bool :=
  match row, key with
  | .text s, .text key => !Text.occursIn key.toList s.toList
  | .bytes bs, .bytes key => !Text.occursIn key bs
  | .list xs, key | .tuple xs, key => !xs.any (·.equals key)
  | _, _ => false

/-- The value under a key of a row. What is no mapping fails: where the key is found, or cannot be looked
for, as a value of the wrong kind, and else for want of entries. -/
def get (row key : Value) : Except Error Value :=
  match row, key with
  | .dict entries, .text key => .ok (valueOf entries key)
  | .dict entries, .bytes key => .ok (valueOfBytes entries key)
  | row, key =>
    match cases? key with
    | none => .error .noAttribute
    | some cases => .error (if cases.all (lacks row) then .noAttribute else .wrongType)

end Row

namespace ColumnInfo

def ofRow (row : Value) : Except Error (Value × ColumnInfo) := do
  let type ← Row.get row (.text "data_type")
  let maxLength ← Row.get row (.text "character_maximum_length")
  let nullable ← Row.get row (.text "is_nullable")
  let default ← Row.get row (.text "column_default")
  let name ← Row.get row (.text "column_name")
  if !name.isKey then throw .wrongType
  return (name, { type, maxLength, nullable := nullable.equals (.text "YES"), default })

/-- A later description of the same column replaces an earlier one in its place. -/
def set (name : Value) (info : ColumnInfo) : List (Value × ColumnInfo) → List (Value × ColumnInfo)
  | [] => [(name, info)]
  | entry :: rest =>
    if entry.1.equals name then (entry.1, info) :: rest else entry :: set name info rest

def ofRows (rows : List Value) : Except Error (List (Value × ColumnInfo)) :=
  rows.foldlM (fun infos row => do
    let (name, info) ← ofRow row
    return set name info infos) []

end ColumnInfo

namespace Reshape

def apply (reshape : Reshape) (response : Response) : Except Error Result :=
  match reshape with
  | .hasRows => .ok (.value (.bool (!response.rows.isEmpty)))
  | .columns wanted => do
    let infos ← ColumnInfo.ofRows response.rows
    if !wanted.isKey then throw .wrongType
    let found := infos.find? fun entry => !wanted.isNull && entry.1.equals wanted
    return match found with
      | some entry => .column entry.2
      | none => .columns infos

end Reshape

def pluckRows (column : Value) (rows : List Value) : Except Error (List Value) :=
  rows.mapM (Row.get · column)

/-- What a statement's caller is given for a response. -/
def Statement.result (statement : Statement) (response : Response) : Except Error Result :=
  match statement.reshape with
  | some reshape => reshape.apply response
  | none =>
    match statement.method with
    | .first => .ok (.value (response.rows.head?.getD .null))
    | .pluck => return .value (.list (← pluckRows statement.pluck response.rows))
    | .select => .ok (.value (.list response.rows))
    | .insert | .update | .delete => .ok (.value response.rowCount)
    | _ => .ok (.response response)

end SqlBuilder
