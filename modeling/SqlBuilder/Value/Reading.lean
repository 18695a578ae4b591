import SqlBuilder.Error

/-!
Values read as what they are used for: as names, and as collections.
-/

namespace SqlBuilder.Value

/-- Only a text is a name. A byte string can be handled like a text, until it meets one. -/
def toName : Value → Except Error String
  | .text s => .ok s
  | .bytes _ => .error .wrongType
  | _ => .error .noAttribute

def toItems (value : Value) : Except Error (List Value) :=
  value.items?.elim (.error .wrongType) .ok

/-- The members of a collection; a value that counts as false has none. -/
def toItemsIfTrue (value : Value) : Except Error (List Value) :=
  if value.isTrue then value.toItems else .ok []

/-- A single name, or a collection of names. -/
def toNames : Value → Except Error (List Value)
  | .text name => .ok [.text name]
  | value => value.toItems

end SqlBuilder.Value
