import SqlBuilder.Error

/-!
Values read as mappings: mappings themselves, and collections of pairs.
-/

namespace SqlBuilder.Value

def pairOf (index : Nat) (item : Value) : Except Error (Value × Value) :=
  match item.items? with
  | none => .error .wrongType
  | some [key, value] => if key.isKey then .ok (key, value) else .error .wrongType
  | some items => .error (.pairSize index items.length)

def pairsOf (index : Nat) : List Value → Except Error (List (Value × Value))
  | [] => .ok []
  | item :: items => do
    let pair ← pairOf index item
    return pair :: (← pairsOf (index + 1) items)

/-- A later pair replaces an earlier one with an equal key. -/
def toMapping : Value → Except Error (List (Value × Value))
  | .dict entries => .ok entries
  | value =>
    match value.items? with
    | none => .error .wrongType
    | some items => return ofEntries (← pairsOf 0 items)

end SqlBuilder.Value
