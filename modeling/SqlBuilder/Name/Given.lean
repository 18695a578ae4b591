import SqlBuilder.Name.Reference
import SqlBuilder.Value.Reading

/-!
Names in whatever form they were given. A name should be a text, and for texts everything here is what it
is in `Name.Quoting` and `Name.Reference`; other values fail where they first show that they are none.
-/

namespace SqlBuilder

/-- A way of quoting identifiers, and what becomes of identifiers that are no texts. -/
structure Quoting where
  text : String → String
  other : Value → Except Error Value

namespace Quoting

def apply (quoting : Quoting) : Value → Except Error Value
  | .text name => .ok (.text (quoting.text name))
  | value => quoting.other value

/-- The length of an identifier is asked for first, and of other values only collections have one. -/
def refuse : Value → Error
  | .list _ => .noAttribute
  | .tuple _ => .noAttribute
  | .dict _ => .noAttribute
  | _ => .wrongType

def usual : Quoting :=
  ⟨Name.quote, fun value => .error (refuse value)⟩

def bracket : Quoting :=
  ⟨fun name => "[" ++ name ++ "]", fun value => .ok (.text ("[" ++ value.shown ++ "]"))⟩

def identity : Quoting :=
  ⟨id, .ok⟩

end Quoting

namespace Name

/-- Takes off the quotes. Short collections cannot have any; longer ones do not know. -/
def unquoteValue : Value → Except Error Value
  | .text name => .ok (.text (unquote name))
  | .bytes bs => if bs.length < 2 then .ok (.bytes bs) else .error .wrongType
  | value =>
    match value.items? with
    | none => .error .wrongType
    | some items => if items.length < 2 then .ok value else .error .noAttribute

/-! ### Atoms -/

/-- A text is read character by character, any other collection of texts member by member. -/
def pieces (reference : Value) : Except Error (List String) := do
  (← reference.toItems).mapM fun piece => piece.text?.elim (.error .wrongType) .ok

/-- Atoms between the pieces that are dots, as `splitAtoms` finds them between characters. -/
def splitPieces (quoted : Bool) : List String → List String
  | [] => [""]
  | piece :: rest =>
    let quoted := if piece = String.singleton quoteMark then !quoted else quoted
    if piece = "." ∧ quoted = false then "" :: splitPieces quoted rest
    else
      match splitPieces quoted rest with
      | [] => [piece]
      | atom :: atoms => (piece ++ atom) :: atoms

def atomsOf : Value → Except Error (List String)
  | .text reference => .ok (atoms reference)
  | reference => return splitPieces false (← pieces reference)

/-- The last atom, which names the thing itself; those before it name where it lies. -/
def lastAtomOf (reference : Value) : Except Error String := do
  return (← atomsOf reference).getLast?.getD ""

end Name

end SqlBuilder
