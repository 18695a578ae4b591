import SqlBuilder.Value.Reading

/-!
Placeholders in the text of a statement: the marks that a driver replaces by bound values, which are
those outside quotes.
-/

namespace SqlBuilder.Placeholder

def mark : Char := '?'

/-- The quote that is open after a character, given the one before it. A quote written twice closes and
opens again, so it needs no rule of its own. -/
def openQuote (quote : Option Char) (c : Char) : Option Char :=
  match quote with
  | some q => if c = q then none else some q
  | none => if c = '\'' ∨ c = '"' then some c else none

def countFrom (quote : Option Char) : List Char → Nat
  | [] => 0
  | c :: rest => (if quote = none ∧ c = mark then 1 else 0) + countFrom (openQuote quote c) rest

def count (sql : String) : Nat :=
  countFrom none sql.toList

/-- A member of a collection that is read in the place of a text; only single characters count. -/
def charOf : Value → Char
  | .text s =>
    match s.toList with
    | [c] => c
    | _ => ' '
  | _ => ' '

/-- The placeholders in what was given as SQL. -/
def countIn : Value → Except Error Nat
  | .text sql => .ok (count sql)
  | sql => return countFrom none ((← sql.toItems).map charOf)

/-- Every placeholder has exactly one value bound to it. -/
def check (sql : Value) (bindings : List Value) : Except Error Unit := do
  let expected ← countIn sql
  if expected ≠ bindings.length then throw (.parameterCount expected bindings.length)

end SqlBuilder.Placeholder
