import SqlBuilder.Value

/-!
Filters: trees of conditions on columns, joined by `and` and `or` and negated. A node without children
says nothing, negated or not.
-/

namespace SqlBuilder

inductive Connector where
  | and | or
deriving DecidableEq, Repr

def Connector.word : Connector → String
  | .and => "and"
  | .or => "or"

/-- A lookup compares a column with an operand; its key is the column, or the column and the name of a
comparison. A value that is no pair of a text and an operand may stand in a tree, too. -/
inductive Filter where
  | lookup (key : String) (operand : Value)
  | other (value : Value)
  | node (connector : Connector) (negated : Bool) (children : List Filter)
deriving Inhabited

namespace Filter

/-- A pair of a text and an operand is a lookup. -/
def ofValue : Value → Filter
  | .tuple [.text key, operand] => .lookup key operand
  | value => .other value

/-- All children have to hold. -/
def all (children : List Filter) (lookups : List (String × Value)) : Filter :=
  .node .and false (children ++ lookups.map fun (key, operand) => .lookup key operand)

def isEmpty : Filter → Bool
  | .node _ _ children => children.isEmpty
  | _ => false

def negate : Filter → Filter
  | .node connector negated children => .node connector (!negated) children
  | filter => .node .and true [filter]

/-- An empty side gives way to the other one. -/
def combine (connector : Connector) (x y : Filter) : Filter :=
  if x.isEmpty then y
  else if y.isEmpty then x
  else .node connector false [x, y]

mutual

def equals : Filter → Filter → Bool
  | .lookup k v, .lookup l w => k == l && v.equals w
  | .other v, .other w => v.equals w
  | .node c n xs, .node d m ys => c == d && n == m && equalsEach xs ys
  | _, _ => false
termination_by structural x => x

def equalsEach : List Filter → List Filter → Bool
  | [], [] => true
  | x :: xs, y :: ys => equals x y && equalsEach xs ys
  | _, _ => false
termination_by structural xs => xs

end

end Filter

end SqlBuilder
