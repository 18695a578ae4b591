import SqlBuilder.Dialect
import SqlBuilder.Filter

/-!
Conditions in SQL: a filter becomes a sequence of tokens, in which every comparison is one operand and
parentheses say what belongs together.
-/

namespace SqlBuilder

/-- The comparisons that a lookup can name. -/
inductive Comparison where
  | exact | notEqual | exactAnyCase | greater | greaterOrEqual | less | lessOrEqual | contains | member
deriving DecidableEq, Repr

namespace Comparison

def named? : String → Option Comparison
  | "exact" => some .exact
  | "ne" => some .notEqual
  | "iexact" => some .exactAnyCase
  | "gt" => some .greater
  | "gte" => some .greaterOrEqual
  | "lt" => some .less
  | "lte" => some .lessOrEqual
  | "contains" => some .contains
  | "in" => some .member
  | _ => none

def operator : Comparison → String
  | .exact => "="
  | .notEqual => "<>"
  | .exactAnyCase => "ilike"
  | .greater => ">"
  | .greaterOrEqual => ">="
  | .less => "<"
  | .lessOrEqual => "<="
  | .contains => "like"
  | .member => "in"

end Comparison

inductive ConditionToken where
  | operand (sql : Sql)
  | not
  | connector (c : Connector)
  | openParen
  | closeParen

abbrev Condition := List ConditionToken

def ConditionToken.sql : ConditionToken → Sql
  | .operand sql => sql
  | .not => Sql.code "not "
  | .connector c => Sql.code (" " ++ c.word ++ " ")
  | .openParen => Sql.code "("
  | .closeParen => Sql.code ")"

namespace Condition

def sql (condition : Condition) : Sql :=
  condition.flatMap ConditionToken.sql

def enclosed (condition : Condition) : Condition :=
  .openParen :: condition ++ [.closeParen]

end Condition

namespace Filter

/-- Column and name of the comparison; the two stand on the sides of the first double underscore. -/
def splitKey (key : String) : String × String :=
  match Text.cutAtMark? ['_', '_'] key.toList with
  | some (column, comparison) => (String.ofList column, String.ofList comparison)
  | none => (key, "exact")

/-- Null is compared by `is` alone. -/
def nullTest (lookup : String) : Except Error Sql :=
  if lookup = "exact" then .ok (Sql.code " is null")
  else if lookup = "ne" then .ok (Sql.code " is not null")
  else .error .nullComparison

def membershipTest (operand : Value) : Except Error Sql :=
  match operand.items? with
  | none => .error .wrongType
  | some [] => .error .membershipEmpty
  | some items =>
    .ok (Sql.code " in (" ++ Sql.separated ", " (items.map fun item => [.slot item]) ++ Sql.code ")")

def operandSql (comparison : Comparison) : Value → Sql
  | .raw sql => [.raw sql]
  | operand =>
    if comparison = .contains then [.slot (.text ("%" ++ operand.shown ++ "%"))] else [.slot operand]

/-- What follows the column in a comparison. -/
def comparisonTest (lookup : String) (operand : Value) : Except Error Sql :=
  match operand with
  | .null => nullTest lookup
  | operand =>
    match Comparison.named? lookup with
    | none => .error (.lookupUnsupported lookup)
    | some .member => membershipTest operand
    | some comparison =>
      .ok (Sql.code (" " ++ comparison.operator ++ " ") ++ operandSql comparison operand)

def compileLookup (dialect : Dialect) (context : Value) (key : String) (operand : Value) :
    Recorded Sql := do
  let (column, comparison) := splitKey key
  let column ← dialect.wrap column context
  let test ← Recorded.ofExcept (comparisonTest comparison operand)
  return column ++ test

/-- Only pairs are conditions: another tuple is a mistake, and any other value says nothing. -/
def checkOther : Value → Except Error Unit
  | .tuple [.list _, _] => .error .noAttribute
  | .tuple [.tuple _, _] => .error .noAttribute
  | .tuple [.dict _, _] => .error .noAttribute
  | .tuple [_, _] => .error .wrongType
  | .tuple xs => .error (.lookupSize xs.length)
  | _ => .ok ()

def joinParts (connector : Connector) (parts : List Condition) : Condition :=
  List.intercalate [.connector connector] parts

/-- A child without lookups contributes nothing. -/
def enclosePart (child : Filter) (part : Condition) : List Condition :=
  match child, part with
  | _, [] => []
  | .node .., part => [part.enclosed]
  | _, part => [part]

mutual

/-- The tokens of a filter; none if it holds no lookup. -/
def compile (dialect : Dialect) (context : Value) : Filter → Recorded Condition
  | .lookup key operand => do
    return [.operand (← compileLookup dialect context key operand)]
  | .other value => do
    Recorded.ofExcept (checkOther value)
    return []
  | .node connector negated children => do
    match ← compileEach dialect context children with
    | [] => return []
    | parts =>
      let joined := joinParts connector parts
      return if negated then .not :: Condition.enclosed joined else joined
termination_by structural filter => filter

/-- The parts of a node; a child that is a node itself is put in parentheses. -/
def compileEach (dialect : Dialect) (context : Value) : List Filter → Recorded (List Condition)
  | [] => return []
  | child :: children => do
    let part ← compile dialect context child
    let parts ← compileEach dialect context children
    return enclosePart child part ++ parts
termination_by structural filters => filters

end

end Filter

end SqlBuilder
