import SqlBuilder.Value.Reading

/-!
Calls by name, as scripts write them: an operation's name with arguments by position and by name, and
the parameters that an operation gives them to.
-/

namespace SqlBuilder

structure Call where
  name : String := ""
  args : List Value := []
  named : List (String × Value) := []

/-- Without a default, an argument has to be given. -/
structure Parameter where
  name : String
  default : Option Value := none

namespace Parameter

def required (name : String) : Parameter :=
  { name }

def optional (name : String) (default : Value := .null) : Parameter :=
  { name, default := some default }

end Parameter

namespace Call

/-- Arguments by position first; what they leave is given by name, or has a default. -/
def fill (named : List (String × Value)) : List Value → List Parameter → Except Error (List Value)
  | [], [] => .ok []
  | _ :: _, [] => .error .wrongType
  | [], p :: ps => do
    let value ← ((named.lookup p.name).or p.default).elim (.error .wrongType) .ok
    return value :: (← fill named [] ps)
  | value :: args, p :: ps => do
    if (named.lookup p.name).isSome then throw .wrongType
    return value :: (← fill named args ps)

/-- The arguments of the parameters in their order; those of `keywords` are given by name only. -/
def bind (call : Call) (parameters : List Parameter) (keywords : List Parameter := []) :
    Except Error (List Value) := do
  if call.named.any fun (name, _) => !(parameters ++ keywords).any (·.name == name) then
    throw .wrongType
  return (← fill call.named call.args parameters) ++ (← fill call.named [] keywords)

/-- The arguments of the first parameters, and the call with what they leave to others. -/
def bindFirst (call : Call) (parameters : List Parameter) : Except Error (List Value × Call) := do
  let count := parameters.length
  let values ← fill call.named (call.args.take count) parameters
  let named := call.named.filter fun (name, _) => !parameters.any (·.name == name)
  return (values, { call with args := call.args.drop count, named })

/-- Nothing may be given to an operation that takes nothing. -/
def checkEmpty (call : Call) : Except Error Unit := do
  let _ ← call.bind []

def one (call : Call) (p : Parameter) : Except Error Value := do
  return (← call.bind [p]).headD .null

def two (call : Call) (p q : Parameter) : Except Error (Value × Value) := do
  let values ← call.bind [p, q]
  return (values.headD .null, values.tail.headD .null)

/-- The arguments of an operation that takes any number of them by position. -/
def positional (call : Call) : Except Error (List Value) :=
  if call.named.isEmpty then .ok call.args else .error .wrongType

/-- The name that an operation calls its receiver by, which no argument may take. -/
def receiver : String := "self"

/-- The arguments of an operation that takes any number of them by name. -/
def keywords (call : Call) : Except Error (List (String × Value)) :=
  if call.args.isEmpty && (call.named.lookup receiver).isNone then .ok call.named else .error .wrongType

end Call

end SqlBuilder
