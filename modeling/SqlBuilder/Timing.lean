import SqlBuilder.Number.Places
import SqlBuilder.Recorded
import SqlBuilder.Value.Integer

/-!
How long a piece of work took, and the log entry that says so.
-/

namespace SqlBuilder

/-- The reading of a clock, or a span between two readings. Integers stay exact. -/
inductive Seconds where
  | whole (n : Int)
  | real (x : Binary64)

namespace Seconds

def ofValue : Value → Except Error Seconds
  | .bool b => .ok (.whole b.toNat)
  | .int n => .ok (.whole n)
  | .float x => .ok (.real x)
  | _ => .error .wrongType

def toValue : Seconds → Value
  | .whole n => .int n
  | .real x => .float x

def toReal (seconds : Seconds) : Except Error Binary64 :=
  seconds.toValue.toReal

/-- The span from a start to an end. -/
def span (start finish : Seconds) : Except Error Seconds :=
  match finish, start with
  | .whole m, .whole n => .ok (.whole (m - n))
  | _, _ => return .real ((← finish.toReal).sub (← start.toReal))

def thousand : Binary64 :=
  Binary64.ofFraction false 1000 1

/-- The same span in milliseconds. -/
def milliseconds : Seconds → Seconds
  | .whole n => .whole (n * 1000)
  | .real x => .real (x.mul thousand)

/-- The order of the numbers denoted; nothing if one of them is no number. -/
def compare? (x y : Seconds) : Option Ordering :=
  match x, y with
  | .whole m, .whole n => some (compare m n)
  | .real x, .whole n => x.compareInt? n
  | .whole m, .real y => (y.compareInt? m).map Ordering.swap
  | .real x, .real y => x.compare? y

def isAtLeast (x y : Seconds) : Bool :=
  (x.compare? y).any (· != .lt)

end Seconds

namespace LogEntry

/-- The entry for a piece of work, with the clock read before and after it: a warning once the time
reaches the threshold in milliseconds. -/
def timed (name : String) (sql params threshold start finish : Value) : Except Error LogEntry := do
  let elapsed := (← Seconds.span (← Seconds.ofValue start) (← Seconds.ofValue finish)).milliseconds
  let isSlow := elapsed.isAtLeast (← Seconds.ofValue threshold)
  return {
    level := if isSlow then .warning else .debug
    message := name ++ " took " ++ (← elapsed.toReal).textFixed 2 ++ "ms"
    timing := some { sql, params, elapsed := elapsed.toValue } }

end LogEntry

end SqlBuilder
