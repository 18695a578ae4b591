import SqlBuilder.Log.Template

/-!
The id that ties the log lines of one piece of work together, and the lines themselves.
-/

namespace SqlBuilder.Log

/-- The id in use, and how many ids have been made up so far. -/
structure Correlation where
  current : Option Value := none
  drawn : Nat := 0

namespace Correlation

/-- Makes an id up, `fresh` giving one for every number. -/
def draw (fresh : Nat → String) (correlation : Correlation) : Value × Correlation :=
  let n := correlation.drawn + 1
  (.text (fresh n), { current := some (.text (fresh n)), drawn := n })

/-- Puts an id into use; a value that counts as false asks for a new one. -/
def set (fresh : Nat → String) (given : Value) (correlation : Correlation) : Value × Correlation :=
  if given.isTrue then (given, { correlation with current := some given })
  else correlation.draw fresh

/-- The id in use; there is always one from then on. -/
def get (fresh : Nat → String) (correlation : Correlation) : Value × Correlation :=
  match correlation.current with
  | some id => (id, correlation)
  | none => correlation.draw fresh

end Correlation

def separator : String := " | "

def rootLogger : String := "snowblaze"

/-- Two levels have a second name, which no line shows. -/
def levelName : String → String
  | "WARN" => "WARNING"
  | "FATAL" => "CRITICAL"
  | level => level

/-- A line of the log, after its time. -/
def line (level : String) (id : Value) (logger message : String) : String :=
  String.intercalate separator [levelName level, id.shown, rootLogger ++ "." ++ logger, message]

/-- All loggers write through one handler, that of the root logger. -/
def handlerCount : Nat := 1

end SqlBuilder.Log
