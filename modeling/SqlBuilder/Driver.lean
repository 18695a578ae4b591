import SqlBuilder.Run

/-!
What a database driver does for a session, whatever the driver's own state `δ` is.
-/

namespace SqlBuilder

/-- Connections are numbered in the order in which they were made. Settings and options are passed on
as they are; it is for the driver to refuse them. -/
structure Driver (δ : Type) where
  isInstalled : δ → Bool
  connect : List (Value × Value) → Run δ Unit
  openCursor : Nat → Run δ Unit
  /-- Executes a statement with its bindings, if it has any, and further options. -/
  execute : Nat → Value → Option (List Value) → List (Value × Value) → Run δ Unit
  /-- The rows that the last statement returned; none if it was not one that returns rows. -/
  rows : Nat → Run δ (List Value)
  rowCount : Nat → Run δ Value
  close : Nat → Run δ Unit
  /-- Reads the clock, in seconds. -/
  now : Run δ Value

end SqlBuilder
