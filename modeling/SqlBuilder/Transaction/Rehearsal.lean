import SqlBuilder.Transaction

/-!
A host that sends nothing: it keeps what it was told to send, and fails where it was told to fail.
-/

namespace SqlBuilder.Transaction

structure Rehearsal where
  sent : List String := []
  warnings : List String := []
  failures : List (String × Error) := []

/-- A statement counts as sent also if it then fails. -/
def Rehearsal.host : Host Rehearsal where
  send sql := do
    Run.change fun r => { r with sent := r.sent ++ [sql] }
    match (← Run.read (·.failures)).lookup sql with
    | some e => Run.fail e
    | none => return ()
  warn message := Run.change fun r => { r with warnings := r.warnings ++ [message] }

end SqlBuilder.Transaction
