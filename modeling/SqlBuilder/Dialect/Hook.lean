import SqlBuilder.Dialect

/-!
Ready-made hooks, for callers that choose the writing of identifiers by name.
-/

namespace SqlBuilder.Hook

def identity : Hook where
  write name quote _ := .ok (quote name)
  writeOther value quoting _ := quoting.other value

/-- Of other values only byte strings have a case. -/
def lower : Hook where
  write name quote _ := .ok (quote (Text.lower name))
  writeOther value quoting _ :=
    match value with
    | .bytes bytes => quoting.other (.bytes (Text.changeBytes Char.toLower bytes))
    | _ => .error .noAttribute

/-- The identifier as it is, without any quotes. -/
def verbatim : Hook where
  write name _ _ := .ok name
  writeOther value _ _ := .ok value

def bracket : Hook where
  write name _ _ := .ok (Quoting.bracket.text name)
  writeOther value _ _ := Quoting.bracket.other value

/-- The context of the query in front of the identifier, which has to be a text. -/
def prefixed : Hook where
  write name quote context := .ok (quote (context.shown ++ "_" ++ name))
  writeOther _ _ _ := .error .wrongType

def double : Hook where
  write name quote _ := .ok (quote (quote name))
  writeOther value quoting _ := do quoting.apply (← quoting.other value)

/-- Quotes around the identifier, whatever stands in it, as long as it is a text. -/
def quoted : Hook where
  write name _ _ := .ok ("\"" ++ name ++ "\"")
  writeOther _ _ _ := .error .wrongType

def refusing : Hook where
  write name _ _ := .error (.identifierRefused name)
  writeOther value _ _ := .error (.identifierRefused value.shown)

def named? : String → Option Hook
  | "identity" => some identity
  | "lower" => some lower
  | "verbatim" => some verbatim
  | "bracket" => some bracket
  | "prefix" => some prefixed
  | "double" => some double
  | "quoted" => some quoted
  | "raise" => some refusing
  | _ => none

end SqlBuilder.Hook
