import SqlBuilder.Text.Quoted
import SqlBuilder.Value.Written

/-!
Everything that can go wrong, by cause, with the text that reports it and the kind it belongs to.
-/

namespace SqlBuilder

/-- The kinds of error that callers tell apart. `interrupt` is no ordinary failure: it passes through
every handler. -/
inductive ErrorKind where
  | configuration | connection | execution
  | schema | transaction
  | value | wrongType | noAttribute | index | missingKey | overflow
  | runtime | notImplemented | interrupt
  | operational | interface | programming
deriving DecidableEq, Repr

inductive Error where
  /-- Raised outside the library: by the driver, a listener, a hook or a caller's block. -/
  | raised (kind : ErrorKind) (message : String)
  | wrongType
  | noAttribute
  | notImplemented
  | integerMalformed (written : String)
  | integerTooLong (digits : Nat)
  | integerFromNan
  | integerFromInfinity
  | integerTooLarge
  | indexOutOfRange
  | entryMissing
  | byteOutOfRange
  | pairSize (index size : Nat)
  | lookupSize (size : Nat)
  | identifierRefused (name : String)
  | tableMissing
  | methodUnsupported (method : String)
  | updateEmpty
  | nullComparison
  | lookupUnsupported (lookup : String)
  | membershipEmpty
  | columnTypeUnknown (type : String)
  | primaryKeyNullable (column : String)
  | optionMalformed (kind key : String) (value : String)
  | schemeUnsupported (scheme : String)
  | variableUnset (name : String)
  | driverMissing
  | connectionMissing
  | parameterCount (expected received : Nat)
  | nothingToCommit
  | nothingToRollBack
  | addressMalformed
  | addressUnknown (host : String)
  | addressNotVersion6
  | addressFuture
  | authorityCharacters (authority : String)
  | portMalformed (port : String)
  | portOutOfRange
  | directiveUnknown (directive : Char) (position : Nat)
  | directiveMissing
  | directiveKeyOpen
  | widthTooLarge
  | digitsTooLarge
deriving DecidableEq

namespace Error

def kind : Error → ErrorKind
  | .raised kind _ => kind
  | .wrongType => .wrongType
  | .noAttribute => .noAttribute
  | .notImplemented => .notImplemented
  | .integerFromInfinity => .overflow
  | .integerTooLarge => .overflow
  | .indexOutOfRange => .index
  | .entryMissing => .missingKey
  | .columnTypeUnknown _ => .schema
  | .primaryKeyNullable _ => .schema
  | .optionMalformed .. => .configuration
  | .schemeUnsupported _ => .configuration
  | .variableUnset _ => .configuration
  | .driverMissing => .configuration
  | .connectionMissing => .connection
  | .parameterCount .. => .execution
  | .nothingToCommit => .transaction
  | .nothingToRollBack => .transaction
  | _ => .value

/-- Only the first characters of a malformed integer are shown. -/
def shownLimit : Nat := 200

def message : Error → String
  | .raised _ message => message
  | .wrongType => ""
  | .noAttribute => ""
  | .notImplemented => ""
  | .integerMalformed written =>
    "invalid literal for int() with base 10: " ++ String.ofList (written.toList.take shownLimit)
  | .integerTooLong digits =>
    "Exceeds the limit (4300 digits) for integer string conversion: value has " ++
      toString digits ++ " digits; use sys.set_int_max_str_digits() to increase the limit"
  | .integerFromNan => "cannot convert float NaN to integer"
  | .integerFromInfinity => "cannot convert float infinity to integer"
  | .integerTooLarge => "int too large to convert to float"
  | .indexOutOfRange => "index out of range"
  | .entryMissing => ""
  | .byteOutOfRange => "byte must be in range(0, 256)"
  | .pairSize index size =>
    "dictionary update sequence element #" ++ toString index ++ " has length " ++ toString size ++
      "; 2 is required"
  | .lookupSize size =>
    if size < 2 then "not enough values to unpack (expected 2, got " ++ toString size ++ ")"
    else "too many values to unpack (expected 2)"
  | .identifierRefused name => "bad identifier " ++ name
  | .tableMissing => "A table name is required to compile a query."
  | .methodUnsupported method => "Unsupported query method '" ++ method ++ "'"
  | .updateEmpty => "update() requires at least one column value."
  | .nullComparison => "NULL comparison only supported for equality."
  | .lookupUnsupported lookup => "Unsupported lookup '" ++ lookup ++ "'"
  | .membershipEmpty => "'in' lookup requires at least one value."
  | .columnTypeUnknown type => "Unknown column type '" ++ type ++ "'"
  | .primaryKeyNullable column =>
    "Snowflake does not allow primary keys to contain nullable columns. Column '" ++ column ++
      "' must be not_nullable()."
  | .optionMalformed kind key value =>
    "Invalid " ++ kind ++ " value for '" ++ key ++ "': " ++ Text.quoted value
  | .schemeUnsupported scheme => "Unsupported DSN scheme '" ++ scheme ++ "'"
  | .variableUnset name => "Environment variable " ++ name ++ " is not set"
  | .driverMissing => "snowflake-connector-python is required to use SnowflakeAdapter."
  | .connectionMissing => "A connection is required to run statements."
  | .parameterCount expected received =>
    "Parameter count mismatch: expected " ++ toString expected ++ ", received " ++
      toString received ++ "."
  | .nothingToCommit => "No active transaction to commit."
  | .nothingToRollBack => "No active transaction to roll back."
  | .addressMalformed => "Invalid IPv6 URL"
  | .addressUnknown host => Text.quoted host ++ " does not appear to be an IPv4 or IPv6 address"
  | .addressNotVersion6 => "An IPv4 address cannot be in brackets"
  | .addressFuture => "IPvFuture address is invalid"
  | .authorityCharacters authority =>
    "netloc '" ++ authority ++ "' contains invalid characters under NFKC normalization"
  | .portMalformed port => "Port could not be cast to integer value as " ++ Text.quoted port
  | .portOutOfRange => "Port out of range 0-65535"
  | .directiveUnknown directive position =>
    let shown := if ' ' ≤ directive ∧ directive ≤ '~' then directive else '?'
    "unsupported format character '" ++ String.singleton shown ++ "' (0x" ++
      String.ofList (Nat.toDigits 16 directive.toNat) ++ ") at index " ++ toString position
  | .directiveMissing => "incomplete format"
  | .directiveKeyOpen => "incomplete format key"
  | .widthTooLarge => "width too big"
  | .digitsTooLarge => "precision too big"

/-- Interrupts are no failures that a handler may deal with. -/
def isFailure (e : Error) : Bool :=
  e.kind ≠ .interrupt

end Error

end SqlBuilder
