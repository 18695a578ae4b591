import SqlBuilder.Redaction
import SqlBuilder.Uri.Parts

/-!
Data source names: a URI with the driver as its scheme and database and schema as its path.
-/

namespace SqlBuilder.Connection

structure Dsn where
  driver : String
  username : Option String := none
  password : Option String := none
  host : Option String := none
  port : Option Nat := none
  database : Option String := none
  schema : Option String := none
  path : String := ""
  query : List (String × String) := []
deriving DecidableEq, Repr

namespace Dsn

/-- A part that is written, and not empty, decoded. -/
def component? : Option (List Char) → Option String
  | none | some [] => none
  | some cs => some (String.ofList (Uri.decode cs))

/-- The decoded segments of a path, empty ones left out. -/
def segments (path : List Char) : List String :=
  ((Text.splitAt '/' path).filter (!·.isEmpty)).map fun segment => String.ofList (Uri.decode segment)

def parse (text : String) : Except Error Dsn := do
  let parts ← Uri.parts text
  let (user, password) := Uri.userInfo parts.authority
  let port ← Uri.port parts.authority
  let segments := segments parts.path
  return {
    driver := String.ofList parts.scheme
    username := component? user
    password := component? password
    host := (Uri.host? parts.authority).map String.ofList
    port
    database := segments[0]?
    schema := segments[1]?
    path := String.ofList parts.path
    query := Uri.queryPairs parts.query }

/-- A text that is there and not empty. -/
def given? : Option String → Option String
  | some "" => none
  | text => text

def userText (user : String) (hasPassword : Bool) : String :=
  user ++ (if hasPassword then ":" ++ Redaction.mask else "") ++ "@"

def redactedUser (dsn : Dsn) : String :=
  match given? dsn.username with
  | none => ""
  | some user => userText user (given? dsn.password).isSome

def portText : Option Nat → String
  | none | some 0 => ""
  | some port => ":" ++ String.ofList (Binary64.natText port)

/-- The parts of a name put together. -/
def assemble (driver user host port path query : String) : String :=
  driver ++ "://" ++ user ++ host ++ port ++ path ++ (if query = "" then "" else "?" ++ query)

/-- The name with its credentials masked and everything else as it was. -/
def redacted (dsn : Dsn) : String :=
  assemble dsn.driver dsn.redactedUser (dsn.host.getD "") (portText dsn.port) dsn.path
    (Uri.encodeQuery (Redaction.query dsn.query))

/-! ### Names that were put together by hand -/

/-- A part that is left out if it counts as false, and else has to be a text. -/
def givenText (part : Value) : Except Error String :=
  match part with
  | .text s => .ok s
  | part => if part.isTrue then .error .wrongType else .ok ""

def givenUser (username password : Value) : Except Error String := do
  let user ← givenText username
  return if username.isTrue then userText user password.isTrue else ""

def encodeGiven : Value → List Char
  | .bytes bytes => bytes.flatMap Uri.encodeFormByte
  | value => Uri.encodeForm value.shown.toList

/-- A query has to be a mapping. -/
def givenQuery (query : Value) : Except Error String :=
  match query with
  | .dict entries => do
    let masked ← Redaction.settings entries
    let pairs := masked.map fun (key, value) => encodeGiven key ++ '=' :: encodeGiven value
    return String.ofList (List.intercalate ['&'] pairs)
  | query => if query.isTrue then .error .noAttribute else .ok ""

/-- What `redacted` gives for parts of any kind. -/
def redactedParts (driver username password host port path query : Value) : Except Error String := do
  let user ← givenUser username password
  let host ← givenText host
  let port := if port.isTrue then ":" ++ port.shown else ""
  let query ← givenQuery query
  return assemble driver.shown user host port (← givenText path) query

end Dsn

end SqlBuilder.Connection
