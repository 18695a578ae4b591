import SqlBuilder.Connection.Dsn
import SqlBuilder.Value.Integer
import SqlBuilder.Value.Mapping

/-!
Connection settings, from a data source name, a mapping or an environment variable.
-/

namespace SqlBuilder.Connection

abbrev Options := List (Value × Value)

/-- Settings as the driver is given them; null stands for a setting that is not made. -/
structure Config where
  account : Value := .null
  region : Value := .null
  username : Value := .null
  user : Value := .null
  password : Value := .null
  host : Value := .null
  warehouse : Value := .null
  database : Value := .null
  schema : Value := .null
  role : Value := .null
  autocommit : Value := .null
  loginTimeout : Value := .null
  options : Value := .null
  dsn : Option Dsn := none
  source : Value := .null

/-- Environment variables. -/
abbrev Environment := List (String × String)

namespace Config

/-- The setting of a name that a mapping may use. Options and data source names are set apart. -/
def setPlain? (config : Config) (name : String) (value : Value) : Option Config :=
  match name with
  | "account" => some { config with account := value }
  | "region" => some { config with region := value }
  | "username" => some { config with username := value }
  | "user" => some { config with user := value }
  | "password" => some { config with password := value }
  | "host" => some { config with host := value }
  | "warehouse" => some { config with warehouse := value }
  | "database" => some { config with database := value }
  | "schema" => some { config with schema := value }
  | "role" => some { config with role := value }
  | "autocommit" => some { config with autocommit := value }
  | "login_timeout" => some { config with loginTimeout := value }
  | "source" => some { config with source := value }
  | _ => none

/-- A data source name is set by parsing only; in its place any value that counts as true is of no
use. -/
def set (config : Config) (name : String) (value : Value) : Except Error Config :=
  match name with
  | "options" => .ok { config with options := value }
  | "dsn" => if value.isTrue then .error .noAttribute else .ok { config with dsn := none }
  | name => (config.setPlain? name value).elim (.error .wrongType) .ok

def isSetting (name : String) : Bool :=
  name == "options" || name == "dsn" || (setPlain? {} name .null).isSome

/-- All names have to be those of settings. -/
def setAll (config : Config) (settings : List (String × Value)) : Except Error Config := do
  if settings.any fun (name, _) => !isSetting name then throw .wrongType
  settings.foldlM (fun config (name, value) => config.set name value) config

/-- The first part of what follows the first dot, if it is not empty. -/
def regionOf (rest : Option (List Char)) : Value :=
  match (Text.cutAt '.' (rest.getD [])).1 with
  | [] => .null
  | region => .text (String.ofList region)

/-- A host `account.region` fills in what is missing of the two. -/
def fillFromHost (config : Config) : Except Error Config :=
  match config.host with
  | .text host =>
    if host = "" then .ok config
    else
      let (account, rest) := Text.cutAt '.' host.toList
      .ok { config with
        account := if config.account.isTrue then config.account else .text (String.ofList account)
        region := if config.region.isTrue then config.region else regionOf rest }
  | .bytes (_ :: _) => .error .wrongType
  | host => if host.isTrue then .error .noAttribute else .ok config

/-- `user` is another name for `username`. -/
def normalize (config : Config) : Except Error Config :=
  let config :=
    if config.user.isTrue && !config.username.isTrue then { config with username := config.user }
    else config
  config.fillFromHost

def make (settings : List (String × Value)) : Except Error Config := do
  (← setAll {} settings).normalize

/-- Changes some settings of a finished configuration. Other names are no concern of it. -/
def change (settings : List (String × Value)) (config : Config) : Except Error Config := do
  (← config.setAll (settings.filter fun (name, _) => isSetting name)).normalize

/-! ### From a data source name -/

def trueWords : List String := ["1", "true", "yes", "on"]

def falseWords : List String := ["0", "false", "no", "off"]

def parseBool (key text : String) : Except Error Value :=
  let word := String.ofList (Text.lowerChars (Text.trim text.toList))
  if trueWords.contains word then .ok (.bool true)
  else if falseWords.contains word then .ok (.bool false)
  else .error (.optionMalformed "boolean" key text)

def parseFloat (key text : String) : Except Error Value :=
  match Number.readFloat? text.toList with
  | some x => .ok (.float x)
  | none => .error (.optionMalformed "float" key text)

def parseInteger (key text : String) : Except Error Value :=
  match Number.readInt text.toList with
  | .ok n => .ok (.int n)
  | .error _ => .error (.optionMalformed "integer" key text)

def integerOptions : List String := ["network_timeout", "socket_timeout", "client_prefetch_threads"]

/-- The query parameters that are settings of their own; the others are options. -/
def queryFields : List String :=
  ["warehouse", "role", "account", "region", "autocommit", "login_timeout"]

def textOrNull (text : Option String) : Value :=
  (text.map Value.text).getD .null

/-- The value of a query parameter, if it is there, in the form that its reader gives it. -/
def parameter (read : String → String → Except Error Value) (query : List (String × String))
    (key : String) : Except Error Value :=
  match query.lookup key with
  | none => .ok .null
  | some text => read key text

def optionValue (key text : String) : Except Error Value :=
  if integerOptions.contains key then parseInteger key text else .ok (.text text)

def queryOptions (query : List (String × String)) : Except Error Options :=
  (query.filter fun pair => !queryFields.contains pair.1).mapM fun (key, text) =>
    return (.text key, ← optionValue key text)

/-- Options with those of a further mapping set, unless it counts as false. -/
def mergeOptions (options : Options) (further : Value) : Except Error Options := do
  if further.isTrue then
    return (← further.toMapping).foldl (fun all o => Value.setEntry o.1 o.2 all) options
  else return options

def optionsOrNull (options : Options) : Value :=
  if options.isEmpty then .null else .dict options

def ofParsed (dsn : Dsn) (settings : List (String × Value)) : Except Error Config := do
  if dsn.driver ≠ "snowflake" then throw (.schemeUnsupported dsn.driver)
  let autocommit ← parameter parseBool dsn.query "autocommit"
  let loginTimeout ← parameter parseFloat dsn.query "login_timeout"
  let options ← queryOptions dsn.query
  let options ← mergeOptions options ((settings.lookup "options").getD .null)
  let config : Config := {
    host := textOrNull dsn.host
    username := textOrNull dsn.username
    password := textOrNull dsn.password
    database := textOrNull dsn.database
    schema := textOrNull dsn.schema
    warehouse := textOrNull (dsn.query.lookup "warehouse")
    role := textOrNull (dsn.query.lookup "role")
    account := textOrNull (dsn.query.lookup "account")
    region := textOrNull (dsn.query.lookup "region")
    autocommit
    loginTimeout
    options := optionsOrNull options
    dsn := some dsn }
  (← config.setAll (settings.filter (·.1 != "options"))).normalize

/-- Settings given besides the name win over those in it. -/
def ofDsn (text : String) (settings : List (String × Value)) : Except Error Config := do
  if settings.any (·.1 == "dsn") then throw .wrongType
  ofParsed (← Dsn.parse text) settings

/-- A data source name is a text. What counts as false is read like an empty byte string, which is no text
either. -/
def ofDsnValue (dsn : Value) (settings : List (String × Value)) : Except Error Config := do
  if settings.any (·.1 == "dsn") then throw .wrongType
  match dsn with
  | .text text => ofDsn text settings
  | .bytes _ => .error .wrongType
  | dsn => .error (if dsn.isTrue then .noAttribute else .wrongType)

/-! ### From other sources -/

def isPlain (key : Value) : Bool :=
  match key with
  | .text name => (setPlain? {} name .null).isSome
  | _ => false

def isOptions (key : Value) : Bool :=
  key.equals (.text "options")

/-- Unknown keys become options, and are joined by those given as such. -/
def ofMapping (entries : List (Value × Value)) (settings : List (String × Value)) :
    Except Error Config := do
  if settings.any (·.1 == "settings") then throw .wrongType
  let plain := entries.filterMap fun (key, value) =>
    if isPlain key then key.text?.map (·, value) else none
  let options := entries.filter fun (key, _) => !isPlain key && !isOptions key
  let given := ((entries.find? fun (key, _) => isOptions key).map (·.2)).getD .null
  let options ← mergeOptions options given
  if settings.any (·.1 == "options") then throw .wrongType
  (← setAll { options := optionsOrNull options } (plain ++ settings)).normalize

/-- Settings that have to be a mapping. -/
def ofMappingValue (value : Value) (settings : List (String × Value)) : Except Error Config := do
  if settings.any (·.1 == "settings") then throw .wrongType
  match value with
  | .dict entries => ofMapping entries settings
  | _ => .error .noAttribute

def ofEnvironment (environment : Environment) (name : String) (settings : List (String × Value)) :
    Except Error Config := do
  if settings.any (·.1 == "env_var") then throw .wrongType
  match Dsn.given? (environment.lookup name) with
  | none => .error (.variableUnset name)
  | some text =>
    if settings.any (·.1 == "source") then .error .wrongType
    else ofDsn text (("source", .text name) :: settings)

def ofValue : Value → Except Error Config
  | .null => make []
  | .text dsn => ofDsn dsn []
  | value => ofMappingValue value []

/-! ### What the driver and the log are given -/

def optionEntries (config : Config) : Except Error Options :=
  if config.options.isTrue then config.options.toMapping else .ok []

/-- The settings under the driver's names; options are set last, and what is null is left out. -/
def driverSettings (config : Config) : Except Error (List (Value × Value)) := do
  let base : List (Value × Value) := [
    (.text "account", config.account), (.text "region", config.region),
    (.text "user", config.username), (.text "password", config.password),
    (.text "warehouse", config.warehouse), (.text "database", config.database),
    (.text "schema", config.schema), (.text "role", config.role),
    (.text "autocommit", config.autocommit), (.text "login_timeout", config.loginTimeout),
    (.text "paramstyle", .text "qmark")]
  let all := (← config.optionEntries).foldl (fun all o => Value.setEntry o.1 o.2 all) base
  return all.filter fun entry => !entry.2.isNull

def locationPart (value : Value) : Except Error (Option String) :=
  if !value.isTrue then .ok none
  else
    match value with
    | .text s => .ok (some s)
    | _ => .error .wrongType

/-- A data source name that may be shown. -/
def redactedDsn (config : Config) : Except Error String :=
  match config.dsn with
  | some dsn => .ok dsn.redacted
  | none => do
    let account ← locationPart config.account
    let region ← locationPart config.region
    let user := if config.username.isTrue then config.username.shown ++ "@" else ""
    return "snowflake://" ++ user ++ String.intercalate "." (account.toList ++ region.toList)

/-- Where the settings come from, for messages. -/
def label (config : Config) : Except Error String := do
  let redacted ← config.redactedDsn
  return if config.source.isTrue then config.source.shown ++ " (" ++ redacted ++ ")" else redacted

end Config

end SqlBuilder.Connection
