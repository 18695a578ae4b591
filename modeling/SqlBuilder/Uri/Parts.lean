import SqlBuilder.Number.Reading
import SqlBuilder.Text.Case
import SqlBuilder.Uri.Address

/-!
The parts of a URI: scheme, authority, path and query. The authority holds user, password, host and
port.
-/

namespace SqlBuilder.Uri

structure Parts where
  scheme : List Char
  authority : List Char
  path : List Char
  query : List Char

def isControlOrSpace (c : Char) : Bool :=
  c.toNat ≤ 0x20

def isLineBreakOrTab (c : Char) : Bool :=
  c == '\t' || c == '\r' || c == '\n'

/-- Controls and spaces in front, and tabs and line breaks anywhere, are no part of a URI. -/
def clean (cs : List Char) : List Char :=
  (cs.dropWhile isControlOrSpace).filter (!isLineBreakOrTab ·)

def isSchemeChar (c : Char) : Bool :=
  c.isAlphanum || c == '+' || c == '-' || c == '.'

/-- The scheme in lower case and what follows its colon. -/
def cutScheme (cs : List Char) : List Char × List Char :=
  match Text.cutAt ':' cs with
  | (c :: scheme, some rest) =>
    if c.isAlpha && scheme.all isSchemeChar then ((c :: scheme).map Char.toLower, rest) else ([], cs)
  | _ => ([], cs)

def endsAuthority (c : Char) : Bool :=
  c == '/' || c == '?' || c == '#'

/-- The authority stands after two slashes. -/
def cutAuthority : List Char → List Char × List Char
  | '/' :: '/' :: rest => (rest.takeWhile (!endsAuthority ·), rest.dropWhile (!endsAuthority ·))
  | cs => ([], cs)

/-- Host and port with their brackets. -/
def hostAndPort (authority : List Char) : List Char :=
  (Text.cutAtLast '@' authority).2

/-- Brackets enclose the whole host. -/
def checkBrackets (authority : List Char) : Except Error Unit :=
  match authority.contains '[', authority.contains ']' with
  | false, false => .ok ()
  | true, true =>
    match Text.cutAt '[' (hostAndPort authority) with
    | (before, some inside) =>
      let (host, rest) := Text.cutAt ']' inside
      let rest := rest.getD []
      if !before.isEmpty then .error .addressMalformed
      else if !rest.isEmpty && rest.head? != some ':' then .error .addressMalformed
      else checkBracketed host
    | (plain, none) => checkBracketed (Text.cutAt ':' plain).1
  | _, _ => .error .addressMalformed

/-- Characters outside ASCII whose compatibility form holds one of the characters that separate the
parts of a URI. -/
def disguisedSeparators : List Nat := [
  0x2047, 0x2048, 0x2049, 0x2100, 0x2101, 0x2105, 0x2106, 0x2a74, 0xfe13, 0xfe16, 0xfe55, 0xfe56, 0xfe5f,
  0xfe6b, 0xff03, 0xff0f, 0xff1a, 0xff1f, 0xff20]

def checkAuthority (authority : List Char) : Except Error Unit :=
  if authority.any fun c => disguisedSeparators.contains c.toNat then
    .error (.authorityCharacters (String.ofList authority))
  else .ok ()

/-- Schemes whose last path segment may carry parameters after a semicolon. -/
def schemesWithParameters : List String := [
  "", "ftp", "hdl", "prospero", "http", "imap", "https", "shttp", "rtsp", "rtsps", "rtspu", "sip", "sips",
  "mms", "sftp", "tel"]

/-- The path without the parameters of its last segment. -/
def dropParameters (path : List Char) : List Char :=
  match Text.cutAtLast '/' path with
  | (none, last) => (Text.cutAt ';' last).1
  | (some before, last) => before ++ '/' :: (Text.cutAt ';' last).1

def parts (uri : String) : Except Error Parts := do
  let (scheme, rest) := cutScheme (clean uri.toList)
  let (authority, rest) := cutAuthority rest
  checkBrackets authority
  let (rest, _) := Text.cutAt '#' rest
  let (path, query) := Text.cutAt '?' rest
  checkAuthority authority
  let path := if schemesWithParameters.contains (String.ofList scheme) then dropParameters path else path
  return { scheme, authority, path, query := query.getD [] }

/-! ### Authority -/

/-- User and password as they are written. -/
def userInfo (authority : List Char) : Option (List Char) × Option (List Char) :=
  match (Text.cutAtLast '@' authority).1 with
  | none => (none, none)
  | some info =>
    let (user, password) := Text.cutAt ':' info
    (some user, password)

/-- Host and port as they are written. -/
def hostPort (authority : List Char) : List Char × Option (List Char) :=
  let rest := hostAndPort authority
  match Text.cutAt '[' rest with
  | (_, some bracketed) =>
    let (host, after) := Text.cutAt ']' bracketed
    (host, (Text.cutAt ':' (after.getD [])).2)
  | (_, none) => Text.cutAt ':' rest

/-- A host in lower case, except for the zone of an address. -/
def host? (authority : List Char) : Option (List Char) :=
  match (hostPort authority).1 with
  | [] => none
  | host =>
    let (name, zone) := Text.cutAt '%' host
    some (Text.lowerChars name ++ (zone.map ('%' :: ·)).getD [])

/-- A port is read like any integer, so too many digits are refused before its size is looked at. -/
def portNumber (digits : List Char) : Except Error Nat :=
  if Number.digitLimit < digits.length then .error (.integerTooLong digits.length)
  else .ok (Number.ofDigits (digits.map fun c => c.toNat - '0'.toNat))

def readPort (digits : List Char) : Except Error Nat := do
  if !digits.all Char.isDigit then throw (.portMalformed (String.ofList digits))
  let number ← portNumber digits
  if 65535 < number then throw .portOutOfRange
  return number

def port (authority : List Char) : Except Error (Option Nat) :=
  match (hostPort authority).2 with
  | none | some [] => .ok none
  | some digits => some <$> readPort digits

/-! ### Query -/

/-- Name and value of one part; a part without a value says nothing. -/
def queryPair? (part : List Char) : Option (String × String) :=
  match Text.cutAt '=' part with
  | (name, some (c :: value)) =>
    some (String.ofList (decodeForm name), String.ofList (decodeForm (c :: value)))
  | _ => none

/-- Of several values under one name the first counts. -/
def addFirst (pairs : List (String × String)) (pair : String × String) : List (String × String) :=
  if pairs.any (·.1 == pair.1) then pairs else pairs ++ [pair]

def queryPairs (query : List Char) : List (String × String) :=
  ((Text.splitAt '&' query).filterMap queryPair?).foldl addFirst []

end SqlBuilder.Uri
