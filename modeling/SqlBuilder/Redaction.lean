import SqlBuilder.Error
import SqlBuilder.Text.Case
import SqlBuilder.Text.LetterOrDigit
import SqlBuilder.Text.Split
import SqlBuilder.Text.Utf8

/-!
Masking of credentials in everything that is logged or shown.
-/

namespace SqlBuilder.Redaction

def mask : String := "***"

def keyTokens : List String := [
  "password", "passwd", "passcode", "secret", "token", "private_key", "privatekey",
  "private_key_file_pwd", "oauth"]

def valueTokens : List String := [
  "password", "passwd", "secret", "token", "private_key", "bearer", "authorization"]

/-- A text without anything but letters and digits. -/
def compact (cs : List Char) : List Char :=
  cs.filter Text.isLetterOrDigit

def holdsToken (token : String) (lowered : List Char) : Bool :=
  Text.occursIn token.toList lowered || Text.occursIn (compact token.toList) (compact lowered)

/-- Separators inside a key do not hide a token. -/
def isSensitiveKey (key : String) : Bool :=
  let lowered := Text.lowerChars key.toList
  keyTokens.any fun token => holdsToken token lowered

def isSensitiveText (cs : List Char) : Bool :=
  let lowered := Text.lowerChars cs
  valueTokens.any fun token => Text.occursIn token.toList lowered

def isSensitiveValue (text : String) : Bool :=
  isSensitiveText text.toList

/-- Bytes are judged by the text in them, whatever else they hold. -/
def isSensitiveBytes (bytes : List UInt8) : Bool :=
  isSensitiveText (Text.decodeUtf8 [] (bytes.map fun b => .byte b.toNat))

def query (pairs : List (String × String)) : List (String × String) :=
  pairs.map fun (key, value) => (key, if isSensitiveKey key then mask else value)

/-- A key to be judged has to be a text. Its characters are looked at before its tokens, and only an empty
byte string has none to look at. -/
def keyToJudge : Value → Except Error String
  | .text key => .ok key
  | .bytes [] => .error .wrongType
  | _ => .error .noAttribute

def setting (entry : Value × Value) : Except Error (Value × Value) := do
  return (entry.1, if isSensitiveKey (← keyToJudge entry.1) then .text mask else entry.2)

def settings (entries : List (Value × Value)) : Except Error (List (Value × Value)) :=
  entries.mapM setting

mutual

/-- Lists and tuples are masked inside; mappings are left alone. -/
def value : Value → Value
  | .list xs => .list (values xs)
  | .tuple xs => .tuple (values xs)
  | .bytes bytes => if isSensitiveBytes bytes then .text mask else .bytes bytes
  | .text text => if isSensitiveValue text then .text mask else .text text
  | x => x
termination_by structural x => x

def values : List Value → List Value
  | [] => []
  | x :: xs => value x :: values xs
termination_by structural xs => xs

end

end SqlBuilder.Redaction
