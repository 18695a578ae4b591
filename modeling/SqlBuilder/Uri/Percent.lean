import SqlBuilder.Text.Utf8

/-!
Percent encoding. Escapes stand for bytes, which are read as UTF-8; what is no valid sequence becomes
the replacement character.
-/

namespace SqlBuilder.Uri

def hexDigit (n : Nat) : Char :=
  if n < 10 then Char.ofNat (0x30 + n) else Char.ofNat (0x41 + (n - 10))

def hexValue? (c : Char) : Option Nat :=
  let n := c.toNat
  if 0x30 ≤ n ∧ n ≤ 0x39 then some (n - 0x30)
  else if 0x41 ≤ n ∧ n ≤ 0x46 then some (n - 0x41 + 10)
  else if 0x61 ≤ n ∧ n ≤ 0x66 then some (n - 0x61 + 10)
  else none

def octetOf (c : Char) : Text.Octet :=
  if c.toNat < 0x80 then .byte c.toNat else .whole c

/-- Escapes as the bytes they stand for, everything else as it is. -/
def octets : List Char → List Text.Octet
  | '%' :: a :: b :: rest =>
    match hexValue? a, hexValue? b with
    | some high, some low => .byte (16 * high + low) :: octets rest
    | _, _ => octetOf '%' :: octets (a :: b :: rest)
  | c :: rest => octetOf c :: octets rest
  | [] => []

def decode (cs : List Char) : List Char :=
  Text.decodeUtf8 [Text.replacementChar] (octets cs)

/-- In a query a plus sign stands for a space. -/
def decodeForm (cs : List Char) : List Char :=
  decode (cs.map fun c => if c = '+' then ' ' else c)

def isUnreserved (c : Char) : Bool :=
  c.isAlphanum || c == '_' || c == '.' || c == '-' || c == '~'

def escapeByte (b : Nat) : List Char :=
  ['%', hexDigit (b / 16), hexDigit (b % 16)]

def encodeFormChar (c : Char) : List Char :=
  if isUnreserved c then [c]
  else if c = ' ' then ['+']
  else (Text.encodeChar c).flatMap escapeByte

def encodeForm (cs : List Char) : List Char :=
  cs.flatMap encodeFormChar

/-- Bytes are encoded like the ASCII characters that they stand for, or else escaped. -/
def encodeFormByte (b : UInt8) : List Char :=
  if b.toNat < 0x80 then encodeFormChar (Char.ofNat b.toNat) else escapeByte b.toNat

def encodePair (pair : String × String) : List Char :=
  encodeForm pair.1.toList ++ '=' :: encodeForm pair.2.toList

def encodeQuery (query : List (String × String)) : String :=
  String.ofList (List.intercalate ['&'] (query.map encodePair))

end SqlBuilder.Uri
