import SqlBuilder.Error
import SqlBuilder.Number.Reading

/-!
The number that a value stands for where one is asked for. For an integer, numbers are cut to their
integer part, and texts and byte strings are read; for a floating point number they are not.
-/

namespace SqlBuilder.Value

def readInteger (written : String) (cs : List Char) : Except Error Int :=
  match Number.readInt cs with
  | .ok n => .ok n
  | .error .malformed => .error (.integerMalformed written)
  | .error (.tooLong digits) => .error (.integerTooLong digits)

/-- Bytes outside ASCII are no digits and no white space. -/
def byteChar (b : UInt8) : Char :=
  if b.toNat < 128 then Char.ofNat b.toNat else '?'

def toInteger (x : Value) : Except Error Int :=
  match x with
  | .bool b => .ok b.toNat
  | .int n => .ok n
  | .float .nan => .error .integerFromNan
  | .float (.infinite _) => .error .integerFromInfinity
  | .float y => .ok (y.truncate?.getD 0)
  | .text s => readInteger x.written s.toList
  | .bytes bs => readInteger x.written (bs.map byteChar)
  | _ => .error .wrongType

/-- An integer beyond the range of floating point numbers has none that is near it. -/
def toReal (x : Value) : Except Error Binary64 :=
  match x with
  | .float y => .ok y
  | x => do
    let n ← x.integral?.elim (.error .wrongType) .ok
    (Binary64.ofInt? n).elim (.error .integerTooLarge) .ok

end SqlBuilder.Value
