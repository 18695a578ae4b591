import SqlBuilder.Log.Directive
import SqlBuilder.Number.Places
import SqlBuilder.Value.Integer

/-!
Messages filled with values. Each directive takes the next value, or under a key the entry of a mapping,
and none of the values may be left over.
-/

namespace SqlBuilder.Log

/-- The values that are left, and the mapping that keys are looked up in. -/
structure Supply where
  values : List Value
  entries : Option (List (Value × Value)) := none

namespace Supply

/-- A mapping that is the only value is there for keys as well. -/
def ofValues : List Value → Supply
  | [.dict entries] =>
    { values := [.dict entries], entries := if entries.isEmpty then none else some entries }
  | values => { values }

def take (supply : Supply) : Except Error (Value × Supply) :=
  match supply.values with
  | value :: values => .ok (value, { supply with values })
  | [] => .error .wrongType

/-- The entry under a key is the only value that is left then. -/
def atKey (key : String) (supply : Supply) : Except Error Supply :=
  match supply.entries with
  | none => .error .wrongType
  | some entries =>
    match entries.find? (·.1.equals (.text key)) with
    | none => .error .entryMissing
    | some (_, value) => .ok { supply with values := [value] }

/-- Only positional values can be left over. -/
def isSpent (supply : Supply) : Bool :=
  supply.entries.isSome || supply.values.isEmpty

/-- A measure below `limit`; one that is written out is refused as `tooLarge` beyond it. -/
def measure (limit : Nat) (tooLarge : Error) (supply : Supply) :
    Option Measure → Except Error (Option Int × Supply)
  | none => .ok (none, supply)
  | some (.written n) => if n < limit then .ok (some n, supply) else .error tooLarge
  | some .taken => do
    let (value, supply) ← supply.take
    match value.integral? with
    | none => .error .wrongType
    | some n =>
      if n < limit ∧ -(limit : Int) ≤ n then .ok (some n, supply) else .error .integerTooLarge

end Supply

/-- What is written for a value, before it is brought to its width: a sign, a mark of the base, and the
rest. Only numbers can be filled up with zeros. -/
structure Field where
  sign : List Char := []
  mark : List Char := []
  body : List Char
  isNumber : Bool := true

namespace Field

/-- Zeros stand behind the sign and the mark, blanks before or behind everything. -/
def fill (isLeft hasZeros : Bool) (width : Nat) (field : Field) : List Char :=
  let gap := width - (field.sign.length + field.mark.length + field.body.length)
  if isLeft then field.sign ++ field.mark ++ field.body ++ List.replicate gap ' '
  else if hasZeros && field.isNumber then
    field.sign ++ field.mark ++ List.replicate gap '0' ++ field.body
  else List.replicate gap ' ' ++ field.sign ++ field.mark ++ field.body

end Field

namespace Directive

def sign (directive : Directive) (isNegative : Bool) : List Char :=
  if isNegative then ['-']
  else if directive.showsPlus then ['+']
  else if directive.showsBlank then [' ']
  else []

/-- Digits say how much of a text is kept. -/
def textField (digits : Option Nat) (text : List Char) : Field :=
  { body := digits.elim text text.take, isNumber := false }

/-- Digits say how many there are at least. -/
def integerField (directive : Directive) (digits : Option Nat) (base : Nat) (mark : List Char) (n : Int) :
    Field :=
  { sign := directive.sign (n < 0)
    mark := if directive.isMarked then mark else []
    body := Binary64.padZeros (digits.getD 0) (Nat.toDigits base n.natAbs) }

/-- Six digits unless their count is given. -/
def realField (directive : Directive) (digits : Option Nat) (form : Binary64.Form) (x : Binary64) : Field :=
  let (isNegative, body) := x.textWithDigits form directive.isMarked (digits.getD 6)
  { sign := directive.sign isNegative, body }

def inCapitals (field : Field) : Field :=
  { field with mark := field.mark.map Char.toUpper, body := field.body.map Char.toUpper }

/-- The number of a letter that asks for an integer; texts are not read as one. -/
def wholeOf : Value → Except Error Int
  | .text _ => .error .wrongType
  | .bytes _ => .error .wrongType
  | value => value.toInteger

def integralOf (value : Value) : Except Error Int :=
  value.integral?.elim (.error .wrongType) .ok

/-- A single character, or the number of one. -/
def characterOf (value : Value) : Except Error Char :=
  match value with
  | .text s =>
    match s.toList with
    | [c] => .ok c
    | _ => .error .wrongType
  | value => do
    let n ← integralOf value
    if 0 ≤ n ∧ n < 0x110000 then .ok (Char.ofNat n.toNat) else .error .integerTooLarge

/-- How a value is written under a letter that stands at `position`. -/
def field (directive : Directive) (digits : Option Nat) (position : Nat) (value : Value) :
    Char → Except Error Field
  | 's' => .ok (textField digits value.shown.toList)
  | 'r' => .ok (textField digits value.written.toList)
  | 'a' => .ok (textField digits (Text.asciiChars value.written.toList))
  | 'c' => return textField none [← characterOf value]
  | 'd' | 'i' | 'u' => return directive.integerField digits 10 [] (← wholeOf value)
  | 'o' => return directive.integerField digits 8 ['0', 'o'] (← integralOf value)
  | 'x' => return directive.integerField digits 16 ['0', 'x'] (← integralOf value)
  | 'X' => return inCapitals (directive.integerField digits 16 ['0', 'x'] (← integralOf value))
  | 'f' => return directive.realField digits .fixed (← value.toReal)
  | 'F' => return inCapitals (directive.realField digits .fixed (← value.toReal))
  | 'e' => return directive.realField digits .scientific (← value.toReal)
  | 'E' => return inCapitals (directive.realField digits .scientific (← value.toReal))
  | 'g' => return directive.realField digits .general (← value.toReal)
  | 'G' => return inCapitals (directive.realField digits .general (← value.toReal))
  | letter => .error (.directiveUnknown letter position)

/-- Width and digits of a directive, after its key is looked up. -/
def measures (directive : Directive) (supply : Supply) :
    Except Error (Option Int × Option Int × Supply) := do
  let supply ← match directive.key with
    | none => .ok supply
    | some key => supply.atKey key
  let (width, supply) ← supply.measure (Nat.pow 2 63) .widthTooLarge directive.width
  let (digits, supply) ← supply.measure (Nat.pow 2 31) .digitsTooLarge directive.digits
  return (width, digits, supply)

/-- A negative width is one to the left, and a negative count of digits is none. -/
def fill (directive : Directive) (letter : Char) (position : Nat) (supply : Supply) :
    Except Error (List Char × Supply) := do
  let (width, digits, supply) ← directive.measures supply
  let (value, supply) ← supply.take
  let field ← directive.field (digits.map Int.toNat) position value letter
  let width := width.getD 0
  return (field.fill (directive.isLeft || width < 0) directive.hasZeros width.natAbs, supply)

end Directive

def fillSegments : List Segment → Supply → Except Error (List Char)
  | [], supply => if supply.isSpent then .ok [] else .error .wrongType
  | .plain c :: rest, supply => return c :: (← fillSegments rest supply)
  | .place directive letter position :: rest, supply => do
    let (text, supply) ← directive.fill letter position supply
    return text ++ (← fillSegments rest supply)
  | .keyOpen :: _, supply =>
    .error (if supply.entries.isSome then .directiveKeyOpen else .wrongType)
  | .cut directive :: _, supply => do
    let _ ← directive.measures supply
    .error .directiveMissing

/-- Without values a message is taken as it is. -/
def fillMessage (message : String) (values : List Value) : Except Error String :=
  if values.isEmpty then .ok message
  else return String.ofList (← fillSegments (Reading.segments 0 .between message.toList)
    (.ofValues values))

end SqlBuilder.Log
