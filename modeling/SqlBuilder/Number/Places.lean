import SqlBuilder.Number.Shortest

/-!
Numbers written with a given count of digits, rounded from the exact value; a half goes to the even
neighbour.
-/

namespace SqlBuilder.Binary64

/-- `fixed` counts the digits after the point, `scientific` those after the first, and `general` all that
are not leading zeros. -/
inductive Form where
  | fixed
  | scientific
  | general
deriving DecidableEq, Repr

/-- A point with nothing behind it stands only where it is wanted. -/
def joinPoint (keepsPoint : Bool) (whole fraction : List Char) : List Char :=
  whole ++ if fraction.isEmpty && !keepsPoint then [] else '.' :: fraction

def fixedDigits (keepsPoint : Bool) (places num den : Nat) : List Char :=
  let units := divideToEven (num * Nat.pow 10 places) den
  joinPoint keepsPoint (natText (units / Nat.pow 10 places))
    (if places = 0 then [] else padZeros places (natText (units % Nat.pow 10 places)))

/-- The first `count` digits, and the power of ten of the first of them. Rounding up may carry over into a
new first digit. -/
def leadingDigits (count num den : Nat) : List Char × Int :=
  if num = 0 then (List.replicate count '0', 0)
  else
    let power := decimalMagnitude num den
    let shift : Int := count - 1 - power
    let digits := divideToEven (num * Nat.pow 10 shift.toNat) (den * Nat.pow 10 (-shift).toNat)
    if digits = Nat.pow 10 count then (natText (digits / 10), power + 1) else (natText digits, power)

def scientificDigits (keepsPoint : Bool) (power : Int) (digits : List Char) : List Char :=
  joinPoint keepsPoint (digits.take 1) (digits.drop 1) ++ exponentText literalNotation power

/-- Zeros behind the last digit are dropped unless the point is wanted. -/
def generalDigits (keepsPoint : Bool) (count : Nat) (power : Int) (digits : List Char) : List Char :=
  let digits := if keepsPoint then digits else digits.take 1 ++ dropTrailingZeros (digits.drop 1)
  if power < literalNotation.leastPositional ∨ count ≤ power then
    scientificDigits keepsPoint power digits
  else if power < 0 then
    joinPoint keepsPoint ['0'] (List.replicate (-power - 1).toNat '0' ++ digits)
  else
    let whole := digits.take (power + 1).toNat
    joinPoint keepsPoint (whole ++ List.replicate ((power + 1).toNat - whole.length) '0')
      (digits.drop (power + 1).toNat)

def finiteDigits (form : Form) (keepsPoint : Bool) (count num den : Nat) : List Char :=
  match form with
  | .fixed => fixedDigits keepsPoint count num den
  | .scientific =>
    let (digits, power) := leadingDigits (count + 1) num den
    scientificDigits keepsPoint power digits
  | .general =>
    let (digits, power) := leadingDigits (max count 1) num den
    generalDigits keepsPoint (max count 1) power digits

/-- Whether the number has a minus sign, and the text behind it. -/
def textWithDigits (form : Form) (keepsPoint : Bool) (count : Nat) : Binary64 → Bool × List Char
  | .nan => (false, literalNotation.nan.toList)
  | .infinite negative => (negative, literalNotation.infinity.toList)
  | .finite negative m e =>
    let (num, den) := scaleFraction m 1 e
    (negative, finiteDigits form keepsPoint count num den)

/-- A count of places behind the point. -/
def textFixed (places : Nat) (x : Binary64) : String :=
  let (isNegative, digits) := x.textWithDigits .fixed false places
  String.ofList ((if isNegative then ['-'] else []) ++ digits)

end SqlBuilder.Binary64
