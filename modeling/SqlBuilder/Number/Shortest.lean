import SqlBuilder.Number.Binary64

/-!
The text of a floating point number: the fewest decimal digits that read back as the same number,
of these the nearest, and a tie goes to the even digit.
-/

namespace SqlBuilder.Binary64

/-- Where a number's text is positional and how its exponent is written. -/
structure Notation where
  leastPositional : Int
  greatestPositional : Int
  exponentMark : String
  exponentWidth : Nat
  nan : String
  infinity : String

/-- Numbers from 0.0001 below 10^16 are written positionally and keep `.0`; the exponent of the others
has a sign and at least two digits. -/
def literalNotation : Notation := {
  leastPositional := -4
  greatestPositional := 15
  exponentMark := "e"
  exponentWidth := 2
  nan := "nan"
  infinity := "inf" }

/-- The reals that round to `m · 2^e`, in units of `2^(e-2)`. Below a power of two the numbers lie
twice as dense. -/
def roundingInterval (m : Nat) (e : Int) : Nat × Nat :=
  (if m = Nat.pow 2 52 ∧ leastExponent < e then 4 * m - 1 else 4 * m - 2, 4 * m + 2)

/-- `floor (log10 (num / den))` for a fraction above `10^-400`. -/
def decimalMagnitude (num den : Nat) : Int :=
  (Nat.toDigits 10 (num * Nat.pow 10 400 / den)).length - 1 - 400

/-- The grid point of `10^power` nearest to `m · 2^e` among those that read back. -/
def gridPoint? (m : Nat) (e power : Int) : Option Nat :=
  let (scale, unit) := scaleFraction 1 1 (e - 2)
  let (ten, one) := (Nat.pow 10 power.toNat, Nat.pow 10 (-power).toNat)
  let (low, high) := roundingInterval m e
  -- A point k stands for k · 10^power; all sides are multiplied by unit · one.
  let place (k : Nat) := k * ten * unit
  let bound (x : Nat) := x * scale * one
  let inside (k : Nat) :=
    if m % 2 = 0 then bound low ≤ place k && place k ≤ bound high
    else bound low < place k && place k < bound high
  let below := bound (4 * m) / (ten * unit)
  match inside below, inside (below + 1) with
  | true, true =>
    let toBelow := bound (4 * m) - place below
    let toAbove := place (below + 1) - bound (4 * m)
    if toBelow < toAbove then some below
    else if toAbove < toBelow then some (below + 1)
    else if below % 2 = 0 then some below else some (below + 1)
  | true, false => some below
  | false, true => some (below + 1)
  | false, false => none

/-- Digits and power of ten of the shortest decimal; seventeen digits always suffice. -/
def shortestDecimal (m : Nat) (e : Int) : Nat × Int :=
  let (num, den) := scaleFraction m 1 e
  let magnitude := decimalMagnitude num den
  let candidates := (List.range 17).filterMap fun (extra : Nat) =>
    let power := magnitude - extra
    (gridPoint? m e power).map fun k => (k, power)
  candidates.head?.getD (m, e)

def natText (n : Nat) : List Char :=
  Nat.toDigits 10 n

def padZeros (width : Nat) (digits : List Char) : List Char :=
  List.replicate (width - digits.length) '0' ++ digits

/-- The power of ten behind the digits, with its sign. -/
def exponentText (style : Notation) (power : Int) : List Char :=
  style.exponentMark.toList ++ [if power < 0 then '-' else '+'] ++
    padZeros style.exponentWidth (natText power.natAbs)

/-- Digits without trailing zeros; `power` is the power of ten of the first digit. -/
def writeDigits (style : Notation) (digits : List Char) (power : Int) : List Char :=
  if style.leastPositional ≤ power ∧ power ≤ style.greatestPositional then
    if power < 0 then
      "0.".toList ++ List.replicate (-power - 1).toNat '0' ++ digits
    else
      let whole := digits.take (power + 1).toNat
      let rest := digits.drop (power + 1).toNat
      whole ++ List.replicate ((power + 1).toNat - whole.length) '0' ++ ['.'] ++
        (if rest.isEmpty then ['0'] else rest)
  else
    let tail := digits.drop 1
    digits.take 1 ++ (if tail.isEmpty then [] else '.' :: tail) ++ exponentText style power

def dropTrailingZeros (digits : List Char) : List Char :=
  (digits.reverse.dropWhile (· = '0')).reverse

def write (style : Notation) (x : Binary64) : String :=
  let sign (negative : Bool) := if negative then ['-'] else []
  match x with
  | .nan => style.nan
  | .infinite negative => String.ofList (sign negative) ++ style.infinity
  | .finite negative m e =>
    if m = 0 then String.ofList (sign negative ++ writeDigits style ['0'] 0)
    else
      let (k, power) := shortestDecimal m e
      let digits := natText k
      String.ofList (sign negative ++
        writeDigits style (dropTrailingZeros digits) (power + digits.length - 1))

/-- The text of a number as a literal. -/
def text (x : Binary64) : String :=
  x.write literalNotation

end SqlBuilder.Binary64
