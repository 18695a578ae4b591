/-!
Binary floating point numbers of 64 bits, kept as the numbers they denote, so that every operation is
exact arithmetic followed by one rounding.
-/

namespace SqlBuilder

/-- `finite negative m e` is `±m · 2^e`. In the values that rounding produces `m < 2^53` and
`-1074 ≤ e ≤ 971`, and `m` has 53 bits unless `e = -1074`. -/
inductive Binary64 where
  | nan
  | infinite (negative : Bool)
  | finite (negative : Bool) (mantissa : Nat) (exponent : Int)
deriving DecidableEq, Repr

namespace Binary64

def leastExponent : Int := -1074

def greatestExponent : Int := 971

/-- The quotient of two naturals, to the nearest integer; a half goes to the even neighbour. -/
def divideToEven (num den : Nat) : Nat :=
  let low := num / den
  let twice := 2 * (num % den)
  if twice < den then low
  else if den < twice then low + 1
  else if low % 2 = 0 then low else low + 1

/-- `num / den` scaled by `2^shift`, as a fraction of naturals. -/
def scaleFraction (num den : Nat) (shift : Int) : Nat × Nat :=
  (num <<< shift.toNat, den <<< (-shift).toNat)

/-- The number nearest to `±num / den`; a tie goes to the even mantissa. -/
def ofFraction (negative : Bool) (num den : Nat) : Binary64 :=
  if num = 0 then .finite negative 0 leastExponent
  else
    let guess : Int := num.log2 - den.log2 - 52
    let (n, d) := scaleFraction num den (-guess)
    let exponent := max leastExponent (if n / d < Nat.pow 2 52 then guess - 1 else guess)
    let (n, d) := scaleFraction num den (-exponent)
    let mantissa := divideToEven n d
    let (mantissa, exponent) :=
      if mantissa = Nat.pow 2 53 then (Nat.pow 2 52, exponent + 1) else (mantissa, exponent)
    if greatestExponent < exponent then .infinite negative
    else .finite negative mantissa exponent

/-- The nearest number to an integer, or nothing where that would be an infinity. -/
def ofInt? (n : Int) : Option Binary64 :=
  match ofFraction (n < 0) n.natAbs 1 with
  | .infinite _ => none
  | x => some x

/-- The number nearest to `±digits · 10^power`. Sizes far outside the range are settled by the
number of digits alone, so that no huge power of ten is computed. -/
def ofDecimal (negative : Bool) (digits : Nat) (power : Int) : Binary64 :=
  let magnitude := power + (Nat.toDigits 10 digits).length
  if digits = 0 ∨ magnitude < -400 then .finite negative 0 leastExponent
  else if 400 < magnitude then .infinite negative
  else ofFraction negative (digits * Nat.pow 10 power.toNat) (Nat.pow 10 (-power).toNat)

/-- Sign, numerator and denominator of a finite number. -/
def fraction? : Binary64 → Option (Bool × Nat × Nat)
  | .finite negative m e => some (negative, scaleFraction m 1 e)
  | _ => none

/-- The integer part, toward zero. -/
def truncate? (x : Binary64) : Option Int :=
  x.fraction?.map fun (negative, num, den) =>
    let whole : Int := (num / den : Nat)
    if negative then -whole else whole

def neg : Binary64 → Binary64
  | .nan => .nan
  | .infinite negative => .infinite !negative
  | .finite negative m e => .finite (!negative) m e

/-- A finite number as an integer numerator over a positive denominator. -/
def signed (negative : Bool) (num : Nat) : Int :=
  if negative then -(num : Int) else num

def add (x y : Binary64) : Binary64 :=
  match x, y with
  | .nan, _ => .nan
  | _, .nan => .nan
  | .infinite a, .infinite b => if a = b then .infinite a else .nan
  | .infinite a, _ => .infinite a
  | _, .infinite b => .infinite b
  | .finite a m e, .finite b n f =>
    let low := min e f
    let sum := signed a (m <<< (e - low).toNat) + signed b (n <<< (f - low).toNat)
    let (num, den) := scaleFraction sum.natAbs 1 low
    ofFraction (if sum = 0 then a && b else sum < 0) num den

def sub (x y : Binary64) : Binary64 :=
  add x y.neg

def mul (x y : Binary64) : Binary64 :=
  match x, y with
  | .nan, _ => .nan
  | _, .nan => .nan
  | .finite a m e, .finite b n f =>
    let (num, den) := scaleFraction (m * n) 1 (e + f)
    ofFraction (a != b) num den
  | .finite a m _, .infinite b => if m = 0 then .nan else .infinite (a != b)
  | .infinite a, .finite b n _ => if n = 0 then .nan else .infinite (a != b)
  | .infinite a, .infinite b => .infinite (a != b)

/-- The order of the numbers denoted; nothing if one of them is no number. -/
def compare? (x y : Binary64) : Option Ordering :=
  match x, y with
  | .nan, _ => none
  | _, .nan => none
  | .infinite a, .infinite b => some (compare b.toNat a.toNat)
  | .infinite a, _ => some (if a then .lt else .gt)
  | _, .infinite b => some (if b then .gt else .lt)
  | .finite a m e, .finite b n f =>
    let low := min e f
    some (compare (signed a (m <<< (e - low).toNat)) (signed b (n <<< (f - low).toNat)))

/-- The order of a number and an integer, without rounding the integer. -/
def compareInt? (x : Binary64) (n : Int) : Option Ordering :=
  match x with
  | .nan => none
  | .infinite negative => some (if negative then .lt else .gt)
  | .finite negative m e =>
    let (num, den) := scaleFraction m 1 e
    some (compare (signed negative num) (n * den))

end Binary64

end SqlBuilder
