import SqlBuilder.Number.Binary64
import SqlBuilder.Text.Blank
import SqlBuilder.Text.DecimalDigit

/-!
Integers and floating point numbers written as text. White space around a number is ignored, the digits
of every script count, and a single underscore may stand between two digits.
-/

namespace SqlBuilder.Number

open SqlBuilder.Text

/-- White space around a number. The four separators of ASCII are no part of it. -/
def isSurround (c : Char) : Bool :=
  isBlank c && !(0x1c ≤ c.toNat && c.toNat ≤ 0x1f)

def stripSurround (cs : List Char) : List Char :=
  ((cs.dropWhile isSurround).reverse.dropWhile isSurround).reverse

/-- A sign in front, if any: is it a minus, and the rest. -/
def readSign : List Char → Bool × List Char
  | '-' :: rest => (true, rest)
  | '+' :: rest => (false, rest)
  | cs => (false, cs)

/-- The digits in front and the rest. An underscore is skipped where a digit stands on both sides;
`afterDigit` tells whether one stands before. -/
def readDigits (afterDigit : Bool) : List Char → List Nat × List Char
  | [] => ([], [])
  | c :: rest =>
    match decimalDigit? c with
    | some d =>
      let (ds, left) := readDigits true rest
      (d :: ds, left)
    | none =>
      if c = '_' ∧ afterDigit then
        match rest with
        | next :: _ =>
          if (decimalDigit? next).isSome then readDigits false rest else ([], c :: rest)
        | [] => ([], c :: rest)
      else ([], c :: rest)

def ofDigits (digits : List Nat) : Nat :=
  digits.foldl (fun n d => 10 * n + d) 0

inductive ReadError where
  | malformed
  | tooLong (digits : Nat)
deriving DecidableEq

/-- More digits than this are refused, whatever follows them. -/
def digitLimit : Nat := 4300

def readInt (cs : List Char) : Except ReadError Int :=
  let (negative, unsigned) := readSign (stripSurround cs)
  let (digits, rest) := readDigits false unsigned
  if rest.head? = some '_' ∨ digits.isEmpty then .error .malformed
  else if digitLimit < digits.length then .error (.tooLong digits.length)
  else if rest.isEmpty then
    .ok (if negative then -(ofDigits digits : Int) else ofDigits digits)
  else .error .malformed

/-- Digits after the point, if there is one; an underscore may not touch the point. -/
def readFraction : List Char → List Nat × List Char
  | '.' :: rest => readDigits false rest
  | cs => ([], cs)

/-- The exponent, if there is one; nothing if it has no digits. -/
def readExponent? : List Char → Option (Int × List Char)
  | c :: rest =>
    if c = 'e' ∨ c = 'E' then
      let (negative, unsigned) := readSign rest
      let (digits, left) := readDigits false unsigned
      if digits.isEmpty then none
      else some (if negative then -(ofDigits digits : Int) else ofDigits digits, left)
    else some (0, c :: rest)
  | [] => some (0, [])

def specialFloat? (negative : Bool) (word : List Char) : Option Binary64 :=
  let word := word.map Char.toLower
  if word = "nan".toList then some .nan
  else if word = "inf".toList ∨ word = "infinity".toList then some (.infinite negative)
  else none

def readFloat? (cs : List Char) : Option Binary64 :=
  let (negative, unsigned) := readSign (stripSurround cs)
  match specialFloat? negative unsigned with
  | some x => some x
  | none =>
    let (whole, rest) := readDigits false unsigned
    let (places, rest) := readFraction rest
    match readExponent? rest with
    | some (exponent, []) =>
      if whole.isEmpty ∧ places.isEmpty then none
      else some (Binary64.ofDecimal negative (ofDigits (whole ++ places)) (exponent - places.length))
    | _ => none

end SqlBuilder.Number
