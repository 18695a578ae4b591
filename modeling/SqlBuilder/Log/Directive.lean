/-!
Directives, the places that a message keeps for values: `%`, a key in parentheses, flags, a width, a
point with a count of digits, and the letter that says how the value is written. `%%` is a percent sign.
-/

namespace SqlBuilder.Log

/-- A width or a count of digits: written out, or taken from the values. -/
inductive Measure where
  | written (n : Nat)
  | taken
deriving DecidableEq, Repr

structure Directive where
  key : Option String := none
  isLeft : Bool := false
  showsPlus : Bool := false
  showsBlank : Bool := false
  isMarked : Bool := false
  hasZeros : Bool := false
  width : Option Measure := none
  digits : Option Measure := none
deriving DecidableEq, Repr

/-- What a message consists of. `keyOpen` is a key whose parenthesis is not closed, `cut` a directive
without its letter; both end the message. -/
inductive Segment where
  | plain (c : Char)
  | place (directive : Directive) (letter : Char) (position : Nat)
  | keyOpen
  | cut (directive : Directive)
deriving DecidableEq, Repr

/-- Where a reader of messages stands: between directives, behind `%`, or inside one of the parts of a
directive. A key is kept in reverse. -/
inductive Reading where
  | between
  | mark
  | key (depth : Nat) (taken : List Char)
  | flags (directive : Directive)
  | width (directive : Directive) (n : Nat)
  | widthTaken (directive : Directive)
  | point (directive : Directive)
  | digits (directive : Directive) (n : Nat)
  | digitsTaken (directive : Directive)
  | letter (directive : Directive)
deriving DecidableEq, Repr

namespace Reading

def digit? (c : Char) : Option Nat :=
  if c.isDigit then some (c.toNat - '0'.toNat) else none

/-- One letter of length may stand before the letter of the directive; it says nothing. -/
def readLetter (directive : Directive) (position : Nat) (c : Char) : Reading × List Segment :=
  if "hlL".toList.contains c then (.letter directive, [])
  else (.between, [.place directive c position])

/-- A point without digits asks for none. -/
def readPoint (directive : Directive) (position : Nat) (c : Char) : Reading × List Segment :=
  if c = '.' then (.point { directive with digits := some (.written 0) }, [])
  else readLetter directive position c

def readWidth (directive : Directive) (position : Nat) (c : Char) : Reading × List Segment :=
  if c = '*' then (.widthTaken { directive with width := some .taken }, [])
  else match digit? c with
    | some n => (.width { directive with width := some (.written n) } n, [])
    | none => readPoint directive position c

def readFlags (directive : Directive) (position : Nat) (c : Char) : Reading × List Segment :=
  match c with
  | '-' => (.flags { directive with isLeft := true }, [])
  | '+' => (.flags { directive with showsPlus := true }, [])
  | ' ' => (.flags { directive with showsBlank := true }, [])
  | '#' => (.flags { directive with isMarked := true }, [])
  | '0' => (.flags { directive with hasZeros := true }, [])
  | c => readWidth directive position c

/-- Parentheses inside a key are paired. -/
def readKey (depth : Nat) (taken : List Char) : Char → Reading
  | '(' => .key (depth + 1) ('(' :: taken)
  | ')' =>
    if depth = 0 then .flags { key := some (String.ofList taken.reverse) }
    else .key (depth - 1) (')' :: taken)
  | c => .key depth (c :: taken)

def step (position : Nat) (c : Char) : Reading → Reading × List Segment
  | .between => if c = '%' then (.mark, []) else (.between, [.plain c])
  | .mark =>
    if c = '%' then (.between, [.plain c])
    else if c = '(' then (.key 0 [], [])
    else readFlags {} position c
  | .key depth taken => (readKey depth taken c, [])
  | .flags directive => readFlags directive position c
  | .width directive n =>
    match digit? c with
    | some k => (.width { directive with width := some (.written (10 * n + k)) } (10 * n + k), [])
    | none => readPoint directive position c
  | .widthTaken directive => readPoint directive position c
  | .point directive =>
    if c = '*' then (.digitsTaken { directive with digits := some .taken }, [])
    else match digit? c with
      | some n => (.digits { directive with digits := some (.written n) } n, [])
      | none => readLetter directive position c
  | .digits directive n =>
    match digit? c with
    | some k => (.digits { directive with digits := some (.written (10 * n + k)) } (10 * n + k), [])
    | none => readLetter directive position c
  | .digitsTaken directive => readLetter directive position c
  | .letter directive => (.between, [.place directive c position])

/-- What the end of a message leaves unfinished. -/
def finish : Reading → List Segment
  | .between => []
  | .mark => [.cut {}]
  | .key .. => [.keyOpen]
  | .flags directive => [.cut directive]
  | .width directive _ => [.cut directive]
  | .widthTaken directive => [.cut directive]
  | .point directive => [.cut directive]
  | .digits directive _ => [.cut directive]
  | .digitsTaken directive => [.cut directive]
  | .letter directive => [.cut directive]

/-- The segments of a text from a position on. -/
def segments (position : Nat) : Reading → List Char → List Segment
  | reading, [] => reading.finish
  | reading, c :: cs =>
    let (next, found) := reading.step position c
    found ++ segments (position + 1) next cs

end Reading

end SqlBuilder.Log
