import SqlBuilder.Number.Binary64

/-!
Values that callers hand to statements and that drivers hand back. What a value is matters only where
it is bound, compared or shown; everywhere else it passes through unchanged.
-/

namespace SqlBuilder

/-- `raw` is a fragment of SQL that stands in a statement as it is. A `dict` holds its entries in the
order of insertion, each key once. -/
inductive Value where
  | null
  | bool (b : Bool)
  | int (n : Int)
  | float (x : Binary64)
  | text (s : String)
  | bytes (bs : List UInt8)
  | list (xs : List Value)
  | tuple (xs : List Value)
  | dict (entries : List (Value × Value))
  | raw (sql : String)
deriving Inhabited

namespace Value

/-- The integer a number or truth value stands for, in comparisons with other numbers. -/
def integral? : Value → Option Int
  | .bool b => some b.toNat
  | .int n => some n
  | _ => none

def equalsNumber (x y : Value) : Bool :=
  match x, y with
  | .float a, .float b => a.compare? b == some .eq
  | .float a, _ => y.integral?.any fun n => a.compareInt? n == some .eq
  | _, .float b => x.integral?.any fun n => b.compareInt? n == some .eq
  | _, _ =>
    match x.integral?, y.integral? with
    | some m, some n => m == n
    | _, _ => false

mutual

/-- Numbers are equal by what they denote, truth values counting as 0 and 1; mappings are equal
whatever the order of their entries. -/
def equals : Value → Value → Bool
  | .null, .null => true
  | .text a, .text b => a == b
  | .bytes a, .bytes b => a == b
  | .raw a, .raw b => a == b
  | .list xs, .list ys => equalsEach xs ys
  | .tuple xs, .tuple ys => equalsEach xs ys
  | .dict xs, .dict ys => xs.length == ys.length && containsEach xs ys
  | x, y => equalsNumber x y
termination_by structural x => x

def equalsEach : List Value → List Value → Bool
  | [], [] => true
  | x :: xs, y :: ys => equals x y && equalsEach xs ys
  | _, _ => false
termination_by structural xs => xs

def containsEach : List (Value × Value) → List (Value × Value) → Bool
  | [], _ => true
  | x :: xs, ys => ys.any (fun y => equalsEntry x y) && containsEach xs ys
termination_by structural xs => xs

def equalsEntry : Value × Value → Value × Value → Bool
  | (key, value), y => equals key y.1 && equals value y.2
termination_by structural x => x

end

/-- Entries with a new value under a key: in the place of the old one, else at the end. -/
def setEntry (key value : Value) : List (Value × Value) → List (Value × Value)
  | [] => [(key, value)]
  | entry :: rest =>
    if entry.1.equals key then (entry.1, value) :: rest else entry :: setEntry key value rest

/-- A mapping from pairs of which a later one replaces an earlier one with an equal key. -/
def ofEntries (pairs : List (Value × Value)) : List (Value × Value) :=
  pairs.foldl (fun entries pair => setEntry pair.1 pair.2 entries) []

/-- Empty texts, collections, zero and null count as false; all else as true. -/
def isTrue : Value → Bool
  | .null => false
  | .bool b => b
  | .int n => n != 0
  | .float (.finite _ m _) => m != 0
  | .float _ => true
  | .text s => s != ""
  | .bytes bs => !bs.isEmpty
  | .list xs => !xs.isEmpty
  | .tuple xs => !xs.isEmpty
  | .dict entries => !entries.isEmpty
  | .raw _ => true

mutual

/-- Whether a value may be a key of a mapping. Lists and mappings may not, nor what holds them. -/
def isKey : Value → Bool
  | .list _ => false
  | .dict _ => false
  | .tuple xs => areKeys xs
  | _ => true
termination_by structural x => x

def areKeys : List Value → Bool
  | [] => true
  | x :: xs => isKey x && areKeys xs
termination_by structural xs => xs

end

/-- What a collection holds: a text its characters, a byte string its numbers, a mapping its keys. -/
def items? : Value → Option (List Value)
  | .text s => some (s.toList.map fun c => .text (String.singleton c))
  | .bytes bs => some (bs.map fun b => .int b.toNat)
  | .list xs => some xs
  | .tuple xs => some xs
  | .dict entries => some (entries.map (·.1))
  | _ => none

def text? : Value → Option String
  | .text s => some s
  | _ => none

def entries? : Value → Option (List (Value × Value))
  | .dict entries => some entries
  | _ => none

def isNull : Value → Bool
  | .null => true
  | _ => false

end Value

end SqlBuilder
