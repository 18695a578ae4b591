import SqlBuilder.Value

/-!
The order of values, where there is one: numbers by what they denote, texts and byte strings by their
characters, collections by the first members that differ. Values of different kinds have no order.
-/

namespace SqlBuilder.Value

/-- What is no number comes after every number. -/
def compareNumbers? (x y : Value) : Option Ordering :=
  match x, y with
  | .float a, .float b => some ((a.compare? b).getD .gt)
  | .float a, y => y.integral?.map fun n => (a.compareInt? n).getD .gt
  | x, .float b => x.integral?.map fun n => (b.compareInt? n).elim .gt Ordering.swap
  | x, y => do return compare (← x.integral?) (← y.integral?)

mutual

def compare? : Value → Value → Option Ordering
  | .text a, .text b => some (compare a b)
  | .bytes a, .bytes b => some (compare (a.map UInt8.toNat) (b.map UInt8.toNat))
  | .list xs, .list ys => compareEach? xs ys
  | .tuple xs, .tuple ys => compareEach? xs ys
  | x, y => compareNumbers? x y
termination_by structural x => x

def compareEach? : List Value → List Value → Option Ordering
  | [], [] => some .eq
  | [], _ => some .lt
  | _, [] => some .gt
  | x :: xs, y :: ys => if x.equals y then compareEach? xs ys else compare? x y
termination_by structural xs => xs

end

/-- Whether any two of the values have an order. -/
def areOrdered : List Value → Bool
  | [] => true
  | x :: xs => xs.all (fun y => (compare? x y).isSome) && areOrdered xs

/-- Values of which any two have an order, ascending. -/
def ascending (values : List Value) : List Value :=
  values.mergeSort fun x y => compare? x y != some .gt

/-- Each value once, where it stands first. -/
def distinct (values : List Value) : List Value :=
  values.foldl (fun seen x => if seen.any (·.equals x) then seen else seen ++ [x]) []

end SqlBuilder.Value
