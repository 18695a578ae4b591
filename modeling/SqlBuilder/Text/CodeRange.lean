/-!
Sets of characters given as ranges of code points, both ends included.
-/

namespace SqlBuilder.Text

abbrev CodeRange := Nat × Nat

def covers (ranges : List CodeRange) (c : Char) : Bool :=
  ranges.any fun range => range.1 ≤ c.toNat && c.toNat ≤ range.2

end SqlBuilder.Text
