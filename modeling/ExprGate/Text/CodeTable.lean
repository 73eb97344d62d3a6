/-!
# Tables of code points

A Unicode property is given as a list of ranges of code points in increasing order, both ends
included. Membership is the only question asked of such a table.
-/

set_option autoImplicit false

namespace ExprGate.Text

/-- A set of code points, as ranges with both ends included. -/
structure CodeTable where
  /-- The ranges, in increasing order. -/
  ranges : List (Nat × Nat)

/-- Whether the code point of a character lies in one of the ranges. -/
def CodeTable.contains (t : CodeTable) (c : Char) : Bool :=
  t.ranges.any fun (first, last) => first ≤ c.toNat && c.toNat ≤ last

end ExprGate.Text
