import MonorepoCheck.Text.Digit

/-!
Sets of characters, as the properties of Unicode give them.
-/
namespace MonorepoCheck.Text

/-- A set of characters by its edges in rising order: it starts at the first of them, ends before
the second, and so on. -/
structure CharSet where
  edges : List Nat
  deriving Repr

/-- A character is in the set if the number of edges up to it is odd. -/
def CharSet.contains (set : CharSet) (c : Char) : Bool :=
  (set.edges.takeWhile (· ≤ c.toNat)).length % 2 == 1

end MonorepoCheck.Text
