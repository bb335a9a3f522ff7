/-!
Rounding to a number of significant binary digits, as floating-point arithmetic does it. The values
are exact naturals and fractions; no floating-point number is computed with.
-/
namespace MonorepoCheck.Binary

/-- The nearest integer to a fraction; a tie goes to the even neighbour. -/
def roundQuotient (numerator denominator : Nat) : Nat :=
  let low := numerator / denominator
  let twice := 2 * (numerator % denominator)
  if denominator < twice || (twice == denominator && low % 2 == 1) then low + 1 else low

def bitLength (n : Nat) : Nat := if n = 0 then 0 else n.log2 + 1

/-- The nearest number with at most `precision` significant binary digits. -/
def roundTo (precision n : Nat) : Nat :=
  let unit := Nat.pow 2 (bitLength n - precision)
  roundQuotient n unit * unit

end MonorepoCheck.Binary
