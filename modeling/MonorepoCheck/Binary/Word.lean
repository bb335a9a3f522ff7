/-!
Numbers in the words of a machine, which have 64 bits.
-/
namespace MonorepoCheck

/-- Whether a number fits a machine word. -/
def fitsWord (n : Nat) : Bool := decide (n < Nat.pow 2 64)

/-- What comes of a sum that fits no word. An optimized build keeps the low bits, and a checked one
stops the program. -/
inductive Overflow where
  | wraps
  | stops
  deriving DecidableEq, Repr

end MonorepoCheck
