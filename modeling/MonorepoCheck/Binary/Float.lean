import MonorepoCheck.Binary.Rounding

/-!
Binary floating-point numbers, kept as exact values `significand * 2 ^ exponent`. `Format.round`
gives the number of a format that is nearest to a fraction, a tie going to the even significand;
`Format.pattern` gives the bits by which a number is stored.
-/
namespace MonorepoCheck.Binary

inductive Number where
  | finite (negative : Bool) (significand : Nat) (exponent : Int)
  | infinite (negative : Bool)
  /-- the outcome of an undefined operation -/
  | undefined (negative : Bool)
  deriving DecidableEq, Repr, Inhabited

structure Format where
  /-- the number of significant binary digits -/
  precision : Nat
  /-- the exponent of the smallest positive number -/
  least : Int
  /-- the exponent of the largest numbers -/
  greatest : Int
  deriving DecidableEq, Repr

def single : Format := ⟨24, -149, 104⟩

def double : Format := ⟨53, -1074, 971⟩

/-- The fraction divided by `2 ^ exponent`. -/
def scaleDown (numerator denominator : Nat) (exponent : Int) : Nat × Nat :=
  if 0 ≤ exponent then (numerator, denominator * Nat.pow 2 exponent.toNat)
  else (numerator * Nat.pow 2 (-exponent).toNat, denominator)

/-- The greatest exponent of two that is not above a positive fraction. -/
def floorLog (numerator denominator : Nat) : Int :=
  let guess : Int := bitLength numerator - bitLength denominator
  let (n, d) := scaleDown numerator denominator guess
  if d ≤ n then guess else guess - 1

namespace Format

/-- The pattern of positive infinity, which is above those of all finite numbers. -/
def infinity (format : Format) : Nat :=
  (format.greatest - format.least + 2).toNat * Nat.pow 2 (format.precision - 1)

/-- The bits of a finite number without its sign. The significand has `precision` digits, fewer only
if the exponent is the least one. -/
def magnitude (format : Format) (significand : Nat) (exponent : Int) : Nat :=
  let unit := Nat.pow 2 (format.precision - 1)
  if significand < unit then significand
  else (exponent - format.least + 1).toNat * unit + (significand - unit)

def signBit (format : Format) (negative : Bool) : Nat :=
  if negative then format.infinity + Nat.pow 2 (format.precision - 1) else 0

def pattern (format : Format) : Number → Nat
  | .finite negative significand exponent =>
    format.signBit negative + format.magnitude significand exponent
  | .infinite negative => format.signBit negative + format.infinity
  | .undefined negative =>
    format.signBit negative + format.infinity + Nat.pow 2 (format.precision - 2)

/-- The number nearest to a fraction. -/
def round (format : Format) (negative : Bool) (numerator denominator : Nat) : Number :=
  if numerator = 0 then .finite negative 0 format.least
  else
    let exponent := max format.least
      (floorLog numerator denominator - (format.precision - 1 : Nat))
    let (n, d) := scaleDown numerator denominator exponent
    let significand := roundQuotient n d
    if format.infinity ≤ format.magnitude significand exponent then .infinite negative
    else if significand = Nat.pow 2 format.precision then
      .finite negative (Nat.pow 2 (format.precision - 1)) (exponent + 1)
    else .finite negative significand exponent

/-- The number of this format nearest to one of any format. -/
def convert (format : Format) : Number → Number
  | .finite negative significand exponent =>
    let (n, d) := scaleDown significand 1 (-exponent)
    format.round negative n d
  | .infinite negative => .infinite negative
  | .undefined negative => .undefined negative

def ofInt (format : Format) (n : Int) : Number := format.round (decide (n < 0)) n.natAbs 1

/-- Decimal exponents past this bound name zero or infinity in every format. -/
def decimalBound : Nat := 400

/-- The number nearest to `digits * 10 ^ exponent`. -/
def ofDecimal (format : Format) (negative : Bool) (digits : Nat) (exponent : Int) : Number :=
  let places : Int := (Nat.toDigits 10 digits).length
  if digits = 0 || places + exponent < -(decimalBound : Int) then
    .finite negative 0 format.least
  else if (decimalBound : Int) < places + exponent then .infinite negative
  else if 0 ≤ exponent then format.round negative (digits * Nat.pow 10 exponent.toNat) 1
  else format.round negative digits (Nat.pow 10 (-exponent).toNat)

end Format
end MonorepoCheck.Binary
