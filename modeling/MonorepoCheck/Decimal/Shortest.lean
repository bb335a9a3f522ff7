import MonorepoCheck.Binary.Float
import MonorepoCheck.Text.Digit

/-!
The shortest decimal that names a floating-point number: of all decimals that round to the number,
one with the fewest digits, and of those the one nearest to it.
-/
namespace MonorepoCheck.Decimal

/-- `digits * 10 ^ exponent`, the digits with no zero at their end. -/
structure Shortest where
  digits : Nat
  exponent : Int
  deriving DecidableEq, Repr

/-- Positive fractions that round to a number: from `low` to `high` around `value`, all over
`denominator`; the ends count when `closed`. -/
structure Interval where
  low : Nat
  value : Nat
  high : Nat
  denominator : Nat
  closed : Bool

/-- The fractions that round to `significand * 2 ^ exponent`. Below a power of two the numbers lie
twice as close. -/
def Interval.around (format : Binary.Format) (significand : Nat) (exponent : Int) : Interval :=
  let below :=
    if significand = Nat.pow 2 (format.precision - 1) ∧ format.least < exponent then 1 else 2
  let (unit, denominator) := Binary.scaleDown 1 1 (2 - exponent)
  ⟨(4 * significand - below) * unit, 4 * significand * unit, (4 * significand + 2) * unit,
    denominator, significand % 2 == 0⟩

/-- Whether `digits * 10 ^ exponent` lies in the interval. -/
def Interval.holds (interval : Interval) (digits : Nat) (exponent : Int) : Bool :=
  let up := Nat.pow 10 exponent.toNat
  let down := Nat.pow 10 (-exponent).toNat
  let point := digits * up * interval.denominator
  if interval.closed then interval.low * down ≤ point && point ≤ interval.high * down
  else interval.low * down < point && point < interval.high * down

/-- How many decimal digits stand before the point of a fraction; not above zero where it is below
one tenth. -/
def decimalPlaces (numerator denominator : Nat) : Int :=
  let guess : Int := (Text.decimal numerator).length - (Text.decimal denominator).length
  let up := Nat.pow 10 (-guess).toNat
  let down := Nat.pow 10 guess.toNat
  if denominator * down ≤ numerator * up then guess + 1 else guess

/-- The nearer of the two neighbours of the value on the grid of `10 ^ exponent`, as far as they
lie in the interval. -/
def Interval.onGrid? (interval : Interval) (exponent : Int) : Option Nat :=
  let n := interval.value * Nat.pow 10 (-exponent).toNat
  let d := interval.denominator * Nat.pow 10 exponent.toNat
  let low := n / d
  let nearer := Binary.roundQuotient n d
  let other := if nearer = low then low + 1 else low
  if interval.holds nearer exponent then some nearer
  else if interval.holds other exponent then some other
  else none

/-- The digits on the first grid that has any, from `count` digits on. -/
def Interval.search (interval : Interval) (places : Int) : Nat → Nat → Nat × Int
  | 0, count => (interval.value / interval.denominator, places - count)
  | rounds + 1, count =>
    let exponent := places - count
    match interval.onGrid? exponent with
    | some digits => (digits, exponent)
    | none => interval.search places rounds (count + 1)

/-- Strips zeros from the end of the digits. `rounds` bounds their number. -/
def strip : Nat → Nat → Int → Shortest
  | 0, digits, exponent => ⟨digits, exponent⟩
  | rounds + 1, digits, exponent =>
    if digits ≠ 0 ∧ digits % 10 = 0 then strip rounds (digits / 10) (exponent + 1)
    else ⟨digits, exponent⟩

/-- The shortest decimal for a positive number of a format. Seventeen digits name every number of
up to 53 binary ones. -/
def shortest (format : Binary.Format) (significand : Nat) (exponent : Int) : Shortest :=
  let interval := Interval.around format significand exponent
  let places := decimalPlaces interval.value interval.denominator
  let (digits, grid) := interval.search places 17 1
  strip 18 digits grid

/-- Positional notation, with at least one digit on either side of the point. -/
def Shortest.positional (d : Shortest) : List Char :=
  let digits := Text.decimal d.digits
  if 0 ≤ d.exponent then digits ++ List.replicate d.exponent.toNat '0' ++ ['.', '0']
  else
    let fraction := (-d.exponent).toNat
    if fraction < digits.length then
      digits.take (digits.length - fraction) ++ '.' :: digits.drop (digits.length - fraction)
    else '0' :: '.' :: List.replicate (fraction - digits.length) '0' ++ digits

/-- Scientific notation: one digit before the point, which is left out where no digit follows. -/
def Shortest.scientific (d : Shortest) : List Char :=
  let digits := Text.decimal d.digits
  let power := d.exponent + digits.length - 1
  let sign := if power < 0 then ['-'] else []
  match digits with
  | first :: [] => first :: 'e' :: sign ++ Text.decimal power.natAbs
  | first :: rest => first :: '.' :: rest ++ 'e' :: sign ++ Text.decimal power.natAbs
  | [] => []

end MonorepoCheck.Decimal
