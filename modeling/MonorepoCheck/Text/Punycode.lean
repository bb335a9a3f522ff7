import MonorepoCheck.Text.Digit

/-!
Reading Punycode, which spells any text in ASCII (RFC 3492): the ASCII characters of the text, a
hyphen, and then numbers that say which other characters stand where.
-/
namespace MonorepoCheck.Text.Punycode

/-- The value of a digit: `a` is 0 and `9` is 35. -/
def digit? (c : Char) : Option Nat :=
  if 'a' ≤ c && c ≤ 'z' then some (c.toNat - 'a'.toNat)
  else if isAsciiDigit c then some (digitValue c + 26)
  else none

/-- Digits below this end a number, for the digit at `place`. -/
def threshold (bias place : Nat) : Nat := min 26 (max 1 (36 * place - bias))

/-- A number with its least digit first, and the rest. -/
def readNumber (bias : Nat) : Nat → Nat → Nat → List Char → Option (Nat × List Char)
  | _, _, _, [] => none
  | place, weight, value, c :: rest => do
    let digit ← digit? c
    let value := value + digit * weight
    let least := threshold bias place
    if digit < least then pure (value, rest)
    else readNumber bias (place + 1) (weight * (36 - least)) value rest

/-- Halves a step between numbers until it is small, and counts the halvings by 35. -/
def settle : Nat → Nat → Nat × Nat
  | 0, step => (0, step)
  | rounds + 1, step =>
    if step ≤ 455 then (0, step)
    else
      let (count, step) := settle rounds (step / 35)
      (count + 1, step)

/-- The bias for the next number, after a step in a text of so many characters. -/
def nextBias (isFirst : Bool) (step length : Nat) : Nat :=
  let step := if isFirst then step / 700 else step / 2
  let (count, step) := settle step (step + step / length)
  36 * count + 36 * step / (step + 38)

/-- Puts in the characters that the numbers tell. `fuel` bounds how many there are. -/
def insertAll : Nat → List Char → Nat → Nat → Nat → List Char → Option (List Char)
  | 0, _, _, _, _, _ => none
  | _ + 1, [], _, _, _, text => some text
  | fuel + 1, digits, point, index, bias, text => do
    let (step, rest) ← readNumber bias 1 1 0 digits
    let places := text.length + 1
    let total := index + step
    let point := point + total / places
    if h : point.isValidChar then
      let place := total % places
      insertAll fuel rest point (place + 1) (nextBias (index == 0) step places)
        (text.take place ++ Char.ofNatAux point h :: text.drop place)
    else none

/-- The text that a spelling stands for. The last hyphen ends its ASCII characters. -/
def decode? (spelling : List Char) : Option (List Char) :=
  let digits := (spelling.reverse.takeWhile (· != '-')).reverse
  let ascii := (spelling.take (spelling.length - digits.length)).dropLast
  if spelling.head? == some '-' && ascii.isEmpty then none
  else insertAll (digits.length + 1) digits 128 0 72 ascii

end MonorepoCheck.Text.Punycode
