import MonorepoCheck.Shell.Script
import MonorepoCheck.Text.Search

/-!
Arithmetic in shell scripts: integers of 64 bits, variables and assignments to them, and operators
on numbers, bits and truths.
-/
namespace MonorepoCheck.Shell

open Text (Bytes)

def isSpace (c : Char) : Bool := c == ' ' || c == '\t' || c == '\n'

def decimalBytes (n : Int) : Bytes :=
  if n < 0 then '-' :: Text.decimal n.natAbs else Text.decimal n.natAbs

/-- The number that digits spell in a radix. -/
def numeralIn? (radix : Nat) (digits : Bytes) : Option Nat :=
  if digits.isEmpty then none
  else digits.foldlM (fun value c => do
    let digit ← Text.hexValue? c
    if digit < radix then pure (value * radix + digit) else none) 0

/-- A number without a sign: decimal, octal after `0`, hexadecimal after `0x`. -/
def unsigned? (text : Bytes) : Option Nat :=
  match text with
  | '0' :: 'x' :: digits | '0' :: 'X' :: digits => numeralIn? 16 digits
  | '0' :: d :: digits => numeralIn? 8 (d :: digits)
  | digits => numeralIn? 10 digits

/-- The integer that a text spells, with a sign or without. -/
def integer? (text : Bytes) : Option Int :=
  match text with
  | '-' :: digits => (unsigned? digits).map fun value => -(value : Int)
  | '+' :: digits => (unsigned? digits).map Int.ofNat
  | digits => (unsigned? digits).map Int.ofNat

/-- Whether an integer has 64 bits at most. -/
def isShort (n : Int) : Bool := -(Nat.pow 2 63 : Nat) ≤ n && n < (Nat.pow 2 63 : Nat)

/-- The integer of 64 bits that a text spells in decimal digits, blanks around it aside. -/
def decimalInteger? (text : Bytes) : Option Int :=
  let inner := (text.dropWhile isSpace).reverse.dropWhile isSpace |>.reverse
  let value := match inner with
    | '-' :: digits => (Text.readNumeral? digits).map fun value => -(value : Int)
    | '+' :: digits => (Text.readNumeral? digits).map Int.ofNat
    | digits => (Text.readNumeral? digits).map Int.ofNat
  value.filter isShort

def truth (holds : Bool) : Int := if holds then 1 else 0

/-- The integer of 64 bits that is equal to one up to multiples of `2 ^ 64`. -/
def wrapped (n : Int) : Int := n.bmod (Nat.pow 2 64)

/-- Two integers combined bit by bit. -/
def bitwise (combine : Nat → Nat → Nat) (a b : Int) : Int :=
  let bits (n : Int) : Nat := (n % (Nat.pow 2 64 : Nat)).toNat
  wrapped (combine (bits a) (bits b))

/-- How tightly an operator binds, and what it does; nothing for a division by zero. -/
structure Operator where
  sign : String
  level : Nat
  apply : Int → Int → Option Int

/-- The operators, longer signs first. -/
def operators : List Operator :=
  [⟨"||", 0, fun a b => some (truth (a != 0 || b != 0))⟩,
   ⟨"&&", 1, fun a b => some (truth (a != 0 && b != 0))⟩,
   ⟨"==", 5, fun a b => some (truth (a == b))⟩, ⟨"!=", 5, fun a b => some (truth (a != b))⟩,
   ⟨"<=", 6, fun a b => some (truth (decide (a ≤ b)))⟩,
   ⟨">=", 6, fun a b => some (truth (decide (b ≤ a)))⟩,
   ⟨"<<", 7, fun a b => some (wrapped (a * (Nat.pow 2 (b % 64).toNat : Nat)))⟩,
   ⟨">>", 7, fun a b => some (a.fdiv (Nat.pow 2 (b % 64).toNat : Nat))⟩,
   ⟨"<", 6, fun a b => some (truth (decide (a < b)))⟩,
   ⟨">", 6, fun a b => some (truth (decide (b < a)))⟩,
   ⟨"|", 2, fun a b => some (bitwise Nat.lor a b)⟩, ⟨"^", 3, fun a b => some (bitwise Nat.xor a b)⟩,
   ⟨"&", 4, fun a b => some (bitwise Nat.land a b)⟩,
   ⟨"+", 8, fun a b => some (wrapped (a + b))⟩, ⟨"-", 8, fun a b => some (wrapped (a - b))⟩,
   ⟨"*", 9, fun a b => some (wrapped (a * b))⟩,
   ⟨"/", 9, fun a b => if b = 0 then none else some (Int.tdiv a b)⟩,
   ⟨"%", 9, fun a b => if b = 0 then none else some (Int.tmod a b)⟩]

/-- The operator that a text starts with, and what follows it. -/
def operator? (text : Bytes) : Option (Operator × Bytes) :=
  operators.findSome? fun operator =>
    (Text.after? operator.sign.toList text).map fun rest => (operator, rest)

/-- The operator of an assignment like `+=`, if it is not a plain one, and what follows it. -/
def assignmentSign? (text : Bytes) : Option (Option Operator × Bytes) :=
  match text with
  | '=' :: '=' :: _ => none
  | '=' :: rest => some (none, rest)
  | text => do
    let (operator, rest) ← operator? text
    let rest ← Text.after? ['='] rest
    if [5, 6, 0, 1].contains operator.level || rest.head? = some '=' then none
    else pure (some operator, rest)

/-- The values of variables: those that an expression has set, latest first, and those from before. -/
structure Values where
  valueOf : Bytes → Bytes
  changed : List (Bytes × Int) := []

/-- The integer that a variable holds. What is empty is zero. -/
def Values.integer (values : Values) (name : Bytes) : Except String Int :=
  match values.changed.lookup name with
  | some value => .ok value
  | none =>
    let text := values.valueOf name
    if text.isEmpty then .ok 0
    else
      match (integer? text).filter isShort with
      | some value => .ok value
      | none => .error ("Illegal number: " ++ Text.decode text)

def Values.set (values : Values) (name : Bytes) (value : Int) : Values :=
  { values with changed := (name, value) :: values.changed }

def complaint (expression : Bytes) (text : String) : String :=
  "arithmetic expression: " ++ text ++ ": \"" ++ Text.decode expression ++ "\""

mutual

/-- A number, a variable, a sign in front of one, or an expression in parentheses. -/
def evalAtom (whole : Bytes) : Nat → Values → Bytes → Except String (Int × Values × Bytes)
  | 0, _, _ => .error (complaint whole "expecting primary")
  | fuel + 1, values, text =>
    match text.dropWhile isSpace with
    | '-' :: rest => do
      let (value, values, rest) ← evalAtom whole fuel values rest
      pure (wrapped (-value), values, rest)
    | '+' :: rest => evalAtom whole fuel values rest
    | '!' :: rest => do
      let (value, values, rest) ← evalAtom whole fuel values rest
      pure (truth (value == 0), values, rest)
    | '~' :: rest => do
      let (value, values, rest) ← evalAtom whole fuel values rest
      pure (-value - 1, values, rest)
    | '(' :: rest => do
      let (value, values, rest) ← evalWhole whole fuel values rest
      match rest.dropWhile isSpace with
      | ')' :: rest => pure (value, values, rest)
      | _ => .error (complaint whole "expecting ')'")
    | c :: rest =>
      let text := c :: rest
      let word := text.takeWhile isNameChar
      let rest := text.drop word.length
      if Text.isAsciiDigit c then
        match unsigned? word with
        | some value => .ok (min value (Nat.pow 2 63 - 1), values, rest)
        | none => .error (complaint whole "expecting EOF")
      else if isNameStart c then
        match assignmentSign? (rest.dropWhile isSpace) with
        | some (operator, rest) => do
          let (right, values, rest) ← evalWhole whole fuel values rest
          match operator with
          | none => pure (right, values.set word right, rest)
          | some operator => do
            match operator.apply (← values.integer word) right with
            | some value => pure (value, values.set word value, rest)
            | none => .error (complaint whole "division by zero")
        | none => do pure (← values.integer word, values, rest)
      else .error (complaint whole "expecting primary")
    | [] => .error (complaint whole "expecting primary")

/-- An expression of operators that bind at least as tightly as `level`. -/
def evalAbove (whole : Bytes) : Nat → Nat → Values → Bytes → Except String (Int × Values × Bytes)
  | 0, _, _, _ => .error (complaint whole "expecting primary")
  | fuel + 1, level, values, text => do
    let (left, values, rest) ← evalAtom whole fuel values text
    evalRest whole fuel level left values rest

/-- Goes on after the left side of an operator. -/
def evalRest (whole : Bytes) :
    Nat → Nat → Int → Values → Bytes → Except String (Int × Values × Bytes)
  | 0, _, _, _, _ => .error (complaint whole "expecting EOF")
  | fuel + 1, level, left, values, text =>
    match operator? (text.dropWhile isSpace) with
    | none => .ok (left, values, text)
    | some (operator, rest) =>
      if operator.level < level then .ok (left, values, text)
      else do
        let (right, values, rest) ← evalAbove whole fuel (operator.level + 1) values rest
        match operator.apply left right with
        | some value => evalRest whole fuel level value values rest
        | none => .error (complaint whole "division by zero")

/-- An expression with a condition, or one without. -/
def evalWhole (whole : Bytes) : Nat → Values → Bytes → Except String (Int × Values × Bytes)
  | 0, _, _ => .error (complaint whole "expecting primary")
  | fuel + 1, values, text => do
    let (condition, values, rest) ← evalAbove whole fuel 0 values text
    match rest.dropWhile isSpace with
    | '?' :: rest => do
      let (yes, afterYes, rest) ← evalWhole whole fuel values rest
      match rest.dropWhile isSpace with
      | ':' :: rest => do
        let (no, afterNo, rest) ← evalWhole whole fuel values rest
        pure (if condition != 0 then (yes, afterYes, rest) else (no, afterNo, rest))
      | _ => .error (complaint whole "expecting ':'")
    | rest => pure (condition, values, rest)

end

/-- The value of an expression, with the variables that it sets. -/
def evaluate (valueOf : Bytes → Bytes) (expression : Bytes) :
    Except String (Int × List (Bytes × Int)) := do
  if expression.all isSpace then pure (0, [])
  else
    let (value, values, rest) ←
      evalWhole expression (6 * expression.length + 6) { valueOf := valueOf } expression
    if (rest.dropWhile isSpace).isEmpty then pure (value, values.changed.reverse)
    else .error (complaint expression "expecting EOF")

end MonorepoCheck.Shell
