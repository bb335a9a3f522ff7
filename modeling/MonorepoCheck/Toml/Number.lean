import MonorepoCheck.Instant.Basic
import MonorepoCheck.Text.Digit
import MonorepoCheck.Text.Search
import MonorepoCheck.Toml.Basic

/-!
Reading TOML numbers and moments. Both may start with a digit: a moment is tried first, then a
number with a fraction or an exponent, then an integer. Single underscores may stand between digits.
-/
namespace MonorepoCheck.Toml

/-- The rest of a run of digits of a class; an underscore needs a digit after it. -/
def readMoreDigits (isDigit : Char → Bool) : List Char → Option (List Char × List Char)
  | '_' :: c :: rest =>
    if isDigit c then do
      let (more, rest) ← readMoreDigits isDigit rest
      pure (c :: more, rest)
    else none
  | '_' :: [] => none
  | c :: rest =>
    if isDigit c then do
      let (more, rest) ← readMoreDigits isDigit rest
      pure (c :: more, rest)
    else some ([], c :: rest)
  | [] => some ([], [])

/-- Digits of a class with underscores between them, at least one, and the rest. -/
def readDigits (isDigit : Char → Bool) : List Char → Option (List Char × List Char)
  | c :: rest =>
    if isDigit c then do
      let (more, rest) ← readMoreDigits isDigit rest
      pure (c :: more, rest)
    else none
  | [] => none

/-- A sign, if there is one: whether it is a minus, and the rest. -/
def readSign : List Char → Bool × List Char
  | '+' :: rest => (false, rest)
  | '-' :: rest => (true, rest)
  | text => (false, text)

/-- The digits of a decimal integer. After a zero in front no digit follows. -/
def readWhole : List Char → Option (List Char × List Char)
  | '0' :: rest => some (['0'], rest)
  | text => readDigits Text.isAsciiDigit text

/-- What comes of trying to read a thing that may not be there: `absent` leaves the text to others,
`wrong` does not. -/
inductive Attempt (α : Type) where
  | absent
  | wrong
  | found (value : α) (rest : List Char)

/-- An exponent of ten, after its letter. -/
def readExponent (text : List Char) : Option (Int × List Char) := do
  let (negative, text) := readSign text
  let (digits, rest) ← readDigits Text.isAsciiDigit text
  let size : Int := Text.numeral digits
  pure (if negative then -size else size, rest)

def isExponentMark (c : Char) : Bool := c == 'e' || c == 'E'

def floatValue (negative : Bool) (whole fraction : List Char) (exponent : Int) : Binary.Number :=
  Binary.double.ofDecimal negative (Text.numeral (whole ++ fraction))
    (exponent - (fraction.length : Int))

/-- A number with a fraction, an exponent or both. One too large is an error above zero and
infinite below it. -/
def readFraction (negative : Bool) (text : List Char) : Attempt Binary.Number :=
  let finish (whole fraction : List Char) (exponent : Int) (rest : List Char) :=
    let value := floatValue negative whole fraction exponent
    if value = .infinite false then .wrong else .found value rest
  match readWhole text with
  | none => .absent
  | some (whole, '.' :: rest) =>
    match readDigits Text.isAsciiDigit rest with
    | none => .wrong
    | some (fraction, []) => finish whole fraction 0 []
    | some (fraction, c :: rest) =>
      if isExponentMark c then
        match readExponent rest with
        | none => .wrong
        | some (exponent, rest) => finish whole fraction exponent rest
      else finish whole fraction 0 (c :: rest)
  | some (whole, c :: rest) =>
    if isExponentMark c then
      match readExponent rest with
      | none => .wrong
      | some (exponent, rest) => finish whole [] exponent rest
    else .absent
  | some (_, []) => .absent

def readFloat (text : List Char) : Attempt Binary.Number :=
  let (negative, unsigned) := readSign text
  match unsigned with
  | 'i' :: 'n' :: 'f' :: rest => .found (.infinite negative) rest
  | 'n' :: 'a' :: 'n' :: rest => .found (.undefined negative) rest
  | _ => readFraction negative unsigned

def isHexDigit (c : Char) : Bool := (Text.hexValue? c).isSome

def isOctalDigit (c : Char) : Bool := '0' ≤ c && c ≤ '7'

def isBinaryDigit (c : Char) : Bool := c == '0' || c == '1'

def valueOf (radix : Nat) (digits : List Char) : Nat :=
  digits.foldl (fun value c => radix * value + (Text.hexValue? c).getD 0) 0

/-- Integers are signed words of 64 bits. -/
def inWord (n : Int) : Bool := -0x8000000000000000 ≤ n && n < 0x8000000000000000

def checked (value : Int) (rest : List Char) : Option (Int × List Char) :=
  if inWord value then some (value, rest) else none

def readInRadix (radix : Nat) (isDigit : Char → Bool) (text : List Char) :
    Option (Int × List Char) := do
  let (digits, rest) ← readDigits isDigit text
  checked (valueOf radix digits) rest

def readInteger : List Char → Option (Int × List Char)
  | '0' :: 'x' :: rest => readInRadix 16 isHexDigit rest
  | '0' :: 'o' :: rest => readInRadix 8 isOctalDigit rest
  | '0' :: 'b' :: rest => readInRadix 2 isBinaryDigit rest
  | text => do
    let (negative, text) := readSign text
    let (digits, rest) ← readWhole text
    let size : Int := Text.numeral digits
    checked (if negative then -size else size) rest

/-- A field of exactly `count` digits up to `most`, and the rest. -/
def readField (count least most : Nat) (text : List Char) : Option (Nat × List Char) :=
  let digits := text.take count
  let value := Text.numeral digits
  if digits.length = count && digits.all Text.isAsciiDigit && least ≤ value && value ≤ most then
    some (value, text.drop count)
  else none

/-- The rest of a time of day after its hour and a colon. -/
def readMinutes (text : List Char) : Option (List Char) := do
  let (_, text) ← readField 2 0 59 text
  let text ← Text.after? [':'] text
  let (_, text) ← readField 2 0 60 text
  match text with
  | '.' :: c :: rest =>
    -- a point that no digit follows is not part of the time
    if Text.isAsciiDigit c then pure (rest.dropWhile Text.isAsciiDigit) else pure ('.' :: c :: rest)
  | text => pure text

def readTime (text : List Char) : Attempt Unit :=
  match readField 2 0 23 text with
  | some (_, ':' :: rest) =>
    match readMinutes rest with
    | some rest => .found () rest
    | none => .wrong
  | _ => .absent

/-- An offset from UTC, if there is one. -/
def readOffset : List Char → Option (List Char)
  | c :: rest =>
    if c = 'Z' ∨ c = 'z' then some rest
    else if c = '+' ∨ c = '-' then do
      let (_, rest) ← readField 2 0 23 rest
      let rest ← Text.after? [':'] rest
      let (_, rest) ← readField 2 0 59 rest
      pure rest
    else some (c :: rest)
  | [] => some []

/-- The rest of a date after its year and a dash. -/
def readMonthAndDay (year : Nat) (text : List Char) : Option (List Char) := do
  let (month, text) ← readField 2 1 12 text
  let text ← Text.after? ['-'] text
  let (day, text) ← readField 2 1 31 text
  if (Day.mk year month day).isValid then pure text else none

/-- A time of day and an offset after a date, if they are there. -/
def readTimeAfterDate : List Char → Attempt Unit
  | c :: rest =>
    if c = 'T' ∨ c = 't' ∨ c = ' ' then
      match readTime rest with
      | .found _ rest =>
        match readOffset rest with
        | some rest => .found () rest
        | none => .wrong
      | .wrong => .wrong
      | .absent => .found () (c :: rest)
    else .found () (c :: rest)
  | [] => .found () []

/-- A date, a time of day, or both. -/
def readMoment (text : List Char) : Attempt Unit :=
  match readField 4 0 9999 text with
  | some (year, '-' :: rest) =>
    match readMonthAndDay year rest with
    | some rest => readTimeAfterDate rest
    | none => .wrong
  | _ => readTime text

/-- A value that starts with a digit or a sign. -/
def readNumber (text : List Char) : Option (Toml × List Char) :=
  match readMoment text with
  | .found _ rest => some (.moment, rest)
  | .wrong => none
  | .absent =>
    match readFloat text with
    | .found value rest => some (.float value, rest)
    | .wrong => none
    | .absent => (readInteger text).map fun (value, rest) => (.integer value, rest)

end MonorepoCheck.Toml
