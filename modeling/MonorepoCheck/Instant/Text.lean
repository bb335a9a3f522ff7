import MonorepoCheck.Instant.Basic
import MonorepoCheck.Text.Blank
import MonorepoCheck.Text.Digit
import MonorepoCheck.Text.Search

/-!
Instants as text: `2020-01-02T03:04:05.678Z`. Writing uses UTC and as many digits of the fraction
as are needed, by threes. Reading also takes other offsets, blanks between the parts, a blank for
the `T`, and letters of either case.
-/
namespace MonorepoCheck.Instant

def yearText (year : Int) : List Char :=
  if 0 ≤ year ∧ year ≤ 9999 then Text.paddedDecimal 4 year.toNat
  else (if year < 0 then '-' else '+') :: Text.paddedDecimal 4 year.natAbs

def fractionText (nanos : Nat) : List Char :=
  if nanos = 0 then []
  else if nanos % 1000000 = 0 then '.' :: Text.paddedDecimal 3 (nanos / 1000000)
  else if nanos % 1000 = 0 then '.' :: Text.paddedDecimal 6 (nanos / 1000)
  else '.' :: Text.paddedDecimal 9 nanos

/-- The date and the time of day in UTC, without a mark for the offset. -/
def civilText (instant : Instant) : List Char :=
  let day := Day.ofNumber (instant.seconds / 86400)
  let second := (instant.seconds % 86400).toNat
  let leap := 1000000000 ≤ instant.nanos
  let nanos := if leap then instant.nanos - 1000000000 else instant.nanos
  yearText day.year ++ '-' :: Text.paddedDecimal 2 day.month ++ '-' :: Text.paddedDecimal 2 day.day
    ++ 'T' :: Text.paddedDecimal 2 (second / 3600)
    ++ ':' :: Text.paddedDecimal 2 (second / 60 % 60)
    ++ ':' :: Text.paddedDecimal 2 (second % 60 + (if leap then 1 else 0))
    ++ fractionText nanos

def toText (instant : Instant) : String := String.ofList (civilText instant ++ ['Z'])

/-- The same with the offset spelt out. -/
def toTextWithOffset (instant : Instant) : String :=
  String.ofList (civilText instant ++ "+00:00".toList)

/-- Up to `most` digits, at least one, and the rest. -/
def readUpTo (most : Nat) (text : List Char) : Option (List Char × List Char) :=
  match (text.takeWhile Text.isAsciiDigit).take most with
  | [] => none
  | digits => some (digits, text.drop digits.length)

def readField (most : Nat) (text : List Char) : Option (Nat × List Char) :=
  (readUpTo most (Text.trimStart text)).map fun (digits, rest) => (Text.numeral digits, rest)

/-- A year: four digits at most, or any number of them after a sign. -/
def readYear (text : List Char) : Option (Int × List Char) :=
  match Text.trimStart text with
  | '-' :: rest =>
    (readUpTo rest.length rest).map fun (digits, rest) => (-(Text.numeral digits : Int), rest)
  | '+' :: rest =>
    (readUpTo rest.length rest).map fun (digits, rest) => ((Text.numeral digits : Int), rest)
  | text => (readUpTo 4 text).map fun (digits, rest) => ((Text.numeral digits : Int), rest)

/-- A mark between two numbers, blanks around it aside. -/
def readMark (mark : Char) (text : List Char) : Option (List Char) :=
  Text.after? [mark] (Text.trimStart text)

/-- A fraction of a second in nanoseconds; digits past the ninth are passed over. -/
def readNanos : List Char → Option (Nat × List Char)
  | '.' :: rest => do
    let (digits, more) ← readUpTo 9 rest
    pure (Text.numeral digits * Nat.pow 10 (9 - digits.length), more.dropWhile Text.isAsciiDigit)
  | text => some (0, text)

/-- An offset from UTC in seconds. -/
def readOffset (text : List Char) : Option (Int × List Char) := do
  match text with
  | 'Z' :: rest | 'z' :: rest => pure (0, rest)
  | sign :: h1 :: h2 :: rest =>
    if !Text.isAsciiDigit h1 || !Text.isAsciiDigit h2 then none
    else
      let rest := rest.dropWhile fun c => c == ':' || Text.isBlank c
      match rest with
      | m1 :: m2 :: rest =>
        if !Text.isAsciiDigit m1 || !Text.isAsciiDigit m2 || '6' ≤ m1 then none
        else
          let seconds : Int := Text.numeral [h1, h2] * 3600 + Text.numeral [m1, m2] * 60
          if 86400 ≤ seconds then none
          else if sign = '+' then pure (seconds, rest)
          else if sign = '-' ∨ sign = Char.ofNat 0x2212 then pure (-seconds, rest)
          else none
      | _ => none
  | _ => none

/-- `UTC` in letters of either case, or an offset. -/
def readZone (text : List Char) : Option (Int × List Char) :=
  match text with
  | u :: t :: c :: rest =>
    if (u = 'U' ∨ u = 'u') ∧ (t = 'T' ∨ t = 't') ∧ (c = 'C' ∨ c = 'c') then some (0, rest)
    else readOffset text
  | _ => readOffset text

def read? (text : List Char) : Option Instant := do
  let (year, text) ← readYear text
  let text ← readMark '-' text
  let (month, text) ← readField 2 text
  let text ← readMark '-' text
  let (day, text) ← readField 2 text
  let text ← match text with
    | c :: rest => if c = 'T' ∨ c = 't' ∨ c = ' ' then some rest else none
    | [] => none
  let (hour, text) ← readField 2 text
  let text ← readMark ':' text
  let (minute, text) ← readField 2 text
  let text ← readMark ':' text
  let (second, text) ← readField 2 text
  let (nanos, text) ← readNanos text
  let (offset, text) ← readZone (Text.trimStart text)
  let date : Day := ⟨year, month, day⟩
  if !(Text.trimStart text).isEmpty || !date.isValid || !Day.isNamed date.number
      || 24 ≤ hour || 60 ≤ minute || 61 ≤ second then none
  else
    -- the sixtieth second is the fifty-ninth running on
    let leap := second == 60
    let timeOfDay : Int := hour * 3600 + minute * 60 + (if leap then 59 else second : Nat)
    -- the day may be another one in UTC
    of? (date.number * 86400 + timeOfDay - offset) (if leap then nanos + 1000000000 else nanos)

end MonorepoCheck.Instant
