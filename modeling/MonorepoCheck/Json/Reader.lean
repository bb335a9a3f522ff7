import MonorepoCheck.Binary.Rounding
import MonorepoCheck.Json.Basic
import MonorepoCheck.Text.Search
import MonorepoCheck.Text.Digit

/-!
Reading JSON text. `Json.parse?` accepts exactly the texts of the grammar. What the grammar allows
but no value can hold (half a surrogate pair, a number past the range of double precision, nesting
past the limit) is `unreadable`: a text may skip it, and only looking at it fails.
-/
namespace MonorepoCheck.Json

def isSpace (c : Char) : Bool := c == ' ' || c == '\n' || c == '\t' || c == '\r'

def skipSpace (text : List Char) : List Char := text.dropWhile isSpace

/-- A piece of a string literal: a character, or half a surrogate pair from an escape. -/
inductive Piece where
  | char (c : Char)
  | half (unit : Nat)
  deriving DecidableEq, Repr

def Piece.ofUnit (unit : Nat) : Piece :=
  if 0xD800 ≤ unit ∧ unit ≤ 0xDFFF then .half unit else .char (Char.ofNat unit)

/-- The character that a letter after a backslash stands for. -/
def escaped? (c : Char) : Option Char :=
  match c with
  | '"' => some '"'
  | '\\' => some '\\'
  | '/' => some '/'
  | 'b' => some (Char.ofNat 8)
  | 'f' => some (Char.ofNat 12)
  | 'n' => some '\n'
  | 'r' => some '\r'
  | 't' => some '\t'
  | _ => none

def hexUnit? (a b c d : Char) : Option Nat := do
  pure (((← Text.hexValue? a) * 16 + (← Text.hexValue? b)) * 256
    + (← Text.hexValue? c) * 16 + (← Text.hexValue? d))

/-- The pieces of a string literal up to its closing quote, and what follows. -/
def readPieces : List Char → Option (List Piece × List Char)
  | [] => none
  | '"' :: rest => some ([], rest)
  | '\\' :: 'u' :: a :: b :: c :: d :: rest => do
    let unit ← hexUnit? a b c d
    let (more, rest) ← readPieces rest
    pure (Piece.ofUnit unit :: more, rest)
  | '\\' :: c :: rest => do
    let c ← escaped? c
    let (more, rest) ← readPieces rest
    pure (.char c :: more, rest)
  | c :: rest =>
    if c.toNat < 32 || c = '\\' then none
    else do
      let (more, rest) ← readPieces rest
      pure (.char c :: more, rest)

/-- The characters of the pieces, unless half a pair stands alone. -/
def joinPieces : List Piece → Option (List Char)
  | [] => some []
  | .char c :: rest => (joinPieces rest).map (c :: ·)
  | .half high :: .half low :: rest =>
    if high < 0xDC00 ∧ 0xDC00 ≤ low then
      (joinPieces rest).map (Char.ofNat (0x10000 + (high - 0xD800) * 0x400 + (low - 0xDC00)) :: ·)
    else none
  | .half _ :: _ => none

/-- A number literal, cut into its parts. -/
structure NumberParts where
  negative : Bool
  whole : List Char
  fraction : Option (List Char)
  exponent : Option (Bool × List Char)
  deriving DecidableEq, Repr

/-- At least one digit, and the rest. -/
def readDigits (text : List Char) : Option (List Char × List Char) :=
  match text.takeWhile Text.isAsciiDigit with
  | [] => none
  | digits => some (digits, text.dropWhile Text.isAsciiDigit)

def readWhole : List Char → Option (List Char × List Char)
  | '0' :: c :: rest => if Text.isAsciiDigit c then none else some (['0'], c :: rest)
  | text => readDigits text

def readFraction : List Char → Option (Option (List Char) × List Char)
  | '.' :: rest => (readDigits rest).map fun (digits, rest) => (some digits, rest)
  | text => some (none, text)

def readExponent : List Char → Option (Option (Bool × List Char) × List Char)
  | c :: rest =>
    if c = 'e' ∨ c = 'E' then
      match rest with
      | '-' :: rest => (readDigits rest).map fun (digits, rest) => (some (true, digits), rest)
      | '+' :: rest => (readDigits rest).map fun (digits, rest) => (some (false, digits), rest)
      | rest => (readDigits rest).map fun (digits, rest) => (some (false, digits), rest)
    else some (none, c :: rest)
  | [] => some (none, [])

def readNumber (text : List Char) : Option (NumberParts × List Char) := do
  let (negative, text) := match text with
    | '-' :: rest => (true, rest)
    | text => (false, text)
  let (whole, text) ← readWhole text
  let (fraction, text) ← readFraction text
  let (exponent, text) ← readExponent text
  pure (⟨negative, whole, fraction, exponent⟩, text)

/-- The first magnitude that rounds past the largest double-precision number. -/
def doubleLimit : Nat := Nat.pow 2 1024 - Nat.pow 2 970

/-- Appends digits to a significand as long as it fits 64 bits, and counts those that are left. -/
def appendDigits (significand : Nat) : List Char → Nat × Nat
  | [] => (significand, 0)
  | c :: rest =>
    let longer := 10 * significand + Text.digitValue c
    if longer < Nat.pow 2 64 then appendDigits longer rest else (significand, rest.length + 1)

namespace NumberParts

/-- The digits that count, as a number, and the power of ten it is multiplied by. Digits left out
before the point count as zeros, those after it as nothing. -/
def scaled (parts : NumberParts) : Nat × Int :=
  let fraction := parts.fraction.getD []
  let (whole, zeros) := appendDigits 0 parts.whole
  let (significand, left) := appendDigits whole fraction
  let shift : Int := match parts.exponent with
    | none => 0
    | some (negative, digits) =>
      if negative then -(Text.numeral digits : Int) else (Text.numeral digits : Int)
  (significand, zeros - (fraction.length - left : Nat) + shift)

/-- Whether the product of the significand and the power of ten, each in double precision, is a
number of double precision. Powers of ten past `10 ^ 308` are not. -/
def inRange (parts : NumberParts) : Bool :=
  let (significand, scale) := parts.scaled
  significand == 0 || scale < 0
    || (scale ≤ 308
      && Binary.roundTo 53 significand * Binary.roundTo 53 (Nat.pow 10 scale.toNat) < doubleLimit)

/-- The number as a literal, without a plus sign. -/
def literal (parts : NumberParts) : List Char :=
  (if parts.negative then ['-'] else []) ++ parts.whole
    ++ (match parts.fraction with
      | none => []
      | some digits => '.' :: digits)
    ++ (match parts.exponent with
      | none => []
      | some (negative, digits) => if negative then 'e' :: '-' :: digits else 'e' :: digits)

def value (parts : NumberParts) : Json :=
  if !parts.inRange then .unreadable
  else if parts.fraction.isSome || parts.exponent.isSome then .decimal parts.literal
  else
    let magnitude := Text.numeral parts.whole
    if parts.negative then
      if magnitude = 0 then .decimal parts.literal else .integer (-(magnitude : Int))
    else .integer magnitude

end NumberParts

/-- Arrays and objects inside one another, the outermost included, that can be looked at. -/
def depthLimit : Nat := 127

/-- A value inside `depth` others, the value itself included. -/
def atDepth (depth : Nat) (json : Json) : Json := if depthLimit < depth then .unreadable else json

/-- An object whose keys are known, unless one of them is no text. -/
def ofMembers (members : List (Option String × Json)) : Json :=
  match members.mapM fun member => member.1.map fun key => (key, member.2) with
  | some members => .object members
  | none => .unreadable

def ofPieces (pieces : List Piece) : Option String := (joinPieces pieces).map String.ofList

mutual

/-- One value inside `depth` others, and the text after it. -/
def readValue (depth : Nat) : Nat → List Char → Option (Json × List Char)
  | 0, _ => none
  | fuel + 1, text =>
    match skipSpace text with
    | '"' :: rest => do
      let (pieces, rest) ← readPieces rest
      pure (((ofPieces pieces).map .string).getD .unreadable, rest)
    | '[' :: rest =>
      match skipSpace rest with
      | ']' :: rest => some (atDepth (depth + 1) (.array []), rest)
      | _ => do
        let (items, rest) ← readItems (depth + 1) fuel rest
        pure (atDepth (depth + 1) (.array items), rest)
    | '{' :: rest =>
      match skipSpace rest with
      | '}' :: rest => some (atDepth (depth + 1) (.object []), rest)
      | _ => do
        let (members, rest) ← readMembers (depth + 1) fuel rest
        pure (atDepth (depth + 1) (ofMembers members), rest)
    | 't' :: 'r' :: 'u' :: 'e' :: rest => some (.bool true, rest)
    | 'f' :: 'a' :: 'l' :: 's' :: 'e' :: rest => some (.bool false, rest)
    | 'n' :: 'u' :: 'l' :: 'l' :: rest => some (.null, rest)
    | text => do
      let (parts, rest) ← readNumber text
      pure (parts.value, rest)

/-- The items of an array up to its closing bracket. -/
def readItems (depth : Nat) : Nat → List Char → Option (List Json × List Char)
  | 0, _ => none
  | fuel + 1, text => do
    let (item, rest) ← readValue depth fuel text
    match skipSpace rest with
    | ',' :: rest =>
      let (more, rest) ← readItems depth fuel rest
      pure (item :: more, rest)
    | ']' :: rest => pure ([item], rest)
    | _ => none

/-- The members of an object up to its closing bracket. -/
def readMembers (depth : Nat) : Nat → List Char → Option (List (Option String × Json) × List Char)
  | 0, _ => none
  | fuel + 1, text => do
    let rest ← Text.after? ['"'] (skipSpace text)
    let (pieces, rest) ← readPieces rest
    let rest ← Text.after? [':'] (skipSpace rest)
    let (value, rest) ← readValue depth fuel rest
    match skipSpace rest with
    | ',' :: rest =>
      let (more, rest) ← readMembers depth fuel rest
      pure ((ofPieces pieces, value) :: more, rest)
    | '}' :: rest => pure ([(ofPieces pieces, value)], rest)
    | _ => none

end

/-- Reads one value that takes up the whole text. -/
def parse? (text : List Char) : Option Json :=
  match readValue 0 (2 * text.length + 2) text with
  | some (json, rest) => if (skipSpace rest).isEmpty then some json else none
  | none => none

def parseText? (text : String) : Option Json := parse? text.toList

end MonorepoCheck.Json
