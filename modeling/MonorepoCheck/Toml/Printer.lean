import MonorepoCheck.Decimal.Shortest
import MonorepoCheck.Text.Search
import MonorepoCheck.Toml.Basic

/-!
TOML for people. A table writes its own values first, then its tables, each under a header with a
blank line before it. Arrays of two items or more take a line for each; a text is written between
the quotes that need the fewest escapes.
-/
namespace MonorepoCheck.Toml

def isControl (c : Char) : Bool := c.toNat < 32 || c.toNat == 127

/-- The longest run of a character. -/
def longestRun (c : Char) : Nat → List Char → Nat
  | current, [] => current
  | current, d :: rest =>
    if d = c then longestRun c (current + 1) rest else max current (longestRun c 0 rest)

/-- A character that cannot stand between double quotes as it is, or that can. -/
def escapeChar (c : Char) : List Char :=
  if c = '\\' then ['\\', '\\']
  else if c = '\t' then ['\\', 't']
  else if c = '\n' then ['\\', 'n']
  else if c = '\r' then ['\\', 'r']
  else if c.toNat = 8 then ['\\', 'b']
  else if c.toNat = 12 then ['\\', 'f']
  else if isControl c then
    '\\' :: 'u' :: '0' :: '0' :: [Text.upperHexDigit (c.toNat / 16), Text.upperHexDigit c.toNat]
  else [c]

/-- A text between double quotes, after `run` quotes. Between triple quotes line feeds stay, and of
a run of quotes every third one is escaped. -/
def escape (lines : Bool) : Nat → List Char → List Char
  | _, [] => []
  | run, c :: rest =>
    if c = '"' then
      if lines && run < 2 then '"' :: escape lines (run + 1) rest
      else '\\' :: '"' :: escape lines 0 rest
    else if c = '\n' && lines then '\n' :: escape lines 0 rest
    else escapeChar c ++ escape lines 0 rest

/-- A text between quotes. Line feeds are kept in triple quotes alone, and a text of several lines
starts on a line of its own. -/
def quote (text : String) : List Char :=
  let chars := text.toList
  let manyLines := chars.contains '\n'
  let start := if manyLines then ['\n'] else []
  let double := longestRun '"' 0 chars
  let single := longestRun '\'' 0 chars
  let backslash := chars.contains '\\'
  -- characters that no single quotes can hold; tabs and line feeds are none of them
  let control := chars.any fun c => isControl c && c != '\t' && c != '\n'
  let onOneLine := '"' :: escape false 0 chars ++ ['"']
  let onLines := "\"\"\"".toList ++ start ++ escape true 0 chars ++ "\"\"\"".toList
  if !control && !manyLines && !backslash && double = 0 then onOneLine
  else if !control && !manyLines && single = 0 then '\'' :: chars ++ ['\'']
  else if !control && !backslash && double ≤ 2 then onLines
  else if !control && single ≤ 2 then "'''".toList ++ start ++ chars ++ "'''".toList
  else if manyLines then onLines
  else onOneLine

def floatText (value : Binary.Number) : List Char :=
  match Binary.double.convert value with
  | .undefined _ => "nan".toList
  | .infinite negative => if negative then "-inf".toList else "inf".toList
  | .finite negative significand exponent =>
    (if negative then ['-'] else [])
      ++ if significand = 0 then "0.0".toList
        else (Decimal.shortest Binary.double significand exponent).positional

def integerText (n : Int) : List Char :=
  if n < 0 then '-' :: Text.decimal n.natAbs else Text.decimal n.natAbs

/-- What a field of a record may hold when it is written. -/
inductive Field where
  | text (value : String)
  | texts (value : List String)
  | count (value : Nat)
  | bool (value : Bool)
  | float (value : Binary.Number)

/-- A list on one line if it has at most one item, else with a line for each. -/
def listText (items : List (List Char)) : List Char :=
  match items with
  | [] => ['[', ']']
  | [item] => '[' :: item ++ [']']
  | items =>
    "[\n".toList ++ items.flatMap (fun item => "    ".toList ++ item ++ [',', '\n']) ++ [']']

def Field.print : Field → List Char
  | .text value => quote value
  | .texts value => listText (value.map quote)
  | .count value => Text.decimal value
  | .bool value => if value then "true".toList else "false".toList
  | .float value => floatText value

/-- One table of a document, under its header; the first has none. -/
structure Section where
  header : Option String
  fields : List (String × Field)

def Section.print (part : Section) : List Char :=
  (match part.header with
    | none => []
    | some name => '[' :: name.toList ++ [']', '\n'])
    ++ part.fields.flatMap fun (key, field) => key.toList ++ " = ".toList ++ field.print ++ ['\n']

/-- The tables of a document with a blank line between them. -/
def print (parts : List Section) : List Char := Text.join ['\n'] (parts.map Section.print)

end MonorepoCheck.Toml
