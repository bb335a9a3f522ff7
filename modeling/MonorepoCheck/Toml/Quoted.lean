import MonorepoCheck.Text.Digit
import MonorepoCheck.Text.Search

/-!
Reading quoted TOML texts: on one line or on several, with escapes between double quotes and
without between single ones.
-/
namespace MonorepoCheck.Toml

def isSpace (c : Char) : Bool := c == ' ' || c == '\t'

def skipSpace (text : List Char) : List Char := text.dropWhile isSpace

/-- Characters that may stand in comments and texts; line ends do not. -/
def isPlain (c : Char) : Bool := c == '\t' || (32 ≤ c.toNat && c.toNat != 127)

/-- What follows a line end: a line feed, or a carriage return with a line feed. -/
def afterLineEnd? : List Char → Option (List Char)
  | '\n' :: rest => some rest
  | '\r' :: '\n' :: rest => some rest
  | _ => none

def scalar? (point : Nat) : Option Char :=
  if h : point.isValidChar then some (Char.ofNatAux point h) else none

/-- The number spelt by exactly `count` hexadecimal digits, and the rest. -/
def hexNumber? : Nat → Nat → List Char → Option (Nat × List Char)
  | 0, value, text => some (value, text)
  | count + 1, value, c :: rest => do hexNumber? count (value * 16 + (← Text.hexValue? c)) rest
  | _ + 1, _, [] => none

/-- The character that follows a backslash in escaped form, and the rest. -/
def escaped? : List Char → Option (Char × List Char)
  | '"' :: rest => some ('"', rest)
  | '\\' :: rest => some ('\\', rest)
  | 'b' :: rest => some (Char.ofNat 8, rest)
  | 'f' :: rest => some (Char.ofNat 12, rest)
  | 'n' :: rest => some ('\n', rest)
  | 'r' :: rest => some ('\r', rest)
  | 't' :: rest => some ('\t', rest)
  | 'u' :: rest => do
    let (point, rest) ← hexNumber? 4 0 rest
    pure (← scalar? point, rest)
  | 'U' :: rest => do
    let (point, rest) ← hexNumber? 8 0 rest
    pure (← scalar? point, rest)
  | _ => none

/-- The rest of a text between double quotes, up to the closing one. -/
def readBasic : Nat → List Char → Option (List Char × List Char)
  | 0, _ => none
  | fuel + 1, text =>
    match text with
    | [] => none
    | '"' :: rest => some ([], rest)
    | '\\' :: rest => do
      let (c, rest) ← escaped? rest
      let (more, rest) ← readBasic fuel rest
      pure (c :: more, rest)
    | c :: rest =>
      if !isPlain c then none
      else do
        let (more, rest) ← readBasic fuel rest
        pure (c :: more, rest)

/-- The rest of a text between single quotes, up to the closing one. -/
def readLiteral : List Char → Option (List Char × List Char)
  | [] => none
  | '\'' :: rest => some ([], rest)
  | c :: rest =>
    if !isPlain c then none
    else do
      let (more, rest) ← readLiteral rest
      pure (c :: more, rest)

/-- Blanks and line ends. -/
def skipLines : Nat → List Char → List Char
  | 0, text => text
  | fuel + 1, text =>
    match afterLineEnd? (skipSpace text) with
    | some rest => skipLines fuel rest
    | none => skipSpace text

/-- The quotes that a run of `count` quotes adds to a text of several lines, when the run ends the
text: it does from three quotes on, and the last three of at most five do not belong to it. -/
def quotesBeforeEnd (count : Nat) : Nat := min count 5 - 3

/-- The rest of a text of several lines in triple double quotes. A backslash before a line end
leaves out that line end with all blanks and line ends after it. -/
def readBasicLines : Nat → List Char → Option (List Char × List Char)
  | 0, _ => none
  | fuel + 1, text =>
    match text with
    | [] => none
    | '"' :: _ =>
      let count := (text.takeWhile (· == '"')).length
      if count < 3 then do
        let (more, rest) ← readBasicLines fuel (text.drop count)
        pure (List.replicate count '"' ++ more, rest)
      else
        let kept := quotesBeforeEnd count
        some (List.replicate kept '"', text.drop (kept + 3))
    | '\\' :: rest =>
      match afterLineEnd? (skipSpace rest) with
      | some rest => readBasicLines fuel (skipLines rest.length rest)
      | none => do
        let (c, rest) ← escaped? rest
        let (more, rest) ← readBasicLines fuel rest
        pure (c :: more, rest)
    | c :: rest =>
      match afterLineEnd? text with
      | some rest => do
        let (more, rest) ← readBasicLines fuel rest
        pure ('\n' :: more, rest)
      | none =>
        if !isPlain c then none
        else do
          let (more, rest) ← readBasicLines fuel rest
          pure (c :: more, rest)

/-- The rest of a text of several lines in triple single quotes. -/
def readLiteralLines : Nat → List Char → Option (List Char × List Char)
  | 0, _ => none
  | fuel + 1, text =>
    match text with
    | [] => none
    | '\'' :: _ =>
      let count := (text.takeWhile (· == '\'')).length
      if count < 3 then do
        let (more, rest) ← readLiteralLines fuel (text.drop count)
        pure (List.replicate count '\'' ++ more, rest)
      else
        let kept := quotesBeforeEnd count
        some (List.replicate kept '\'', text.drop (kept + 3))
    | c :: rest =>
      match afterLineEnd? text with
      | some rest => do
        let (more, rest) ← readLiteralLines fuel rest
        pure ('\n' :: more, rest)
      | none =>
        if !isPlain c then none
        else do
          let (more, rest) ← readLiteralLines fuel rest
          pure (c :: more, rest)

/-- A line end right after the opening triple quote does not belong to the text. -/
def dropFirstLineEnd (text : List Char) : List Char := (afterLineEnd? text).getD text

/-- A quoted text of any of the four kinds, and the rest. -/
def readQuoted : List Char → Option (String × List Char)
  | '"' :: '"' :: '"' :: rest =>
    (readBasicLines (rest.length + 1) (dropFirstLineEnd rest)).map
      fun (text, rest) => (String.ofList text, rest)
  | '"' :: rest =>
    (readBasic (rest.length + 1) rest).map fun (text, rest) => (String.ofList text, rest)
  | '\'' :: '\'' :: '\'' :: rest =>
    (readLiteralLines (rest.length + 1) (dropFirstLineEnd rest)).map
      fun (text, rest) => (String.ofList text, rest)
  | '\'' :: rest => (readLiteral rest).map fun (text, rest) => (String.ofList text, rest)
  | _ => none

end MonorepoCheck.Toml
