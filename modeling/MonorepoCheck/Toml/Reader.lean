import MonorepoCheck.Toml.Number
import MonorepoCheck.Toml.Quoted
import MonorepoCheck.Toml.Tables

/-!
Reading TOML documents. `Toml.parse?` gives the table of a document, or nothing for a text that is
no document.
-/
namespace MonorepoCheck.Toml

/-- Paths of this many names and arrays and braces nested this deep are refused. -/
def depthLimit : Nat := 80

/-- A comment up to the end of its line, if one starts here. -/
def skipComment : List Char → List Char
  | '#' :: rest => rest.dropWhile isPlain
  | text => text

/-- Blanks and a comment up to the end of the line or of the text, and what follows. -/
def afterLine? (text : List Char) : Option (List Char) :=
  match skipComment (skipSpace text) with
  | [] => some []
  | text => afterLineEnd? text

/-- Blanks, comments and line ends. A comment ends with a line. -/
def skipAll : Nat → List Char → Option (List Char)
  | 0, _ => none
  | fuel + 1, text =>
    match skipSpace text with
    | '#' :: rest => do skipAll fuel (← afterLineEnd? (rest.dropWhile isPlain))
    | text =>
      match afterLineEnd? text with
      | some rest => skipAll fuel rest
      | none => some text

def isKeyChar (c : Char) : Bool :=
  Text.isAsciiLetter c || Text.isAsciiDigit c || c == '-' || c == '_'

/-- One name of a key, bare or quoted on one line. -/
def readName (text : List Char) : Option (String × List Char) :=
  match text with
  | '"' :: rest =>
    (readBasic (rest.length + 1) rest).map fun (name, rest) => (String.ofList name, rest)
  | '\'' :: rest => (readLiteral rest).map fun (name, rest) => (String.ofList name, rest)
  | text =>
    match text.takeWhile isKeyChar with
    | [] => none
    | name => some (String.ofList name, text.dropWhile isKeyChar)

/-- The names of a key, with points between them and blanks around them. -/
def readNames : Nat → List Char → Option (List String × List Char)
  | 0, _ => none
  | fuel + 1, text => do
    let (name, rest) ← readName (skipSpace text)
    match skipSpace rest with
    | '.' :: rest =>
      let (more, rest) ← readNames fuel rest
      pure (name :: more, rest)
    | rest => pure ([name], rest)

def readKey (text : List Char) : Option (List String × List Char) := do
  let (path, rest) ← readNames (text.length + 1) text
  if depthLimit ≤ path.length then none else pure (path, rest)

mutual

/-- One value inside `depth` arrays and braces, and the text after it. -/
def readValue (depth : Nat) : Nat → List Char → Option (Toml × List Char)
  | 0, _ => none
  | fuel + 1, text =>
    match text with
    | [] => none
    | '[' :: rest =>
      if depthLimit ≤ depth + 1 then none
      else do
        let (items, rest) ← readItems (depth + 1) fuel rest
        pure (.array items, rest)
    | '\x7b' :: rest =>
      if depthLimit ≤ depth + 1 then none
      else
        match skipSpace rest with
        | '\x7d' :: rest => some (.table .closed [], rest)
        | _ => do
          let (assignments, rest) ← readAssignments (depth + 1) fuel rest
          pure (← ofAssignments assignments, rest)
    | 't' :: 'r' :: 'u' :: 'e' :: rest => some (.bool true, rest)
    | 'f' :: 'a' :: 'l' :: 's' :: 'e' :: rest => some (.bool false, rest)
    | 'i' :: 'n' :: 'f' :: rest => some (.float (.infinite false), rest)
    | 'n' :: 'a' :: 'n' :: rest => some (.float (.undefined false), rest)
    | c :: rest =>
      if c = '"' ∨ c = '\'' then
        (readQuoted (c :: rest)).map fun (text, rest) => (.string text, rest)
      else readNumber (c :: rest)

/-- The items of an array up to its closing bracket. A comma may stand after the last one. -/
def readItems (depth : Nat) : Nat → List Char → Option (List Toml × List Char)
  | 0, _ => none
  | fuel + 1, text => do
    match ← skipAll (text.length + 1) text with
    | ']' :: rest => pure ([], rest)
    | text =>
      let (item, rest) ← readValue depth fuel text
      match ← skipAll (rest.length + 1) rest with
      | ']' :: rest => pure ([item], rest)
      | ',' :: rest =>
        let (more, rest) ← readItems depth fuel rest
        pure (item :: more, rest)
      | _ => none

/-- The assignments between braces, up to the closing one. -/
def readAssignments (depth : Nat) :
    Nat → List Char → Option (List (List String × Toml) × List Char)
  | 0, _ => none
  | fuel + 1, text => do
    let (path, rest) ← readKey text
    let rest ← Text.after? ['='] rest
    let (value, rest) ← readValue depth fuel (skipSpace rest)
    match skipSpace rest with
    | ',' :: rest =>
      let (more, rest) ← readAssignments depth fuel rest
      pure ((path, value) :: more, rest)
    | '\x7d' :: rest => pure ([(path, value)], rest)
    | _ => none

end

/-- One statement to the end of its line, and the lines after it. -/
def readStatement (text : List Char) : Option (Statement × List Char) :=
  match text with
  | '[' :: '[' :: rest => do
    let (path, rest) ← readKey rest
    let rest ← Text.after? [']', ']'] rest
    pure (.row path, ← afterLine? rest)
  | '[' :: rest => do
    let (path, rest) ← readKey rest
    let rest ← Text.after? [']'] rest
    pure (.table path, ← afterLine? rest)
  | text => do
    let (path, rest) ← readKey text
    let rest ← Text.after? ['='] rest
    let rest := skipSpace rest
    let (value, rest) ← readValue 0 (2 * rest.length + 2) rest
    pure (.assign path value, ← afterLine? rest)

/-- The statements of a document. -/
def readStatements : Nat → List Char → Option (List Statement)
  | 0, _ => none
  | fuel + 1, text =>
    match skipSpace text with
    | [] => some []
    | text =>
      match afterLine? text with
      | some rest => readStatements fuel rest
      | none => do
        let (statement, rest) ← readStatement text
        pure (statement :: (← readStatements fuel rest))

/-- A byte order mark in front of a document says nothing. -/
def dropMark : List Char → List Char
  | '\ufeff' :: rest => rest
  | text => text

def parse? (text : List Char) : Option Toml := do
  ofStatements (← readStatements (text.length + 1) (dropMark text))

end MonorepoCheck.Toml
