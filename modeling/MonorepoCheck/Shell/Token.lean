import MonorepoCheck.Shell.Script
import MonorepoCheck.Text.Digit
import MonorepoCheck.Text.Search

/-!
The tokens of shell scripts: words with what is quoted and expanded in them, signs, redirections and
line ends.
-/
namespace MonorepoCheck.Shell

open Text (Bytes)

/-- Why a script cannot be read. -/
inductive Mistake where
  | unexpected (found : String) (wanted : Option String)
  | other (message : String)
  deriving DecidableEq, Repr

def Mistake.message : Mistake → String
  | unexpected found none => "Syntax error: " ++ found ++ " unexpected"
  | unexpected found (some wanted) =>
    "Syntax error: " ++ found ++ " unexpected (expecting " ++ wanted ++ ")"
  | other message => "Syntax error: " ++ message

/-- A mistake and the text after it. -/
abbrev Trouble := Mistake × Bytes

/-- The same mistake where a parenthesis is open. -/
def Mistake.inParentheses : Mistake → Mistake
  | unexpected found none => unexpected found (some "\")\"")
  | mistake => mistake

def refuse {α : Type} (message : String) (rest : Bytes) : Except Trouble α :=
  .error (.other message, rest)

def isBlank (c : Char) : Bool := c == ' ' || c == '\t'

/-- Characters that end a word outside of quotes. -/
def endsWord (c : Char) : Bool := isBlank c || "\n;&|<>()".toList.contains c

/-- Blanks, joined lines and a comment. -/
def skipBlanks : Bytes → Bytes
  | '\\' :: '\n' :: rest => skipBlanks rest
  | '#' :: rest => rest.dropWhile (· != '\n')
  | c :: rest => if isBlank c then skipBlanks rest else c :: rest
  | [] => []

/-- The text between single quotes. -/
def readSingle (text : Bytes) : Except Trouble (Bytes × Bytes) :=
  match text.dropWhile (· != '\'') with
  | [] => refuse "Unterminated quoted string" []
  | _ :: rest => .ok (text.takeWhile (· != '\''), rest)

/-- Where a scan for the end of a nested script stands. -/
inductive Nesting where
  | script
  /-- between `case` and `esac`, where single parentheses close patterns -/
  | cases
  | single
  | double
  deriving DecidableEq, Repr

/-- Whether a text starts with this word. -/
def startsWithWord (word : String) (text : Bytes) : Bool :=
  match Text.after? word.toList text with
  | some rest => (rest.head?.map endsWord).getD true
  | none => false

/-- Whether a text starts with `case`, a word and `in`. -/
def startsCase (text : Bytes) : Bool :=
  startsWithWord "case" text &&
    let subject := (text.drop 4).dropWhile isBlank
    let after := (subject.dropWhile fun c => !endsWord c).dropWhile fun c => isBlank c || c == '\n'
    startsWithWord "in" after

/-- The script up to the parenthesis that closes it. Quotes and other parentheses in it are passed
over; `opened` are those that are still open, the innermost first. -/
def readNested (opened : List Nesting) (read : Bytes) : Bytes → Except Trouble (Bytes × Bytes)
  | [] =>
    if opened.head? = some .single || opened.head? = some .double then
      refuse "Unterminated quoted string" []
    else .error (.unexpected "end of file" (some "\")\""), [])
  | '\\' :: c :: rest =>
    if opened.head? = some .single then
      if c = '\'' then readNested opened.tail (c :: '\\' :: read) rest
      else readNested opened (c :: '\\' :: read) rest
    else readNested opened (c :: '\\' :: read) rest
  | '$' :: '(' :: rest =>
    if opened.head? = some .single then readNested opened ('(' :: '$' :: read) rest
    else readNested (.script :: opened) ('(' :: '$' :: read) rest
  | c :: rest =>
    let starts := (read.head?.map endsWord).getD true
    match opened.head? with
    | some .single =>
      readNested (if c = '\'' then opened.tail else opened) (c :: read) rest
    | some .double =>
      readNested (if c = '"' then opened.tail else opened) (c :: read) rest
    | top =>
      if c = '\'' then readNested (.single :: opened) (c :: read) rest
      else if c = '"' then readNested (.double :: opened) (c :: read) rest
      else if c = '(' then readNested (.script :: opened) (c :: read) rest
      else if c = ')' then
        match opened with
        | [] => .ok (read.reverse, rest)
        | _ :: outer =>
          readNested (if top = some .cases then opened else outer) (c :: read) rest
      else if starts && startsCase (c :: rest) then readNested (.cases :: opened) (c :: read) rest
      else if starts && top = some .cases && startsWithWord "esac" (c :: rest) then
        readNested opened.tail (c :: read) rest
      else readNested opened (c :: read) rest

/-- The script between backquotes, in which a backslash takes back the meaning of some characters. -/
def readBackquoted (quoted : Bool) : Bytes → Except Trouble (Bytes × Bytes)
  | [] => refuse "EOF in backquote substitution" []
  | '`' :: rest => .ok ([], rest)
  | '\\' :: c :: rest => do
    let (more, rest) ← readBackquoted quoted rest
    if c = '$' || c = '`' || c = '\\' || (quoted && c = '"') then pure (c :: more, rest)
    else pure ('\\' :: c :: more, rest)
  | c :: rest => do
    let (more, rest) ← readBackquoted quoted rest
    pure (c :: more, rest)

/-- Where the pieces of a word end. -/
inductive WordEnd where
  /-- at a character that ends words -/
  | blank
  /-- at the closing double quote -/
  | quote
  /-- at the closing brace, inside double quotes or not -/
  | brace (quoted : Bool)
  /-- at the end of the text, which is read like one between double quotes -/
  | text
  deriving DecidableEq, Repr

def WordEnd.isQuoted : WordEnd → Bool
  | blank => false
  | quote | text => true
  | brace quoted => quoted

/-- The form that follows the name of a parameter between braces. -/
def readForm (text : Bytes) : Option (Form × Bytes) :=
  match text with
  | ':' :: '-' :: rest => some (.otherwise true, rest)
  | ':' :: '=' :: rest => some (.assigned true, rest)
  | ':' :: '?' :: rest => some (.required true, rest)
  | ':' :: '+' :: rest => some (.instead true, rest)
  | '-' :: rest => some (.otherwise false, rest)
  | '=' :: rest => some (.assigned false, rest)
  | '?' :: rest => some (.required false, rest)
  | '+' :: rest => some (.instead false, rest)
  | '#' :: '#' :: rest => some (.withoutStart true, rest)
  | '#' :: rest => some (.withoutStart false, rest)
  | '%' :: '%' :: rest => some (.withoutEnd true, rest)
  | '%' :: rest => some (.withoutEnd false, rest)
  | _ => none

/-- Parameters with names of one sign. -/
def isSpecial (c : Char) : Bool := "?$#@*!-".toList.contains c

/-- The name of a parameter between braces. -/
def readParameterName (text : Bytes) : Bytes × Bytes :=
  match text with
  | [] => ([], [])
  | c :: rest =>
    if isSpecial c then ([c], rest)
    else if Text.isAsciiDigit c then
      (text.takeWhile Text.isAsciiDigit, text.dropWhile Text.isAsciiDigit)
    else (text.takeWhile isNameChar, text.dropWhile isNameChar)

/-- Puts a piece in front of others; plain texts grow together. -/
def Piece.before (piece : Piece) (more : List Piece) : List Piece :=
  match piece, more with
  | .text a first, .text b second :: more =>
    if a = b then .text a (first ++ second) :: more else .text a first :: .text b second :: more
  | piece, more => piece :: more

/-- What is said of a brace that is not closed; in quotes, those are what is missed. -/
def unclosed (quoted : Bool) : String :=
  if quoted then "Unterminated quoted string" else "Missing '\x7d'"

/-- Stands for a parameter that is not written as one should be. -/
def badParameter : Piece := .parameter false [] .plain []

mutual

/-- What follows a dollar sign. One that starts nothing stands for itself. -/
def readDollar : Nat → Bool → Bytes → Except Trouble (Piece × Bytes)
  | 0, _, rest => refuse "Missing '\x7d'" rest
  | fuel + 1, quoted, text =>
    match text with
    | '(' :: '(' :: rest =>
      match readNested [.script] [] rest with
      | .ok (inner, rest) =>
        -- the inner parenthesis closes last but one
        if inner.getLast? = some ')' then do
          let (expression, _) ← readPieces fuel .text inner.dropLast
          pure (.arithmetic quoted expression, rest)
        else .ok (.output quoted ('(' :: inner), rest)
      | .error _ => refuse "Missing '))'" []
    | '(' :: rest => do
      let (inner, rest) ← readNested [] [] rest
      pure (.output quoted inner, rest)
    | '\x7b' :: '#' :: '\x7d' :: rest => .ok (.parameter quoted ['#'] .plain [], rest)
    | '\x7b' :: '#' :: rest =>
      let (name, rest) := readParameterName rest
      match rest with
      | '\x7d' :: rest => .ok (.parameter quoted name .length [], rest)
      | rest =>
        match rest.dropWhile (· != '\x7d') with
        | _ :: rest => .ok (badParameter, rest)
        | [] => refuse (unclosed quoted) []
    | '\x7b' :: rest =>
      let (name, rest) := readParameterName rest
      match rest with
      | '\x7d' :: rest =>
        .ok (if name.isEmpty then badParameter else .parameter quoted name .plain [], rest)
      | rest =>
        match readForm rest with
        | some (form, rest) => do
          let quotedWord := match form with
            | .withoutStart _ | .withoutEnd _ => false
            | _ => quoted
          let (word, rest) ← readPieces fuel (.brace quotedWord) rest
          pure (if name.isEmpty then badParameter else .parameter quoted name form word, rest)
        | none =>
          match rest.dropWhile (· != '\x7d') with
          | _ :: rest => .ok (badParameter, rest)
          | [] => refuse (unclosed quoted) []
    | c :: rest =>
      if Text.isAsciiDigit c || isSpecial c then .ok (.parameter quoted [c] .plain [], rest)
      else if isNameStart c then
        .ok (.parameter quoted ((c :: rest).takeWhile isNameChar) .plain [],
          (c :: rest).dropWhile isNameChar)
      else .ok (.text quoted ['$'], c :: rest)
    | [] => .ok (.text quoted ['$'], [])

/-- The pieces of a word up to its end. -/
def readPieces : Nat → WordEnd → Bytes → Except Trouble (List Piece × Bytes)
  | 0, _, rest => refuse "Unterminated quoted string" rest
  | fuel + 1, ending, text =>
    let quoted := ending.isQuoted
    match text with
    | [] =>
      match ending with
      | .blank | .text => .ok ([], [])
      | .quote => refuse "Unterminated quoted string" []
      | .brace quoted => refuse (unclosed quoted) []
    | '\\' :: '\n' :: rest => readPieces fuel ending rest
    | ['\\'] => .ok ([.text true ['\\']], [])
    | '\\' :: c :: rest => do
      let (more, rest) ← readPieces fuel ending rest
      let kept := quoted && !("$`\\".toList.contains c) && !(c = '"' && ending != .text)
        && !(c = '\x7d' && ending == .brace true)
      pure ((Piece.text true (if kept then ['\\', c] else [c])).before more, rest)
    | '$' :: rest => do
      let (piece, rest) ← readDollar fuel quoted rest
      let (more, rest) ← readPieces fuel ending rest
      pure (piece.before more, rest)
    | '`' :: rest => do
      let (inner, rest) ← readBackquoted quoted rest
      let (more, rest) ← readPieces fuel ending rest
      pure (.output quoted inner :: more, rest)
    | c :: rest =>
      if c = '\x7d' && (ending == .brace true || ending == .brace false) then .ok ([], rest)
      else if c = '"' && ending == .quote then .ok ([], rest)
      else if c = '"' && ending != .text then do
        let (inner, rest) ← readPieces fuel .quote rest
        let (more, rest) ← readPieces fuel ending rest
        pure (if inner.isEmpty then (Piece.text true []).before more else inner ++ more, rest)
      else if c = '\'' && !quoted then do
        let (inner, rest) ← readSingle rest
        let (more, rest) ← readPieces fuel ending rest
        pure ((Piece.text true inner).before more, rest)
      else if ending == .blank && endsWord c then .ok ([], text)
      else do
        let (more, rest) ← readPieces fuel ending rest
        pure ((Piece.text quoted [c]).before more, rest)

end

/-- A word and the text after it. -/
def readWord (text : Bytes) : Except Trouble (Word × Bytes) :=
  readPieces (2 * text.length + 2) .blank text

/-- The pieces of a text that is read like one between double quotes. -/
def readInner (text : Bytes) : Word :=
  match readPieces (2 * text.length + 2) .text text with
  | .ok (pieces, _) => pieces
  | .error _ => [.text true text]

/-- The characters of a word without its quotes, if nothing in it is expanded, and whether something
is quoted. -/
def plainText? : Word → Option (Bytes × Bool)
  | [] => some ([], false)
  | .text quoted content :: rest =>
    (plainText? rest).map fun (more, anyQuoted) => (content ++ more, quoted || anyQuoted)
  | _ => none

/-- How a redirection is written, before its word. -/
inductive Arrow where
  | input
  | write
  | append
  | duplicate
  | here (withoutTabs : Bool)
  deriving DecidableEq, Repr

inductive Token where
  | ended
  | newline
  | sign (text : String)
  | arrow (stream : Nat) (arrow : Arrow)
  | word (pieces : Word)
  | keyword (text : String)
  deriving Repr

/-- A token as complaints name it. -/
def Token.name : Token → String
  | ended => "end of file"
  | newline => "newline"
  | sign text => "\"" ++ text ++ "\""
  | arrow _ _ => "redirection"
  | word _ => "word"
  | keyword text => "\"" ++ text ++ "\""

def keywords : List String :=
  ["!", "case", "do", "done", "elif", "else", "esac", "fi", "for", "if", "in", "then", "until",
   "while", "\x7b", "\x7d"]

/-- The arrow of a redirection; the stream is given where it is not the usual one. -/
def readArrow? (given : Option Nat) (text : Bytes) : Option (Token × Bytes) :=
  match text with
  | '>' :: '>' :: rest => some (.arrow (given.getD 1) .append, rest)
  | '>' :: '&' :: rest => some (.arrow (given.getD 1) .duplicate, rest)
  | '>' :: '|' :: rest => some (.arrow (given.getD 1) .write, rest)
  | '>' :: rest => some (.arrow (given.getD 1) .write, rest)
  | '<' :: '<' :: '-' :: rest => some (.arrow (given.getD 0) (.here true), rest)
  | '<' :: '<' :: rest => some (.arrow (given.getD 0) (.here false), rest)
  | '<' :: '&' :: rest => some (.arrow (given.getD 0) .duplicate, rest)
  | '<' :: rest => some (.arrow (given.getD 0) .input, rest)
  | _ => none

/-- The sign that a text starts with, longer ones first. -/
def readSign? (text : Bytes) : Option (Token × Bytes) :=
  [";;", "&&", "||", ";", "&", "|", "(", ")"].findSome? fun sign =>
    (Text.after? sign.toList text).map fun rest => (.sign sign, rest)

/-- The next token. Keywords are words except where they are looked for. -/
def readToken (withKeywords : Bool) (text : Bytes) : Except Trouble (Token × Bytes) :=
  let text := skipBlanks text
  match text with
  | [] => .ok (.ended, [])
  | '\n' :: rest => .ok (.newline, rest)
  | c :: rest =>
    let numbered :=
      if Text.isAsciiDigit c then readArrow? (some (Text.digitValue c)) rest else none
    match numbered <|> readArrow? none text <|> readSign? text with
    | some token => .ok token
    | none => do
      let (pieces, rest) ← readWord text
      match pieces with
      | [.text false content] =>
        let spelt := String.ofList content
        if withKeywords && keywords.contains spelt then pure (.keyword spelt, rest)
        else pure (.word pieces, rest)
      | pieces => pure (.word pieces, rest)

/-- The next token that is no line end. -/
def readPastLines : Nat → Bool → Bytes → Except Trouble (Token × Bytes)
  | 0, withKeywords, text => readToken withKeywords text
  | fuel + 1, withKeywords, text => do
    let (token, rest) ← readToken withKeywords text
    match token with
    | .newline => readPastLines fuel withKeywords rest
    | token => pure (token, rest)

end MonorepoCheck.Shell
