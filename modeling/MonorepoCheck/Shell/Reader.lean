import MonorepoCheck.Shell.Token

/-!
Reading shell scripts, command by command: a script is carried out line by line, and what is wrong
with a later line shows only when it is reached.
-/
namespace MonorepoCheck.Shell

open Text (Bytes)

/-- The lines of a text up to the one that is `mark`, and what follows that line. -/
def cutLines (withoutTabs : Bool) (mark : Bytes) : Nat → Bytes → Bytes × Bytes
  | 0, text => ([], text)
  | fuel + 1, text =>
    if text.isEmpty then ([], [])
    else
      let whole := text.takeWhile (· != '\n')
      let line := if withoutTabs then whole.dropWhile (· == '\t') else whole
      let rest := text.drop (whole.length + 1)
      if line = mark then ([], rest)
      else
        let (more, rest) := cutLines withoutTabs mark fuel rest
        (line ++ '\n' :: more, rest)

/-- The text that a stream reads. It stands on the lines after this one. -/
def readHere (stream : Nat) (withoutTabs : Bool) (word : Word) (rest : Bytes) :
    Redirection × Bytes :=
  let (mark, quoted) := (plainText? word).getD ([], false)
  let line := rest.takeWhile (· != '\n')
  let (content, after) := cutLines withoutTabs mark rest.length (rest.drop (line.length + 1))
  (.here stream (if quoted then [.text true content] else readInner content), line ++ '\n' :: after)

/-- What a redirection leads to. -/
def readTarget (stream : Nat) (arrow : Arrow) (text : Bytes) :
    Except Trouble (Redirection × Bytes) := do
  let (token, rest) ← readToken false text
  match token with
  | .word word =>
    match arrow with
    | .input => pure (.input stream word, rest)
    | .write => pure (.write stream word, rest)
    | .append => pure (.append stream word, rest)
    | .here withoutTabs => pure (readHere stream withoutTabs word rest)
    | .duplicate =>
      match plainText? word with
      | some (target, _) =>
        if target = ['-'] || (target.length = 1 && target.all Text.isAsciiDigit) then
          pure (.duplicate stream word, rest)
        else refuse "Bad fd number" rest
      | none => pure (.duplicate stream word, rest)
  | token => .error (.unexpected token.name none, rest)

/-- An assignment in front of a command. -/
def assignment? (word : Word) : Option (Bytes × Word) :=
  match word with
  | .text false content :: rest =>
    let name := content.takeWhile (· != '=')
    match content.drop name.length with
    | _ :: value =>
      if isName name then
        some (name, if value.isEmpty then rest else .text false value :: rest)
      else none
    | [] => none
  | _ => none

/-- Names that no function may have. -/
def specialNames : List String :=
  [":", ".", "break", "continue", "eval", "exec", "exit", "export", "readonly", "return", "set",
   "shift", "times", "trap", "unset"]

def functionName? (word : Word) : Option Bytes :=
  match word with
  | [.text false name] =>
    if isName name && !specialNames.contains (String.ofList name) then some name else none
  | _ => none

/-- Whether a token can only stand after a list of commands. -/
def endsList : Token → Bool
  | .ended => true
  | .sign text => text == ")" || text == ";;"
  | .keyword text => ["do", "done", "elif", "else", "esac", "fi", "then", "\x7d"].contains text
  | _ => false

/-- Line ends and blanks in front of a command. -/
def skipLines : Nat → Bytes → Bytes
  | 0, text => text
  | fuel + 1, text =>
    match skipBlanks text with
    | '\n' :: rest => skipLines fuel rest
    | text => text

def skipAll (text : Bytes) : Bytes := skipLines (text.length + 1) text

/-- The next token has to be this one. -/
def expect (wanted : Token) (text : Bytes) : Except Trouble Bytes := do
  let (token, rest) ← readToken true (skipAll text)
  if token.name = wanted.name then pure rest
  else .error (.unexpected token.name (some wanted.name), rest)

/-- The words up to the end of a line or a semicolon. -/
def readWords : Nat → Bytes → Except Trouble (List Word × Bytes)
  | 0, text => .ok ([], text)
  | fuel + 1, text => do
    let (token, rest) ← readToken false text
    match token with
    | .word word => do
      let (more, rest) ← readWords fuel rest
      pure (word :: more, rest)
    | .newline | .sign ";" => pure ([], rest)
    | token => .error (.unexpected token.name none, rest)

/-- The patterns of a case, of which the first has been read, up to the parenthesis after them. -/
def readPatterns : Nat → Token → Bytes → Except Trouble (List Word × Bytes)
  | 0, _, text => .ok ([], text)
  | fuel + 1, token, text => do
    let pattern : Word := match token with
      | .word word => word
      | .keyword word => [.text false word.toList]
      | _ => []
    let (next, rest) ← readToken true (skipAll text)
    match next with
    | .sign "|" => do
      let (token, rest) ← readToken false rest
      let (more, rest) ← readPatterns fuel token rest
      pure (pattern :: more, rest)
    | .sign ")" => pure ([pattern], rest)
    | next => .error (.unexpected next.name (some "\")\""), rest)

/-- Redirections after a command that is made of others. -/
def readRedirections : Nat → Bytes → Except Trouble (List Redirection × Bytes)
  | 0, text => .ok ([], text)
  | fuel + 1, text => do
    let (token, rest) ← readToken true text
    match token with
    | .arrow stream arrow => do
      let (redirection, rest) ← readTarget stream arrow rest
      let (more, rest) ← readRedirections fuel rest
      pure (redirection :: more, rest)
    | _ => pure ([], text)

/-- How far a list of commands goes. -/
inductive Extent where
  /-- to the end of the line -/
  | line
  /-- to a token that ends lists, with a command at least -/
  | body
  /-- to a token that ends lists -/
  | cases
  deriving DecidableEq, Repr

/-- The line on which a text ends that is followed by `rest`, of so many lines in all. -/
def lineOf (lines : Nat) (rest : Bytes) : Nat := lines - rest.count '\n'

mutual

/-- Commands one after another. -/
def readList : Nat → Nat → Extent → Script → Bytes → Except Trouble (Script × Bytes)
  | 0, _, _, before, text => .ok (before, text)
  | fuel + 1, lines, extent, before, text => do
    let text := if extent = .line then text else skipAll text
    let (token, rest) ← readToken true text
    let isFirst := match before with
      | .empty => extent != .cases
      | _ => false
    match token with
    | .newline => pure (before, rest)
    | .ended => pure (before, [])
    | token =>
      if !isFirst && extent != .line && endsList token then pure (before, text)
      else do
        let (next, rest) ← readAndOr fuel lines text
        let joined (next : Script) : Script := match before with
          | .empty => next
          | before => .sequence before next
        let (token, after) ← readToken true rest
        match token with
        | .sign "&" => readList fuel lines extent (joined (.background next)) after
        | .sign ";" => readList fuel lines extent (joined next) after
        | .newline =>
          if extent = .line then pure (joined next, after)
          else readList fuel lines extent (joined next) after
        | .ended => pure (joined next, [])
        | token =>
          if extent = .line then .error (.unexpected token.name none, after)
          else pure (joined next, rest)

/-- Commands joined by `&&` and `||`, which bind alike and to the left. -/
def readAndOr : Nat → Nat → Bytes → Except Trouble (Script × Bytes)
  | 0, _, text => .ok (.empty, text)
  | fuel + 1, lines, text => do
    let (first, rest) ← readPipeline fuel lines text
    readMore fuel lines first rest

def readMore : Nat → Nat → Script → Bytes → Except Trouble (Script × Bytes)
  | 0, _, left, text => .ok (left, text)
  | fuel + 1, lines, left, text => do
    let (token, rest) ← readToken true text
    match token with
    | .sign "&&" => do
      let (right, rest) ← readPipeline fuel lines (skipAll rest)
      readMore fuel lines (.both left right) rest
    | .sign "||" => do
      let (right, rest) ← readPipeline fuel lines (skipAll rest)
      readMore fuel lines (.either left right) rest
    | _ => pure (left, text)

/-- Commands with pipes between them, negated or not. -/
def readPipeline : Nat → Nat → Bytes → Except Trouble (Script × Bytes)
  | 0, _, text => .ok (.empty, text)
  | fuel + 1, lines, text => do
    let (token, rest) ← readToken true text
    match token with
    | .keyword "!" => do
      let (script, rest) ← readPipes fuel lines rest
      pure (.negate script, rest)
    | _ => readPipes fuel lines text

def readPipes : Nat → Nat → Bytes → Except Trouble (Script × Bytes)
  | 0, _, text => .ok (.empty, text)
  | fuel + 1, lines, text => do
    let (left, rest) ← readCommand fuel lines text
    let (token, after) ← readToken true rest
    match token with
    | .sign "|" => do
      let (right, rest) ← readPipes fuel lines (skipAll after)
      pure (.pipe left right, rest)
    | _ => pure (left, rest)

/-- A command: a compound one with its redirections, or a simple one. -/
def readCommand : Nat → Nat → Bytes → Except Trouble (Script × Bytes)
  | 0, _, text => .ok (.empty, text)
  | fuel + 1, lines, text => do
    let (token, rest) ← readToken true text
    let compound (read : Except Trouble (Script × Bytes)) : Except Trouble (Script × Bytes) := do
      let (body, rest) ← read
      let (redirections, rest) ← readRedirections (rest.length + 1) rest
      pure (if redirections.isEmpty then body else .redirected body redirections, rest)
    match token with
    | .word _ | .arrow _ _ => readSimple fuel lines [] [] [] text
    | .sign "(" => compound do
      let (body, rest) ← readList fuel lines .body .empty rest
      pure (.subshell body, ← expect (.sign ")") rest)
    | .keyword "\x7b" => compound do
      let (body, rest) ← readList fuel lines .body .empty rest
      pure (body, ← expect (.keyword "\x7d") rest)
    | .keyword "if" => compound (readBranch fuel lines rest)
    | .keyword "while" => compound (readLoop fuel lines true rest)
    | .keyword "until" => compound (readLoop fuel lines false rest)
    | .keyword "for" => compound (readEach fuel lines rest)
    | .keyword "case" => compound (readChoice fuel lines rest)
    | token => .error (.unexpected token.name none, rest)

/-- The words, assignments and redirections of a simple command, or a function by its name. -/
def readSimple : Nat → Nat → List (Bytes × Word) → List Word → List Redirection → Bytes →
    Except Trouble (Script × Bytes)
  | 0, _, _, _, _, text => .ok (.empty, text)
  | fuel + 1, lines, assignments, words, redirections, text => do
    let (token, rest) ← readToken false text
    let finished : Script × Bytes :=
      (.simple (lineOf lines text) assignments.reverse words.reverse redirections.reverse, text)
    match token with
    | .word word =>
      match if words.isEmpty then assignment? word else none with
      | some assignment =>
        readSimple fuel lines (assignment :: assignments) words redirections rest
      | none => readSimple fuel lines assignments (word :: words) redirections rest
    | .arrow stream arrow => do
      let (redirection, rest) ← readTarget stream arrow rest
      readSimple fuel lines assignments words (redirection :: redirections) rest
    | .sign "(" =>
      match assignments, words, redirections with
      | [], [word], [] => do
        let (token, rest) ← readToken false rest
        if token.name = "\")\"" then
          match functionName? word with
          | some name => do
            let (body, rest) ← readCommand fuel lines (skipAll rest)
            pure (.definition name body, rest)
          | none => refuse "Bad function name" rest
        else .error (.unexpected token.name (some "\")\""), rest)
      | _, _, _ => pure finished
    | _ => pure finished

/-- What follows `if` or `elif`, to the closing `fi`. -/
def readBranch : Nat → Nat → Bytes → Except Trouble (Script × Bytes)
  | 0, _, text => .ok (.empty, text)
  | fuel + 1, lines, text => do
    let (condition, rest) ← readList fuel lines .body .empty text
    let rest ← expect (.keyword "then") rest
    let (yes, rest) ← readList fuel lines .body .empty rest
    let (token, after) ← readToken true (skipAll rest)
    match token with
    | .keyword "elif" => do
      let (no, rest) ← readBranch fuel lines after
      pure (.branch condition yes no, rest)
    | .keyword "else" => do
      let (no, rest) ← readList fuel lines .body .empty after
      pure (.branch condition yes no, ← expect (.keyword "fi") rest)
    | _ => pure (.branch condition yes .empty, ← expect (.keyword "fi") rest)

def readLoop : Nat → Nat → Bool → Bytes → Except Trouble (Script × Bytes)
  | 0, _, _, text => .ok (.empty, text)
  | fuel + 1, lines, whileTrue, text => do
    let (condition, rest) ← readList fuel lines .body .empty text
    let rest ← expect (.keyword "do") rest
    let (body, rest) ← readList fuel lines .body .empty rest
    pure (.loop whileTrue condition body, ← expect (.keyword "done") rest)

def readEach : Nat → Nat → Bytes → Except Trouble (Script × Bytes)
  | 0, _, text => .ok (.empty, text)
  | fuel + 1, lines, text => do
    let (token, rest) ← readToken false text
    let name? := match token with
      | .word [.text false name] => if isName name then some name else none
      | _ => none
    match name? with
    | none => refuse "Bad for loop variable" rest
    | some name => do
      let (token, after) ← readToken true (skipAll rest)
      let (words, rest) ← match token with
        | .keyword "in" => do
          let (words, rest) ← readWords (after.length + 1) after
          pure (some words, rest)
        | .sign ";" => pure (none, after)
        | _ => pure (none, rest)
      let rest ← expect (.keyword "do") rest
      let (body, rest) ← readList fuel lines .body .empty rest
      pure (.each name words body, ← expect (.keyword "done") rest)

def readChoice : Nat → Nat → Bytes → Except Trouble (Script × Bytes)
  | 0, _, text => .ok (.empty, text)
  | fuel + 1, lines, text => do
    let (token, rest) ← readToken false text
    match token with
    | .word subject => do
      let rest ← expect (.keyword "in") rest
      let (cases, rest) ← readCases fuel lines rest
      pure (.choice subject cases, rest)
    | token => .error (.unexpected token.name (some "word"), rest)

/-- Cases up to the closing `esac`. -/
def readCases : Nat → Nat → Bytes → Except Trouble (List (List Word × Script) × Bytes)
  | 0, _, text => .ok ([], text)
  | fuel + 1, lines, text => do
    let (token, rest) ← readToken true (skipAll text)
    match token with
    | .keyword "esac" => pure ([], rest)
    | token => do
      let (token, rest) ← if token.name = "\"(\"" then readToken false rest else pure (token, rest)
      let (patterns, rest) ← readPatterns (rest.length + 1) token rest
      let (body, rest) ← readList fuel lines .cases .empty rest
      let (token, after) ← readToken true (skipAll rest)
      match token with
      | .keyword "esac" => pure ([(patterns, body)], after)
      | .sign ";;" => do
        let (more, rest) ← readCases fuel lines after
        pure ((patterns, body) :: more, rest)
      | token => .error (.unexpected token.name (some "\";;\""), after)

end

/-- The commands of the next line, or of the lines that they go over; nothing at the end. -/
def readLine? (lines : Nat) (text : Bytes) : Except Trouble (Option (Script × Bytes)) :=
  let text := skipAll text
  if text.isEmpty then .ok none
  else (readList (8 * text.length + 8) lines .line .empty text).map some

end MonorepoCheck.Shell
