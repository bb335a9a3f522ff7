import MonorepoCheck.Text.Blank
import MonorepoCheck.Text.Digit
import MonorepoCheck.Text.Lines
import MonorepoCheck.Text.Search

/-!
The lines of checker output that report a diagnostic, `file(line,column): error CODE: message`, and
reading them. All other lines are passed over.
-/
namespace MonorepoCheck

/-- What one line reports. The file is named as the checker printed it. -/
structure CheckerLine where
  file : String
  line : Nat
  column : Nat
  code : String
  message : String
  deriving DecidableEq, Repr, Inhabited

namespace CheckerLine

/-- Line and column numbers and counts fit a machine word. -/
def wordLimit : Nat := Nat.pow 2 64

def isCodeChar (c : Char) : Bool :=
  Text.isAsciiLetter c || Text.isAsciiDigit c || c == '_' || c == '-'

/-- The parts after the file name, as they are spelt. -/
structure Tail where
  line : List Char
  column : List Char
  code : List Char
  message : List Char
  deriving DecidableEq, Repr

/-- A run of characters of a class, at least one of them, and the rest. -/
def run? (p : Char → Bool) (text : List Char) : Option (List Char × List Char) :=
  match text.takeWhile p with
  | [] => none
  | run => some (run, text.dropWhile p)

/-- Reads `(line,column): error CODE: message` to the end of the text. The numbers are digits of any
script; the message has no line feed. -/
def Tail.read? (text : List Char) : Option Tail := do
  let text ← Text.after? ['('] text
  let (line, text) ← run? Text.isDecimalDigit text
  let text ← Text.after? [','] text
  let (column, text) ← run? Text.isDecimalDigit text
  let text ← Text.after? "): error ".toList text
  let (code, text) ← run? isCodeChar text
  let message ← Text.after? ": ".toList text
  if message.contains '\n' then none else some ⟨line, column, code, message⟩

/-- The first place after at least one character where a tail can be read, with the characters
before it. They have no line feed. -/
def splitTail? : List Char → Option (List Char × Tail)
  | [] => none
  | c :: rest =>
    if c = '\n' then none
    else match Tail.read? rest with
      | some tail => some ([c], tail)
      | none => (splitTail? rest).map fun (file, tail) => (c :: file, tail)

/-- A number that counts from one and fits a machine word, spelt in ASCII digits. -/
def position? (digits : List Char) : Option Nat := do
  let n ← Text.readNumeral? digits
  if 0 < n ∧ n < wordLimit then some n else none

/-- Reads one line, trailing carriage returns aside. -/
def read? (line : List Char) : Option CheckerLine := do
  let (file, tail) ← splitTail? (Text.dropEndWhile (· == '\r') line)
  let lineNumber ← position? tail.line
  let column ← position? tail.column
  pure {
    file := String.ofList file
    line := lineNumber
    column := column
    code := String.ofList tail.code
    message := String.ofList (Text.trim tail.message) }

/-- Every diagnostic that the output reports, in order. -/
def readAll (output : List Char) : List CheckerLine := (Text.lines output).filterMap read?

end CheckerLine
end MonorepoCheck
