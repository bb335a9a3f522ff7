import MonorepoCheck.Shell.Program
import MonorepoCheck.Shell.Session

/-!
The questions that `test` answers: about texts, numbers and files, alone or joined.
-/
namespace MonorepoCheck.Shell.Session

open Text (Bytes)

/-- Whether a path is that of a file that may be run. -/
def isExecutable (session : Session) (place : Path) : Bool :=
  match session.host.files.locate session.host.here place with
  | .ok place => session.executables.contains place
  | .error _ => false

/-- Whether a word is the path of a program. -/
def isProgram (session : Session) (word : Bytes) : Bool :=
  word.contains '/' && match Program.atPath session.host (path word) with
    | .ok _ => true
    | .error _ => false

/-- What a test with one operand says. -/
def testOne (session : Session) (operator operand : Bytes) : Option Bool :=
  let place := path operand
  match String.ofList operator with
  | "-n" => some (!operand.isEmpty)
  | "-z" => some operand.isEmpty
  | "-e" | "-r" | "-w" => some (session.host.existsAt place || session.isProgram operand)
  | "-f" => some (session.host.isFileAt place || session.isProgram operand)
  | "-d" => some (session.host.isDirectoryAt place)
  | "-x" =>
    some (session.host.isDirectoryAt place || session.isExecutable place
      || session.isProgram operand)
  | "-s" =>
    some (match session.host.files.find session.host.here place with
      | .ok (.file content _) => content.size != 0
      | .ok .directory => true
      | .error _ => false)
  | "-h" | "-L" | "-p" | "-S" | "-b" | "-c" | "-g" | "-k" | "-u" | "-t" => some false
  | _ => none

/-- What a test with two operands says, or which of them is no number. -/
def testTwo (session : Session) (left operator right : Bytes) : Option (Except Bytes Bool) :=
  let compared (holds : Int → Int → Bool) : Option (Except Bytes Bool) :=
    match decimalInteger? left, decimalInteger? right with
    | some a, some b => some (.ok (holds a b))
    | none, _ => some (.error left)
    | _, none => some (.error right)
  let time (file : Bytes) : Option Instant :=
    match session.host.files.find session.host.here (path file) with
    | .ok (.file _ modified) => some modified
    | _ => none
  match String.ofList operator with
  | "=" => some (.ok (left == right))
  | "!=" => some (.ok (left != right))
  | "<" => some (.ok (left < right))
  | ">" => some (.ok (right < left))
  | "-eq" => compared fun a b => a == b
  | "-ne" => compared fun a b => a != b
  | "-lt" => compared fun a b => decide (a < b)
  | "-le" => compared fun a b => decide (a ≤ b)
  | "-gt" => compared fun a b => decide (b < a)
  | "-ge" => compared fun a b => decide (b ≤ a)
  | "-nt" =>
    some (.ok (match time left, time right with
      | some a, some b => a.isAfter b
      | some _, none => true
      | none, _ => false))
  | "-ot" =>
    some (.ok (match time left, time right with
      | some a, some b => b.isAfter a
      | none, some _ => true
      | _, none => false))
  | _ => none

/-- What becomes of the words of a test: an answer or a complaint, and the words left. -/
abbrev Tested := Except String (Bool × List Bytes)

mutual

/-- Tests joined by `-o`. -/
def testAny (session : Session) : Nat → List Bytes → Tested
  | 0, _ => .error "too many words"
  | fuel + 1, words => do
    let (left, rest) ← testAll session fuel words
    match rest with
    | ['-', 'o'] :: rest => do
      let (right, rest) ← testAny session fuel rest
      pure (left || right, rest)
    | rest => pure (left, rest)

/-- Tests joined by `-a`, which binds tighter. -/
def testAll (session : Session) : Nat → List Bytes → Tested
  | 0, _ => .error "too many words"
  | fuel + 1, words => do
    let (left, rest) ← testNot session fuel words
    match rest with
    | ['-', 'a'] :: rest => do
      let (right, rest) ← testAll session fuel rest
      pure (left && right, rest)
    | rest => pure (left, rest)

def testNot (session : Session) : Nat → List Bytes → Tested
  | 0, _ => .error "too many words"
  | fuel + 1, words =>
    let isOne (word : Bytes) : Bool := (session.testOne word []).isSome
    let isTwo (word : Bytes) : Bool := (session.testTwo [] word []).isSome
    match words with
    | [] => .ok (false, [])
    | ['!'] :: rest => do
      let (holds, rest) ← testNot session fuel rest
      pure (!holds, rest)
    | ['('] :: next :: rest =>
      if next = [')'] then .ok (false, rest)
      else do
        let (holds, rest) ← testAny session fuel (next :: rest)
        match rest with
        | [')'] :: rest => pure (holds, rest)
        | _ => .error "closing paren expected"
    | word :: rest =>
      -- the name of a question is an operand itself where an operator for two follows
      let isOperand := match rest with
        | [] => true
        | next :: last :: _ => isTwo next && last != [')']
        | [_] => false
      match rest with
      | operand :: left =>
        if isOne word && !isOperand then
          .ok ((session.testOne word operand).getD false, left)
        else if isTwo operand then
          match left with
          | [] => .error (Text.decode operand ++ ": argument expected")
          | right :: left =>
            match session.testTwo word operand right with
            | some (.ok holds) => .ok (holds, left)
            | some (.error word) => .error ("Illegal number: " ++ Text.decode word)
            | none => .ok (!word.isEmpty, rest)
        else .ok (!word.isEmpty, rest)
      | [] => .ok (!word.isEmpty, [])

end

/-- The answer of a test as a status, with a complaint where its words mean nothing. -/
def runTest (session : Session) (words : List Bytes) : Nat × Option String :=
  let name := words.head?.getD []
  let inBrackets := name.getLast? == some '['
  let operands := words.tail
  if inBrackets && operands.getLast? != some [']'] then (2, some "missing ]")
  else
    let operands := if inBrackets then operands.dropLast else operands
    let compared := match operands with
      | [left, operator, right] => session.testTwo left operator right
      | _ => none
    let tested : Tested := match compared with
      | some (.ok holds) => .ok (holds, [])
      | some (.error word) => .error ("Illegal number: " ++ Text.decode word)
      | none => session.testAny (4 * operands.length + 8) operands
    match tested with
    | .ok (holds, []) => (if holds then 0 else 1, none)
    | .ok (_, left) =>
      -- the last word that still meant something
      let blamed := (operands[operands.length - left.length - 1]?).getD []
      (2, some (Text.decode blamed ++ ": unexpected operator"))
    | .error text => (2, some text)

end MonorepoCheck.Shell.Session
