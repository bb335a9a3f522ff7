import MonorepoCheck.Path.Basic
import MonorepoCheck.Text.Bytes
import MonorepoCheck.Text.Digit

/-!
Commands to run and what comes of running them. A command that cannot be run is an outcome like
any other, never an error.
-/
namespace MonorepoCheck

/-- A program with its arguments. -/
structure Command where
  program : String
  arguments : List String
  deriving DecidableEq, Repr, Inhabited

/-- The command as one line, for people to read. -/
def Command.line (command : Command) : String :=
  Text.joinText " " (command.program :: command.arguments)

/-- A command with the place to run it and the seconds it may take. -/
structure Invocation where
  command : Command
  directory : Path
  timeoutSeconds : Nat
  deriving DecidableEq, Repr, Inhabited

/-- How a command ended. -/
inductive Outcome where
  /-- It ran to its end, with an exit code unless a signal ended it. -/
  | completed (success : Bool) (code : Option Int) (output : String)
  | timedOut (milliseconds : Nat)
  | failedToStart (reason : String)
  deriving DecidableEq, Repr, Inhabited

namespace Outcome

def succeeded : Outcome → Bool
  | completed success _ _ => success
  | _ => false

def output? : Outcome → Option String
  | completed _ _ output => some output
  | _ => none

/-- What is kept of the two streams of a command: its output, and its errors right after that. -/
def captured (output errors : Text.Bytes) : String := Text.decode output ++ Text.decode errors

def signed (n : Int) : String :=
  if n < 0 then "-" ++ Text.decimalText n.natAbs else Text.decimalText n.natAbs

def describe : Outcome → String
  | completed true _ _ => "exited successfully"
  | completed false (some code) _ => "exited with status " ++ signed code
  | completed false none _ => "terminated by signal"
  | timedOut milliseconds => "timed out after " ++ Text.decimalText (milliseconds / 1000) ++ "s"
  | failedToStart reason => "failed to start: " ++ reason

end Outcome
end MonorepoCheck
