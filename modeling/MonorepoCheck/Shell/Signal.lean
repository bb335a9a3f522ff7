import MonorepoCheck.Text.Bytes
import MonorepoCheck.Text.Digit

/-!
The signals that processes send each other: their names and numbers, and what becomes of a process
that is not prepared for one.
-/
namespace MonorepoCheck.Shell

open Text (Bytes)

/-- Names, numbers and descriptions of signals. -/
def signals : List (String × Nat × String) :=
  [("HUP", 1, "Hangup"), ("INT", 2, ""), ("QUIT", 3, "Quit"), ("ILL", 4, "Illegal instruction"),
   ("TRAP", 5, "Trace/breakpoint trap"), ("ABRT", 6, "Aborted"), ("BUS", 7, "Bus error"),
   ("FPE", 8, "Floating point exception"), ("KILL", 9, "Killed"),
   ("USR1", 10, "User defined signal 1"), ("SEGV", 11, "Segmentation fault"),
   ("USR2", 12, "User defined signal 2"), ("PIPE", 13, ""), ("ALRM", 14, "Alarm clock"),
   ("TERM", 15, "Terminated"), ("STKFLT", 16, "Stack fault"), ("CHLD", 17, ""), ("CONT", 18, ""),
   ("STOP", 19, ""), ("TSTP", 20, ""), ("TTIN", 21, ""), ("TTOU", 22, ""), ("URG", 23, ""),
   ("XCPU", 24, "CPU time limit exceeded"), ("XFSZ", 25, "File size limit exceeded"),
   ("VTALRM", 26, "Virtual timer expired"), ("PROF", 27, "Profiling timer expired"),
   ("WINCH", 28, ""), ("IO", 29, "I/O possible"), ("PWR", 30, "Power failure"),
   ("SYS", 31, "Bad system call")]

/-- The signal that a name or a number means; zero is the end of a process. -/
def signal? (word : Bytes) : Option Nat :=
  match Text.readNumeral? word with
  | some number => if number ≤ 64 then some number else none
  | none =>
    let name := String.ofList word
    if name = "EXIT" then some 0
    else (signals.find? fun entry => entry.1 == name).map fun entry => entry.2.1

def signalName (number : Nat) : String :=
  if number = 0 then "EXIT"
  else
    match signals.find? fun entry => entry.2.1 == number with
    | some entry => entry.1
    | none => Text.decimalText number

/-- What is said of a process that a signal has ended; nothing of the usual ways to do so. -/
def signalNotice (number : Nat) : String :=
  match signals.find? fun entry => entry.2.1 == number with
  | some entry => entry.2.2
  | none => "Real-time signal " ++ Text.decimalText (number - 34)

/-- Signals that pass without effect where nobody waits for them. -/
def isHarmless (number : Nat) : Bool := [0, 17, 18, 23, 28].contains number

/-- Signals that hold a process up until another one lets it go on. -/
def isStopping (number : Nat) : Bool := [19, 20, 21, 22].contains number

/-- Signals that no process can be prepared for. -/
def isFinal (number : Nat) : Bool := number = 9 || number = 19

end MonorepoCheck.Shell
