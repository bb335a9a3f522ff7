import MonorepoCheck.Command.Basic
import MonorepoCheck.Files.Tree

/-!
The machine that a run works on, as a value: its files, its clock, the request to stop, and the
commands that have been run on it. What a command does to the machine is given by a `Runner`.
-/
namespace MonorepoCheck

structure Host where
  files : FileTree
  /-- the directory that relative paths start from -/
  here : Location := []
  /-- where temporary files belong -/
  temporary : Path := ⟨"/tmp"⟩
  now : Instant
  /-- the environment variables that are set -/
  environment : List (String × String) := []
  /-- how many units the machine can scan at a time -/
  workers : Nat := 1
  /-- what makes the names of temporary files unlike all others -/
  token : String := ""
  /-- set once somebody asked for the run to stop -/
  cancelled : Bool := false
  /-- the commands run so far, oldest first -/
  history : List Invocation := []
  deriving Inhabited

/-- What comes of running a command, and the machine afterwards. -/
abbrev Runner := Invocation → Host → Outcome × Host

namespace Host

/-- Runs a command and notes it down. -/
def run (host : Host) (runner : Runner) (invocation : Invocation) : Outcome × Host :=
  runner invocation { host with history := host.history ++ [invocation] }

def valueOf? (host : Host) (name : String) : Option String :=
  (host.environment.find? fun entry => entry.1 == name).map Prod.snd

def existsAt (host : Host) (path : Path) : Bool := host.files.existsAt host.here path

def isFileAt (host : Host) (path : Path) : Bool := host.files.isFileAt host.here path

def isDirectoryAt (host : Host) (path : Path) : Bool := host.files.isDirectoryAt host.here path

def readText (host : Host) (path : Path) : Except FileError String :=
  host.files.readText host.here path

/-- Writes a file at the present time. -/
def writeText (host : Host) (path : Path) (text : String) : Except FileError Host := do
  pure { host with files := ← host.files.writeText host.here path text host.now }

def makeDirectories (host : Host) (path : Path) : Except FileError Host := do
  pure { host with files := ← host.files.makeDirectories host.here path }

/-- The absolute path of a place that exists. -/
def realPath (host : Host) (path : Path) : Except FileError Path :=
  host.files.realPath host.here path

end Host
end MonorepoCheck
