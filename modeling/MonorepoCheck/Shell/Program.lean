import MonorepoCheck.Host
import MonorepoCheck.Path.Relative

/-!
The small programs that every machine has, and how a program is found by its name.
-/
namespace MonorepoCheck.Shell

inductive Program where
  | baseName
  | cat
  | changeMode
  | compute
  | copy
  | cut
  | directoryName
  | echo
  | environment
  | fail
  | head
  | list
  | makeDirectory
  | move
  | printf
  | printDirectory
  | remove
  | removeDirectory
  | matchLines
  | sequence
  | shell
  | sleep
  | sort
  | succeed
  | tail
  | tee
  | test
  | timeout
  | touch
  | translate
  | unique
  | wordCount
  | yes
  deriving DecidableEq, Repr, Inhabited

namespace Program

def names : List (String × Program) :=
  [("basename", baseName), ("cat", cat), ("chmod", changeMode), ("cp", copy), ("cut", cut),
   ("dash", shell),
   ("dirname", directoryName), ("echo", echo), ("env", environment), ("expr", compute),
   ("false", fail), ("grep", matchLines), ("head", head), ("ls", list), ("mkdir", makeDirectory),
   ("mv", move), ("printf", printf), ("pwd", printDirectory), ("rm", remove),
   ("rmdir", removeDirectory), ("seq", sequence), ("sh", shell), ("sleep", sleep), ("sort", sort),
   ("tail", tail), ("tee", tee), ("test", test), ("[", test), ("timeout", timeout),
   ("touch", touch), ("tr", translate),
   ("true", succeed), ("uniq", unique), ("wc", wordCount), ("yes", yes)]

def ofName? (name : String) : Option Program := names.lookup name

/-- Why a program cannot be started. -/
inductive Refusal where
  | unreached (cause : FileError)
  /-- what is there is no program -/
  | notProgram
  deriving DecidableEq, Repr, Inhabited

def Refusal.message : Refusal → String
  | unreached cause => cause.message
  | notProgram => "Permission denied (os error 13)"

/-- The directories that hold the programs. -/
def directories : List String := ["/usr/bin", "/bin"]

/-- Where programs are looked for when nothing else is said. -/
def usualPath : String := "/usr/local/sbin:/usr/local/bin:/usr/sbin:/usr/bin:/sbin:/bin"

/-- The program that is said to be at a path. -/
def known? (path : Path) : Option Program := do
  let parent ← path.parent?
  let name ← path.fileName?
  if directories.contains parent.text then ofName? name else none

/-- The program at a path, or why it cannot be started. A file in the tree is no program. -/
def atPath (host : Host) (path : Path) : Except Refusal Program :=
  let absolute := ((FileTree.pathOf host.here).join path).normalize
  let belowProgram := FileTree.endsInSeparator path && (known? absolute).isSome
    || ((absolute.parent?.bind known?).isSome)
  match host.files.locate host.here path with
  | .error .nameTooLong => .error (.unreached .nameTooLong)
  | _ =>
    if belowProgram then .error (.unreached .notDirectory)
    else
      match known? absolute, host.files.find host.here path with
      | some program, _ => .ok program
      | none, .ok _ => .error .notProgram
      | none, .error cause => .error (.unreached cause)

/-- Looks a name up in directories, one after another, past those that are not there. -/
def search (host : Host) (name : String) (refused : Bool) :
    List (List Char) → Except Refusal Program
  | [] => .error (if refused then .notProgram else .unreached .notFound)
  | directory :: rest =>
    match atPath host (Path.join ⟨String.ofList directory⟩ ⟨name⟩) with
    | .ok program => .ok program
    | .error (.unreached .notFound) | .error (.unreached .notDirectory) =>
      search host name refused rest
    | .error .notProgram => search host name true rest
    | .error cause => .error cause

/-- The directories that a machine looks for programs in. -/
def searchPath (host : Host) : String := (host.valueOf? "PATH").getD usualPath

/-- The program of a name: a path if a slash is in it, else a name to look up in the directories of
`searched`, between colons. -/
def find (host : Host) (searched name : String) : Except Refusal Program :=
  if name.isEmpty then .error (.unreached .notFound)
  else if name.toList.contains '/' then atPath host ⟨name⟩
  else if FileTree.nameLimit < name.utf8ByteSize then .error (.unreached .nameTooLong)
  else search host name false (Text.splitOn ':' searched.toList)

/-- The path at which a name is found. -/
def located? (host : Host) (searched name : String) : Option String :=
  if name.toList.contains '/' then
    match atPath host ⟨name⟩ with
    | .ok _ => some name
    | .error _ => none
  else
    let paths := (Text.splitOn ':' searched.toList).map fun directory =>
      Path.join ⟨String.ofList directory⟩ ⟨name⟩
    paths.findSome? fun path =>
      match atPath host path with
      | .ok _ => some path.text
      | .error _ => none

end Program
end MonorepoCheck.Shell
