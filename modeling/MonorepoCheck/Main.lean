import MonorepoCheck.CommandLine.Execution
import MonorepoCheck.Files.Listing
import MonorepoCheck.Report.RunId
import MonorepoCheck.Shell.Process
import Std.Time.DateTime.Timestamp

/-!
The program. Where a run needs files, their listing is read from the standard input, so that
`find "$PWD" -printf '%y %T@ %p\n' | program scan` scans the working directory. The run works on
the tree so loaded, and what it changed there is written back at the end. No language model can be
reached.
-/
namespace MonorepoCheck.Program

/-- The lines of a stream up to its end, without their ends. -/
partial def readLines (input : IO.FS.Stream) (lines : Array String) : IO (Array String) := do
  let line ← input.getLine
  if line.isEmpty then return lines
  readLines input (lines.push (String.ofList (line.toList.takeWhile (· != '\n'))))

/-- The tree that the lines of a listing name. A file that cannot be read is left out. -/
def loadTree (lines : Array String) : IO FileTree :=
  lines.foldlM (fun tree line => do
    match Listed.read? line.toList with
    | none => return tree
    | some listed =>
      if listed.isDirectory then return tree.addListed listed .empty
      match ← (IO.FS.readBinFile listed.path.text).toBaseIO with
      | .ok content => return tree.addListed listed content
      | .error _ => return tree) .empty

def nameOf (place : Location) : String := (FileTree.pathOf place).text

def apply : Change → IO Unit
  | .removeFile place => IO.FS.removeFile (nameOf place)
  | .removeDirectory place => IO.FS.removeDir (nameOf place)
  | .makeDirectory place => IO.FS.createDirAll (nameOf place)
  | .writeFile place content => IO.FS.writeBinFile (nameOf place) content

/-- The variables that a run may look at. -/
def observedNames : List String :=
  ["PATH"] ++ [Provider.openAI, .anthropic].filterMap Provider.keyVariable?

def environment : IO (List (String × String)) :=
  observedNames.filterMapM fun name => return (← IO.getEnv name).map fun value => (name, value)

def present : IO Instant := do
  let nanos := (← Std.Time.Timestamp.now).toNanosecondsSinceUnixEpoch.val
  return ⟨(nanos / 1000000000 : Int), (nanos % 1000000000).toNat⟩

/-- Whether the words ask for something that looks at files. -/
def needsFiles (words : List String) : Bool :=
  match CommandLine.request words with
  | .scan _ | .writeSettings _ => true
  | .misused | .version | .help _ => false

def loadHost (words : List String) : IO Host := do
  let lines ← if needsFiles words then readLines (← IO.getStdin) #[] else pure #[]
  let here : Path := ⟨(← IO.currentDir).toString⟩
  let temporary : Path := ⟨(← IO.getEnv "TMPDIR").getD "/tmp"⟩
  let start := [here, temporary].foldl (fun tree path =>
    tree.addListed ⟨true, default, path⟩ .empty) (← loadTree lines)
  let random := (← IO.getRandomBytes 16).toList
  return {
    files := start, here := (start.locate [] here).toOption.getD [], temporary := temporary
    now := ← present, environment := ← environment
    token := String.ofList (RunId.digits random) }

/-- What is told about a run on the side. -/
def remark? (result : CommandLine.Result) : Option String :=
  match result.failure with
  | some failure => some (CommandLine.failureLine failure)
  | none => if result.status == 2 then some CommandLine.misuseText else none

def run (words : List String) : IO UInt32 := do
  let begun ← IO.monoMsNow
  let host ← loadHost words
  let runId := RunId.ofBytes (← IO.getRandomBytes 16).toList
  let stamp := ⟨runId, host.now.toTextWithOffset, (← IO.monoMsNow) - begun⟩
  let unreachable : Advice.Model Unit := fun _ _ => (.unreachable, ())
  let result := CommandLine.execute Shell.runner unreachable stamp words host ()
  (host.files.changes result.host.files).forM apply
  IO.print result.printed
  (remark? result).forM IO.eprintln
  return result.status.toUInt32

end MonorepoCheck.Program

def main (words : List String) : IO UInt32 := MonorepoCheck.Program.run words
