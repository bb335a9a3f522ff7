import MonorepoCheck.Files.Tree
import MonorepoCheck.Text.Digit
import MonorepoCheck.Text.Search

/-!
A tree of files told in lines, and what has to be done to one tree to make another of it. A line
holds a letter for what stands there (`d` or `f`), the time of the last change in seconds with a
fraction, and the path: `f 1500000000.25 /work/a.ts`.
-/
namespace MonorepoCheck

structure Listed where
  isDirectory : Bool
  modified : Instant
  path : Path
  deriving DecidableEq, Repr, Inhabited

/-- Seconds with a fraction of up to nine digits; more digits are passed over. -/
def Listed.instantOf (word : List Char) : Instant :=
  let whole := word.takeWhile Text.isAsciiDigit
  let fraction := ((word.drop (whole.length + 1)).takeWhile Text.isAsciiDigit).take 9
  ⟨(Text.numeral whole : Int), Text.numeral fraction * Nat.pow 10 (9 - fraction.length)⟩

/-- Other kinds of entries are passed over. -/
def Listed.read? (line : List Char) : Option Listed :=
  match line with
  | kind :: ' ' :: rest =>
    let time := rest.takeWhile (· != ' ')
    let path : Path := ⟨String.ofList (rest.drop (time.length + 1))⟩
    if kind == 'd' then some ⟨true, instantOf time, path⟩
    else if kind == 'f' then some ⟨false, instantOf time, path⟩
    else none
  | _ => none

/-- What turns one tree into another. -/
inductive Change where
  | removeFile (place : Location)
  | removeDirectory (place : Location)
  | makeDirectory (place : Location)
  | writeFile (place : Location) (content : ByteArray)

namespace FileTree

/-- Adds an entry with the directories above it. -/
def addListed (tree : FileTree) (listed : Listed) (content : ByteArray) : FileTree :=
  let place := listed.path.steps.filterMap fun
    | .name name => some name
    | _ => none
  let above := (List.range place.length).map place.take
  let tree := above.foldl (fun tree place =>
    if (tree.entry? place).isSome then tree else tree.put place .directory) tree
  tree.put place (if listed.isDirectory then .directory else .file content listed.modified)

/-- The entries of the old tree that are gone or of another kind, those below others first. -/
def removals (old new : FileTree) : List Change :=
  old.entries.reverse.filterMap fun (place, entry) =>
    match entry, new.entry? place with
    | .directory, some .directory | .file .., some (.file ..) => none
    | .directory, _ => some (.removeDirectory place)
    | .file .., _ => some (.removeFile place)

/-- The entries of the new tree that the old one lacks or has otherwise. -/
def additions (old new : FileTree) : List Change :=
  new.entries.filterMap fun (place, entry) =>
    match entry, old.entry? place with
    | .directory, some .directory => none
    | .directory, _ => some (.makeDirectory place)
    | .file content time, some (.file before earlier) =>
      if content.data == before.data && time == earlier then none
      else some (.writeFile place content)
    | .file content _, _ => some (.writeFile place content)

def changes (old new : FileTree) : List Change := removals old new ++ additions old new

end FileTree
end MonorepoCheck
