import MonorepoCheck.Instant.Basic
import MonorepoCheck.Path.Basic

/-!
A tree of directories and files, and what a program can ask of it and do to it. Paths are walked
step by step: every step but the last has to lead into a directory. A request that cannot be met
says why and changes nothing.
-/
namespace MonorepoCheck

/-- A place in the tree: the names on the way from the root. -/
abbrev Location := List String

/-- What stands at a place. There are no links, all of it may be read and written, and a file was
changed on a day that has a name. -/
inductive Entry where
  | directory
  | file (content : ByteArray) (modified : Instant)

/-- Why a request about files cannot be met. -/
inductive FileError where
  | notFound
  | alreadyExists
  | notDirectory
  | isDirectory
  | nameTooLong
  | notEmpty
  | notText
  /-- no path holds the character zero -/
  | zeroInPath
  deriving DecidableEq, Repr, Inhabited

def FileError.message : FileError → String
  | notFound => "No such file or directory (os error 2)"
  | alreadyExists => "File exists (os error 17)"
  | notDirectory => "Not a directory (os error 20)"
  | isDirectory => "Is a directory (os error 21)"
  | nameTooLong => "File name too long (os error 36)"
  | notEmpty => "Directory not empty (os error 39)"
  | notText => "stream did not contain valid UTF-8"
  | zeroInPath => "file name contained an unexpected NUL byte"

/-- The entries of a tree by their places. The root is a directory and is not listed. -/
structure FileTree where
  entries : List (Location × Entry)

namespace FileTree

def empty : FileTree := ⟨[]⟩

instance : Inhabited FileTree := ⟨empty⟩

def entry? (tree : FileTree) (place : Location) : Option Entry :=
  if place.isEmpty then some .directory
  else (tree.entries.find? fun entry => entry.1 == place).map Prod.snd

/-- Sets the entry at a place, whatever was there. -/
def put (tree : FileTree) (place : Location) (entry : Entry) : FileTree :=
  if tree.entries.any fun old => old.1 == place then
    ⟨tree.entries.map fun old => if old.1 == place then (place, entry) else old⟩
  else ⟨tree.entries ++ [(place, entry)]⟩

def erase (tree : FileTree) (place : Location) : FileTree :=
  ⟨tree.entries.filter fun entry => entry.1 != place⟩

/-- The part of the tree below a name in its root. -/
def below (tree : FileTree) (name : String) : FileTree :=
  ⟨tree.entries.filterMap fun (place, entry) =>
    match place with
    | first :: rest => if first = name then some (rest, entry) else none
    | [] => none⟩

/-- The part of the tree below a place. -/
def subtree (tree : FileTree) (place : Location) : FileTree := place.foldl below tree

/-- The entries right inside a directory, in the order of their names. -/
def children (tree : FileTree) (place : Location) : List (String × Entry) :=
  let inside := tree.entries.filterMap fun (other, entry) =>
    match other.getLast? with
    | some name => if other.dropLast == place then some (name, entry) else none
    | none => none
  inside.mergeSort fun a b => !decide (b.1 < a.1)

/-- One step of a path as it is walked on the tree. -/
inductive Walk where
  | stay
  | up
  | into (name : String)
  deriving DecidableEq, Repr

def Walk.ofPiece? (piece : List Char) : Option Walk :=
  if piece = [] then none
  else if piece = ['.'] then some .stay
  else if piece = ['.', '.'] then some .up
  else some (.into (String.ofList piece))

/-- Whether the path ends in a separator, which asks for a directory. -/
def endsInSeparator (path : Path) : Bool := path.text.toList.getLast? == some '/'

/-- The steps of a path, without the demand of a separator at its end. -/
def walk (path : Path) : List Walk :=
  (Text.splitOn '/' path.text.toList).filterMap Walk.ofPiece?

/-- Names longer than this do not exist. -/
def nameLimit : Nat := 255

/-- Paths as long as this lead nowhere. -/
def pathLimit : Nat := 4096

/-- Follows steps from a place with `inside` below it. What stands at the end is not looked at. -/
def follow (tree inside : FileTree) (place : Location) : List Walk → Except FileError Location
  | [] => .ok place
  | .stay :: rest => follow tree inside place rest
  | .up :: rest => follow tree (tree.subtree place.dropLast) place.dropLast rest
  | .into name :: rest =>
    if nameLimit < name.utf8ByteSize then .error .nameTooLong
    else if rest.isEmpty then .ok (place ++ [name])
    else
      match inside.entry? [name] with
      | some .directory => follow tree (inside.below name) (place ++ [name]) rest
      | some (.file ..) => .error .notDirectory
      | none => .error .notFound

/-- Where the steps of a path start. -/
def origin (here : Location) (path : Path) : Location := if path.isAbsolute then [] else here

/-- The place that a path leads to from a working directory. -/
def locate (tree : FileTree) (here : Location) (path : Path) : Except FileError Location :=
  if path.text.isEmpty then .error .notFound
  else if path.text.toList.contains (Char.ofNat 0) then .error .zeroInPath
  else if pathLimit ≤ path.text.utf8ByteSize then .error .nameTooLong
  else
    let start := origin here path
    match tree.entry? start with
    | some .directory => tree.follow (tree.subtree start) start (walk path)
    | some (.file ..) => .error .notDirectory
    | none => .error .notFound

/-- What stands at the end of a path. -/
def find (tree : FileTree) (here : Location) (path : Path) : Except FileError Entry := do
  let place ← tree.locate here path
  match tree.entry? place with
  | none => .error .notFound
  | some (.file content modified) =>
    if endsInSeparator path then .error .notDirectory else .ok (.file content modified)
  | some .directory => .ok .directory

def existsAt (tree : FileTree) (here : Location) (path : Path) : Bool :=
  match tree.find here path with
  | .ok _ => true
  | .error _ => false

def isFileAt (tree : FileTree) (here : Location) (path : Path) : Bool :=
  match tree.find here path with
  | .ok (.file ..) => true
  | _ => false

def isDirectoryAt (tree : FileTree) (here : Location) (path : Path) : Bool :=
  match tree.find here path with
  | .ok .directory => true
  | _ => false

def readText (tree : FileTree) (here : Location) (path : Path) : Except FileError String := do
  match ← tree.find here path with
  | .directory => .error .isDirectory
  | .file content _ =>
    match String.fromUTF8? content with
    | some text => .ok text
    | none => .error .notText

/-- Writes a whole file, new or not. The directory it is in has to exist. -/
def writeBytes (tree : FileTree) (here : Location) (path : Path) (content : ByteArray)
    (time : Instant) : Except FileError FileTree := do
  let place ← tree.locate here path
  match tree.entry? place with
  | some .directory => .error .isDirectory
  | some (.file ..) =>
    if endsInSeparator path then .error .notDirectory
    else .ok (tree.put place (.file content time))
  | none =>
    match tree.entry? place.dropLast with
    | some .directory =>
      if endsInSeparator path then .error .isDirectory
      else .ok (tree.put place (.file content time))
    | some (.file ..) => .error .notDirectory
    | none => .error .notFound

def writeText (tree : FileTree) (here : Location) (path : Path) (text : String)
    (time : Instant) : Except FileError FileTree :=
  tree.writeBytes here path text.toUTF8 time

/-- Makes one directory in one that exists. -/
def makeDirectory (tree : FileTree) (here : Location) (path : Path) : Except FileError FileTree := do
  let place ← tree.locate here path
  match tree.entry? place with
  | some _ => .error .alreadyExists
  | none =>
    match tree.entry? place.dropLast with
    | some .directory => .ok (tree.put place .directory)
    | some (.file ..) => .error .notDirectory
    | none => .error .notFound

/-- Makes the directories that steps lead through from a place with `inside` below it, as far as
they are missing. -/
def makeAlong (tree inside : FileTree) (place : Location) : List Walk → Except FileError FileTree
  | [] => .ok tree
  | .stay :: rest => makeAlong tree inside place rest
  | .up :: rest => makeAlong tree (tree.subtree place.dropLast) place.dropLast rest
  | .into name :: rest =>
    let next := place ++ [name]
    if nameLimit < name.utf8ByteSize then .error .nameTooLong
    else
      match inside.entry? [name] with
      | some .directory => makeAlong tree (inside.below name) next rest
      | some (.file ..) => .error (if rest.isEmpty then .alreadyExists else .notDirectory)
      | none => makeAlong ⟨tree.entries ++ [(next, .directory)]⟩ empty next rest

/-- Makes a directory with all those above it. The empty path asks for nothing. -/
def makeDirectories (tree : FileTree) (here : Location) (path : Path) :
    Except FileError FileTree :=
  if path.text.isEmpty then .ok tree
  else
    match tree.makeDirectory here path with
    | .ok tree => .ok tree
    | .error .notFound =>
      match path.parent? with
      | none => .error .notFound
      | some parent => do
        let start := origin here path
        let tree ← tree.makeAlong (tree.subtree start) start (walk parent)
        if tree.isDirectoryAt here path then .ok tree else tree.makeDirectory here path
    | .error error => if tree.isDirectoryAt here path then .ok tree else .error error

/-- Moves a file over a file or to a free place. -/
def renameFile (tree : FileTree) (here : Location) (old new : Path) :
    Except FileError FileTree := do
  let source ← tree.locate here old
  let target ← tree.locate here new
  match tree.entry? source with
  | none => .error .notFound
  | some .directory => .error .isDirectory
  | some entry =>
    match tree.entry? target with
    | some .directory => .error .isDirectory
    | _ =>
      match tree.entry? target.dropLast with
      | some .directory => .ok ((tree.erase source).put target entry)
      | some (.file ..) => .error .notDirectory
      | none => .error .notFound

/-- Removes a file. -/
def removeFile (tree : FileTree) (here : Location) (path : Path) : Except FileError FileTree := do
  let place ← tree.locate here path
  match tree.entry? place with
  | none => .error .notFound
  | some .directory => .error .isDirectory
  | some (.file ..) => .ok (tree.erase place)

/-- Removes a directory with nothing in it. -/
def removeDirectory (tree : FileTree) (here : Location) (path : Path) :
    Except FileError FileTree := do
  let place ← tree.locate here path
  match tree.entry? place with
  | none => .error .notFound
  | some (.file ..) => .error .notDirectory
  | some .directory =>
    if (tree.children place).isEmpty then .ok (tree.erase place) else .error .notEmpty

/-- Sets the time at which a file was changed. -/
def setModified (tree : FileTree) (here : Location) (path : Path) (time : Instant) :
    Except FileError FileTree := do
  let place ← tree.locate here path
  match tree.entry? place with
  | some (.file content _) => .ok (tree.put place (.file content time))
  | some .directory => .ok tree
  | none => .error .notFound

/-- The name of a place as an absolute path. -/
def pathOf (place : Location) : Path := ⟨"/" ++ Text.joinText "/" place⟩

/-- The places that steps enter on their way from a place. -/
def entered (place : Location) : List Walk → List Location
  | [] => []
  | .stay :: rest => entered place rest
  | .up :: rest => entered place.dropLast rest
  | .into name :: rest => (place ++ [name]) :: entered (place ++ [name]) rest

/-- The absolute path of what stands at the end of a path. Each place on the way is looked at under its
own absolute path, which may be too long where the path itself is not. -/
def realPath (tree : FileTree) (here : Location) (path : Path) : Except FileError Path := do
  let place ← tree.locate here path
  if (tree.entry? place).isNone then .error .notFound
  else if (entered (origin here path) (walk path)).any fun place =>
      pathLimit ≤ (pathOf place).text.utf8ByteSize then .error .nameTooLong
  else pure (pathOf place)

end FileTree
end MonorepoCheck
