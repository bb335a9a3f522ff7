import MonorepoCheck.Files.Tree
import MonorepoCheck.Glob.Pattern

/-!
The paths on disk that a glob pattern matches. A pattern is matched step by step: a step without
wildcards is looked up as it is written, one with wildcards goes through a directory in the order of
names, and `**` through all directories below. A directory comes before what is in it.
-/
namespace MonorepoCheck.Glob

/-- The pattern of one step of a path. -/
abbrev StepPattern := List Token

/-- The text that a pattern without wildcards matches. -/
def literal? : StepPattern → Option (List Char)
  | [] => some []
  | .literal c :: rest => (literal? rest).map (c :: ·)
  | _ => none

def isRecursive (step : StepPattern) : Bool := step.contains .anySteps

/-- The steps `.` and `..` that a pattern with wildcards means: those it matches, if it starts with a
point. -/
def pointSteps (step : StepPattern) : List String :=
  if step.head? == some (.literal '.') then
    ["..", "."].filter fun name => accepts step name.toList
  else []

/-- The last step of a path without what stands before it. -/
def nameOf? (path : Path) : Option (List Char) := path.fileName?.map String.toList

mutual

/-- The paths below `path` that the steps lead to. -/
def inside (tree : FileTree) : Nat → List StepPattern → Path → List Path
  | 0, _, _ => []
  | _ + 1, [], path => [path]
  | fuel + 1, step :: rest, path =>
    match literal? step with
    | some name =>
      let next := path.join ⟨String.ofList name⟩
      let present :=
        if name = ['.'] ∨ name = ['.', '.'] then tree.isDirectoryAt [] path
        else tree.existsAt [] next
      if present then inside tree fuel rest next else []
    | none =>
      match tree.find [] path, tree.locate [] path with
      | .ok .directory, .ok place =>
        (pointSteps step).flatMap (fun name => inside tree fuel rest (path.join ⟨name⟩))
          ++ (tree.children place).flatMap fun child =>
            matching tree fuel (step :: rest) (path.join ⟨child.1⟩)
      | _, _ => []

/-- The paths that the steps lead to when the first of them is matched with the name of `path`. -/
def matching (tree : FileTree) : Nat → List StepPattern → Path → List Path
  | 0, _, _ => []
  | _ + 1, [], _ => []
  | fuel + 1, step :: rest, path =>
    if isRecursive step then
      let next := rest.dropWhile isRecursive
      let own := if next.isEmpty then
          if tree.isDirectoryAt [] path then [path] else []
        else matching tree fuel next path
      own ++ inside tree fuel (step :: next) path
    else if (nameOf? path).any (accepts step) then inside tree fuel rest path
    else []

end

/-- Rounds that suffice to match so many steps on the tree. -/
def rounds (tree : FileTree) (steps : List StepPattern) : Nat :=
  let depth := (tree.entries.map fun entry => entry.1.length).foldl max 0
  2 * (steps.length + 1) * (depth + 2)

/-- The steps of a pattern that starts at the root, if it and each of them are well formed. -/
def steps? (pattern : List Char) : Option (List StepPattern) := do
  let _ ← parse? pattern
  let pieces := Text.splitOn '/' (pattern.drop 1)
  let pieces := if pieces.getLast? == some [] then pieces.dropLast else pieces
  pieces.mapM parse?

/-- The directories that a pattern matches; it starts at the root. A pattern that is not well formed
matches none. -/
def directories (tree : FileTree) (pattern : Path) : List Path :=
  match steps? pattern.text.toList with
  | some steps => (inside tree (rounds tree steps) steps ⟨"/"⟩).filter (tree.isDirectoryAt [])
  | none => []

end MonorepoCheck.Glob
