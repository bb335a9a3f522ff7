import MonorepoCheck.Unit.Basic

/-!
The order in which units are scanned. A depth-first walk puts every unit after the units it refers
to; a reference back into a unit that is still being walked would close a cycle and is skipped.
-/
namespace MonorepoCheck

/-- A reference from one unit to another, both in the set, with its place among the references of
its source. -/
structure Dependency where
  source : Path
  target : Path
  position : Nat
  deriving DecidableEq, Repr

/-- A reference that was skipped because it closed a cycle, by the names of its units. -/
structure SkippedReference where
  source : String
  target : String
  deriving DecidableEq, Repr, Inhabited

structure DependencyGraph where
  /-- the units, each path once -/
  units : List BuildUnit
  /-- each pair of units at most once -/
  dependencies : List Dependency
  deriving Repr

namespace SkippedReference

def toJson (skipped : SkippedReference) : Json :=
  .object [("from", .string skipped.source), ("to", .string skipped.target)]

def ofJson? (json : Json) : Option SkippedReference := do
  match ← Json.fields? ["from", "to"] json with
  | [source, target] =>
    pure ⟨← Json.required Json.text? source, ← Json.required Json.text? target⟩
  | _ => none

end SkippedReference

namespace DependencyGraph

/-- Adds a unit unless its path is known. -/
def addUnit (units : List BuildUnit) (unit : BuildUnit) : List BuildUnit :=
  if units.any fun known => known.path == unit.path then units else units ++ [unit]

/-- Adds a reference between two different units of the set, unless the pair is known. -/
def addDependency (units : List BuildUnit) (source : Path) (known : List Dependency)
    (reference : Path × Nat) : List Dependency :=
  if !(units.any fun unit => unit.path == reference.1) || reference.1 == source
      || known.any fun d => d.source == source && d.target == reference.1 then known
  else known ++ [⟨source, reference.1, reference.2⟩]

def ofUnits (units : List BuildUnit) : DependencyGraph :=
  let distinct := units.foldl addUnit []
  ⟨distinct, units.foldl
    (fun known unit => unit.references.zipIdx.foldl (addDependency distinct unit.path) known) []⟩

def unit? (graph : DependencyGraph) (path : Path) : Option BuildUnit :=
  graph.units.find? fun unit => unit.path == path

/-- The paths that a unit refers to, by their places in its build configuration. -/
def targets (graph : DependencyGraph) (source : Path) : List Path :=
  let own := graph.dependencies.filter fun d => d.source == source
  (own.reverse.mergeSort fun a b => a.position ≤ b.position).map Dependency.target

/-- The units that a unit refers to, in the order of its build configuration. -/
def dependenciesOf (graph : DependencyGraph) (unit : BuildUnit) : List BuildUnit :=
  (graph.targets unit.path).filterMap graph.unit?

/-- How far a walk has come: the finished paths in order, and the references skipped. -/
structure Progress where
  order : List Path
  skipped : List (Path × Path)
  deriving Repr

/-- Walks a path that is not finished, below the `open` ones that led to it. `fuel` bounds the
number of paths that can be open. -/
def visit (graph : DependencyGraph) : Nat → List Path → Path → Progress → Progress
  | 0, _, _, progress => progress
  | fuel + 1, walking, path, progress =>
    let inside := path :: walking
    let progress := (graph.targets path).foldl
      (fun progress target =>
        if inside.contains target then
          { progress with skipped := progress.skipped ++ [(path, target)] }
        else if progress.order.contains target then progress
        else visit graph fuel inside target progress)
      progress
    { progress with order := progress.order ++ [path] }

def walk (graph : DependencyGraph) : Progress :=
  graph.units.foldl
    (fun progress unit =>
      if progress.order.contains unit.path then progress
      else graph.visit graph.units.length [] unit.path progress)
    ⟨[], []⟩

end DependencyGraph

structure Schedule where
  order : List BuildUnit
  skipped : List SkippedReference
  deriving Repr, Inhabited

namespace DependencyGraph

def nameOf (graph : DependencyGraph) (path : Path) : String :=
  ((graph.unit? path).map BuildUnit.name).getD ""

/-- Every unit after those it refers to, skipped references aside, and otherwise in the order in
which the units came. -/
def schedule (graph : DependencyGraph) : Schedule :=
  let progress := graph.walk
  { order := progress.order.filterMap graph.unit?
    skipped := progress.skipped.map fun pair => ⟨graph.nameOf pair.1, graph.nameOf pair.2⟩ }

end DependencyGraph
end MonorepoCheck
