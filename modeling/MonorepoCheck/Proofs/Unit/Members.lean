import MonorepoCheck.Proofs.Path.Resolution
import MonorepoCheck.Proofs.Unit.Relocation

/-!
Which directories of a workspace become units. A pattern after `!` takes a directory out of the
members that the manifest declares. Where it leaves none of them, the grouping directories are looked
through instead, and what it takes out does not count there.
-/
namespace MonorepoCheck

open FileTree MonorepoCheck.Path

theorem nodup_eraseDups {α : Type} [BEq α] [LawfulBEq α] (list : List α) : list.eraseDups.Nodup := by
  induction list using Workspace.eraseDups_induction with
  | nil => exact List.nodup_nil
  | cons first rest ih =>
      rw [List.eraseDups_cons, List.nodup_cons]
      exact ⟨by simp, ih⟩

namespace Glob

/-- Whether all that a search finds from an absolute path is absolute. -/
def KeepsAbsolute (search : List StepPattern → Path → List Path) : Prop :=
  ∀ steps path, path.isAbsolute = true → ∀ found ∈ search steps path, found.isAbsolute = true

section Rounds

variable {tree : FileTree} {fuel : Nat}

theorem inside_absolute (inner : KeepsAbsolute (inside tree fuel))
    (outer : KeepsAbsolute (matching tree fuel)) : KeepsAbsolute (inside tree (fuel + 1)) := by
  intro steps path absolute found member
  cases steps with
  | nil =>
      rw [inside, List.mem_singleton] at member
      exact member ▸ absolute
  | cons step rest =>
      cases named : literal? step with
      | some name =>
          rw [inside_literal fuel named] at member
          generalize (if name = ['.'] ∨ name = ['.', '.'] then tree.isDirectoryAt [] path
            else tree.existsAt [] (path.join ⟨String.ofList name⟩)) = present at member
          cases present with
          | true => exact inner rest _ (isAbsolute_join_left absolute) found member
          | false => cases member
      | none =>
          rw [inside_wild fuel named] at member
          split at member
          · rcases List.mem_append.mp member with point | child
            · obtain ⟨name, -, later⟩ := List.mem_flatMap.mp point
              exact inner rest _ (isAbsolute_join_left absolute) found later
            · obtain ⟨name, -, later⟩ := List.mem_flatMap.mp child
              exact outer _ _ (isAbsolute_join_left absolute) found later
          · cases member

theorem matching_absolute (inner : KeepsAbsolute (inside tree fuel))
    (outer : KeepsAbsolute (matching tree fuel)) : KeepsAbsolute (matching tree (fuel + 1)) := by
  intro steps path absolute found member
  cases steps with
  | nil =>
      rw [matching] at member
      cases member
  | cons step rest =>
      cases recursive : isRecursive step with
      | true =>
          rw [matching_recursive fuel recursive] at member
          rcases List.mem_append.mp member with own | deeper
          · split at own
            · split at own
              · exact List.mem_singleton.mp own ▸ absolute
              · cases own
            · exact outer _ _ absolute found own
          · exact inner _ _ absolute found deeper
      | false =>
          rw [matching_named fuel recursive] at member
          split at member
          · exact inner rest _ absolute found member
          · cases member

end Rounds

/-- An expansion only joins names to the path that it starts from. -/
theorem expand_absolute (tree : FileTree) (fuel : Nat) :
    KeepsAbsolute (inside tree fuel) ∧ KeepsAbsolute (matching tree fuel) := by
  induction fuel with
  | zero =>
      constructor
      · intro steps path _ found member
        rw [inside] at member
        cases member
      · intro steps path _ found member
        rw [matching] at member
        cases member
  | succ fuel ih => exact ⟨inside_absolute ih.1 ih.2, matching_absolute ih.1 ih.2⟩

theorem directories_absolute {tree : FileTree} {pattern found : Path}
    (member : found ∈ directories tree pattern) : found.isAbsolute = true := by
  rw [directories] at member
  split at member
  · exact (expand_absolute tree _).1 _ ⟨"/"⟩ rfl found (List.mem_filter.mp member).1
  · cases member

end Glob

namespace Workspace

section Units

variable {workspace : Workspace} {host : Host} {settings : Settings} {path : Path}

theorem loadUnit_path (workspace : Workspace) (host : Host) (settings : Settings) (path : Path) :
    (workspace.loadUnit host settings path).path = path := by
  rw [loadUnit]
  split <;> rfl

/-- The paths of the units are those of the candidates with a build configuration, each once. -/
theorem unit_paths (workspace : Workspace) (host : Host) (settings : Settings) :
    (workspace.units host settings).map BuildUnit.path
      = ((workspace.candidates host settings).filter fun path =>
          host.isFileAt (path.join ⟨settings.configurationFile⟩)).eraseDups := by
  rw [units, List.map_map]
  exact (List.map_congr_left fun path _ => loadUnit_path workspace host settings path).trans
    (List.map_id _)

theorem unit_paths_once (workspace : Workspace) (host : Host) (settings : Settings) :
    ((workspace.units host settings).map BuildUnit.path).Nodup := by
  rw [unit_paths]
  exact nodup_eraseDups _

theorem mem_unit_paths_iff : path ∈ (workspace.units host settings).map BuildUnit.path ↔
    path ∈ workspace.candidates host settings
      ∧ host.isFileAt (path.join ⟨settings.configurationFile⟩) = true := by
  rw [unit_paths, List.mem_eraseDups, List.mem_filter]

/-- The directories that are looked at before the root. -/
def members (workspace : Workspace) (host : Host) (settings : Settings) : List Path :=
  if (workspace.declaredMembers host).isEmpty then
    workspace.groupedMembers host settings.fallbackDirectories
  else workspace.declaredMembers host

theorem mem_candidates_iff : path ∈ workspace.candidates host settings ↔
    (∃ member ∈ workspace.members host settings, member.normalize = path)
      ∨ path = workspace.root.normalize := by
  rw [candidates, List.map_append, List.mem_append, List.mem_map, List.map_singleton,
    List.mem_singleton]
  rfl

end Units

section Declared

variable {host : Host} {root place : Location} {settings : Settings} {path : Path}

/-- Whether a pattern of the manifest, of those that take out or of the others, means a path. -/
def Means (host : Host) (root : Location) (negative : Bool) (path : Path) : Prop :=
  ∃ pattern ∈ patternsIn host root, negated pattern = negative
    ∧ path ∈ (Workspace.mk (pathOf root)).expand host (bare pattern)

theorem mem_meant_iff (negative : Bool) :
    path ∈ (patternsIn host root).flatMap (meant host root negative) ↔
      Means host root negative path := by
  rw [List.mem_flatMap]
  constructor
  · rintro ⟨pattern, listed, member⟩
    rw [meant] at member
    split at member
    · rename_i same
      exact ⟨pattern, listed, beq_iff_eq.mp same, member⟩
    · cases member
  · rintro ⟨pattern, listed, same, member⟩
    refine ⟨pattern, listed, ?_⟩
    rw [meant, if_pos (beq_iff_eq.mpr same)]
    exact member

instance (host : Host) (root : Location) (negative : Bool) (path : Path) :
    Decidable (Means host root negative path) :=
  inferInstanceAs (Decidable (∃ pattern ∈ patternsIn host root, negated pattern = negative
    ∧ path ∈ (Workspace.mk (pathOf root)).expand host (bare pattern)))

/-- Whether a path is meant by a pattern and by none of those that take out. -/
def Remains (host : Host) (root : Location) (path : Path) : Prop :=
  Means host root false path ∧ ¬ Means host root true path

instance (host : Host) (root : Location) (path : Path) : Decidable (Remains host root path) :=
  inferInstanceAs (Decidable (Means host root false path ∧ ¬ Means host root true path))

theorem mem_declaredMembers_iff :
    path ∈ (Workspace.mk (pathOf root)).declaredMembers host ↔ Remains host root path := by
  rw [declaredMembers_eq, List.mem_filter, mem_meant_iff, Remains, ← mem_meant_iff true]
  simp

theorem declaredMembers_isEmpty_iff :
    ((Workspace.mk (pathOf root)).declaredMembers host).isEmpty = true ↔
      ∀ path, ¬ Remains host root path := by
  rw [List.isEmpty_iff, List.eq_nil_iff_forall_not_mem]
  simp only [mem_declaredMembers_iff]

/-- Whether a pattern after `!` matches a path to a place, one that does not lead above the root of
the tree on its way. -/
def TakesOut (host : Host) (root place : Location) : Prop :=
  ∃ pattern ∈ patternsIn host root, negated pattern = true ∧
    ∃ path ∈ Glob.directories host.files
        ((pathOf root).join ⟨String.ofList (trimmed (bare pattern))⟩),
      path.climbs = 0 ∧ placeOf [] path = place

instance (host : Host) (root place : Location) : Decidable (TakesOut host root place) :=
  inferInstanceAs (Decidable (∃ pattern ∈ patternsIn host root, negated pattern = true ∧
    ∃ path ∈ Glob.directories host.files
        ((pathOf root).join ⟨String.ofList (trimmed (bare pattern))⟩),
      path.climbs = 0 ∧ placeOf [] path = place))

theorem TakesOut.means (out : TakesOut host root place) : Means host root true (pathOf place) := by
  obtain ⟨pattern, listed, negative, path, found, level, rfl⟩ := out
  refine ⟨pattern, listed, negative, ?_⟩
  rw [expand_eq, ← normalize_level (Glob.directories_absolute found) level]
  exact List.mem_map_of_mem found

theorem TakesOut.plain (out : TakesOut host root place) : PlainPlace place := by
  obtain ⟨pattern, -, -, path, found, -, rfl⟩ := out
  exact plainPlace_placeOf .nil

/-- What is declared and not grouped is normal already. -/
theorem Means.normal {negative : Bool} (means : Means host root negative path) :
    path.normalize = path := by
  obtain ⟨pattern, -, -, member⟩ := means
  rw [expand_eq] at member
  obtain ⟨found, -, rfl⟩ := List.mem_map.mp member
  exact normalize_normalize found

end Declared

/-- A directory beside the root that a pattern after `!` matches is a unit only where the patterns of
the manifest leave no directory at all. Then, like any other, it is one exactly if it stands right in
a grouping directory and has a build configuration. -/
theorem taken_out_found_iff (host : Host) (root : Location) (settings : Settings)
    (plain : PlainPlace root) {place : Location} (beside : place ≠ root)
    (out : TakesOut host root place) :
    (∃ unit ∈ (Workspace.mk (pathOf root)).units host settings, unit.path = pathOf place) ↔
      (∀ path, ¬ Remains host root path)
        ∧ (∃ group ∈ settings.fallbackDirectories,
            ∃ child ∈ childDirectories host ((pathOf root).join ⟨group⟩),
              child.normalize = pathOf place)
        ∧ host.isFileAt ((pathOf place).join ⟨settings.configurationFile⟩) = true := by
  have notRoot : pathOf place ≠ (pathOf root).normalize := by
    rw [normalize_pathOf plain]
    exact fun same => beside (pathOf_injective out.plain plain same)
  have unitPath : (∃ unit ∈ (Workspace.mk (pathOf root)).units host settings,
      unit.path = pathOf place) ↔ pathOf place ∈
        ((Workspace.mk (pathOf root)).units host settings).map BuildUnit.path := by
    rw [List.mem_map]
  rw [unitPath, mem_unit_paths_iff, mem_candidates_iff, or_iff_left notRoot, members,
    ← declaredMembers_isEmpty_iff, ← and_assoc]
  refine and_congr_left fun _ => ?_
  split
  · rename_i none'
    simp only [none', true_and, groupedMembers, List.mem_flatMap]
    constructor
    · rintro ⟨child, ⟨group, listed, inside⟩, same⟩
      exact ⟨group, listed, child, inside, same⟩
    · rintro ⟨group, listed, child, inside, same⟩
      exact ⟨child, ⟨group, listed, inside⟩, same⟩
  · rename_i some'
    constructor
    · -- a member that is left is normal, and the place's own path is taken out
      rintro ⟨member, listed, same⟩
      have remains := mem_declaredMembers_iff.mp listed
      rw [remains.1.normal] at same
      exact absurd out.means (same ▸ remains.2)
    · rintro ⟨none', -⟩
      exact absurd none' some'

namespace Sample

/-- A workspace with a directory in each of two of the usual grouping directories. -/
def declaring (manifest : String) : Host where
  files := ⟨[(["work"], .directory), (["work", "package.json"], .file manifest.toUTF8 ⟨5, 0⟩),
    (["work", "apps"], .directory), (["work", "apps", "a"], .directory),
    (["work", "apps", "a", "tsconfig.json"], marked), (["work", "packages"], .directory),
    (["work", "packages", "b"], .directory),
    (["work", "packages", "b", "tsconfig.json"], marked)]⟩
  now := ⟨10, 0⟩

/-- A manifest that takes one member out and leaves another. -/
def leaving : Host :=
  declaring "\x7b\"workspaces\": [\"apps/*\", \"packages/?\", \"!./packages/b/\"]\x7d"

/-- A manifest that only takes a member out. -/
def barring : Host := declaring "\x7b\"workspaces\": [\"!packages/b\"]\x7d"

theorem taken_out_not_found :
    TakesOut leaving ["work"] ["work", "packages", "b"]
      ∧ Remains leaving ["work"] (pathOf ["work", "apps", "a"])
      ∧ ¬ ∃ unit ∈ (workspace ["work"]).units leaving Settings.default,
        unit.path = pathOf ["work", "packages", "b"] := by
  have out : TakesOut leaving ["work"] ["work", "packages", "b"] := by decide +kernel
  have left : Remains leaving ["work"] (pathOf ["work", "apps", "a"]) := by decide +kernel
  refine ⟨out, left, ?_⟩
  intro found
  exact ((taken_out_found_iff leaving ["work"] Settings.default (by decide) (by decide) out).mp
    found).1 _ left

/-- Where no member is left the grouping directories are looked through, and what the manifest takes
out is a unit. -/
theorem taken_out_yet_found :
    TakesOut barring ["work"] ["work", "packages", "b"]
      ∧ ["work", "packages", "b"] ≠ ["work"]
      ∧ ((workspace ["work"]).units barring Settings.default).map BuildUnit.path
        = [pathOf ["work", "packages", "b"], pathOf ["work", "apps", "a"]] := by
  decide +kernel

end Sample

end Workspace

end MonorepoCheck
