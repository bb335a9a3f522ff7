import Mathlib.Data.List.Nodup
import MonorepoCheck.Unit.Schedule

/-!
The dependency graph of a list of units: its units are the first of each path, and its edges are the
references between different paths of the list, each pair once.
-/
namespace MonorepoCheck

/-- The two paths that a dependency joins. -/
def Dependency.ends (dependency : Dependency) : Path × Path :=
  (dependency.source, dependency.target)

namespace DependencyGraph

/-- A unit in `source` refers to `target`, which is another unit of the list. -/
def Refers (units : List BuildUnit) (source target : Path) : Prop :=
  (∃ unit ∈ units, unit.path = source ∧ target ∈ unit.references) ∧
    (∃ unit ∈ units, unit.path = target) ∧ target ≠ source

def paths (graph : DependencyGraph) : List Path := graph.units.map BuildUnit.path

/-- Each path and each pair of paths stands once, and dependencies join different units. -/
structure WellFormed (graph : DependencyGraph) : Prop where
  paths_once : graph.paths.Nodup
  ends_once : (graph.dependencies.map Dependency.ends).Nodup
  target_known : ∀ d ∈ graph.dependencies, d.target ∈ graph.paths
  target_other : ∀ d ∈ graph.dependencies, d.target ≠ d.source

section Units

theorem any_path_iff (units : List BuildUnit) (path : Path) :
    (units.any fun unit => unit.path == path) = true ↔ ∃ unit ∈ units, unit.path = path := by
  simp

-- The units that are kept are the first of their paths, whatever was known before.
theorem find_addUnits (units known : List BuildUnit) (path : Path) :
    (units.foldl addUnit known).find? (fun unit => unit.path == path) =
      (known ++ units).find? (fun unit => unit.path == path) := by
  induction units generalizing known with
  | nil => simp
  | cons unit rest ih =>
      rw [List.foldl_cons, ih]
      unfold addUnit
      split
      · rename_i present
        obtain ⟨old, member, same⟩ := (any_path_iff known unit.path).mp present
        by_cases wanted : unit.path = path
        -- a unit of that path is known already, so the one that is left out would not be found
        · have found : (known.find? fun unit => unit.path == path).isSome = true := by
            simp only [List.find?_isSome, beq_iff_eq]
            exact ⟨old, member, same.trans wanted⟩
          obtain ⟨first, isFirst⟩ := Option.isSome_iff_exists.mp found
          simp [List.find?_append, isFirst]
        · simp [List.find?_append, wanted]
      · simp

theorem addUnits_once (units known : List BuildUnit) (once : (known.map BuildUnit.path).Nodup) :
    ((units.foldl addUnit known).map BuildUnit.path).Nodup := by
  induction units generalizing known with
  | nil => exact once
  | cons unit rest ih =>
      refine ih (addUnit known unit) ?_
      unfold addUnit
      split
      · exact once
      · rename_i absent
        have fresh : ∀ old ∈ known, old.path ≠ unit.path := by simpa using absent
        simpa [List.nodup_append] using ⟨once, fresh⟩

theorem ofUnits_unit (units : List BuildUnit) (path : Path) :
    (ofUnits units).unit? path = units.find? (fun unit => unit.path == path) := by
  simpa [ofUnits, unit?] using find_addUnits units [] path

theorem mem_paths_iff_unit (graph : DependencyGraph) (path : Path) :
    path ∈ graph.paths ↔ (graph.unit? path).isSome = true := by
  simp [paths, unit?]

theorem mem_ofUnits_paths (units : List BuildUnit) (path : Path) :
    path ∈ (ofUnits units).paths ↔ ∃ unit ∈ units, unit.path = path := by
  rw [mem_paths_iff_unit, ofUnits_unit]
  simp

end Units

section Dependencies
variable (units : List BuildUnit) (source : Path)

/-- A reference that becomes an edge from `source`, unless the pair is known. -/
def Joins (target : Path) : Prop := (∃ unit ∈ units, unit.path = target) ∧ target ≠ source

theorem mem_addDependency (known : List Dependency) (reference : Path × Nat) (pair : Path × Path) :
    pair ∈ (addDependency units source known reference).map Dependency.ends ↔
      pair ∈ known.map Dependency.ends ∨
        pair = (source, reference.1) ∧ Joins units source reference.1 := by
  obtain ⟨target, position⟩ := reference
  unfold addDependency
  split
  · rename_i left
    constructor
    · exact Or.inl
    · rintro (old | ⟨rfl, present, other⟩)
      · exact old
      · simp only [Bool.or_eq_true, Bool.not_eq_true', beq_iff_eq] at left
        rcases left with (absent | self) | twice
        · rw [(any_path_iff units target).mpr present] at absent
          exact Bool.noConfusion absent
        · exact absurd self other
        · simpa [Dependency.ends] using twice
  · rename_i joins
    have joined : Joins units source target := by
      simp only [Bool.or_eq_true, Bool.not_eq_true', beq_iff_eq, not_or] at joins
      exact ⟨(any_path_iff units target).mp (by simpa using joins.1.1), joins.1.2⟩
    simp [Dependency.ends, joined]

theorem addDependency_once (known : List Dependency) (reference : Path × Nat)
    (once : (known.map Dependency.ends).Nodup) :
    ((addDependency units source known reference).map Dependency.ends).Nodup := by
  obtain ⟨target, position⟩ := reference
  unfold addDependency
  split
  · exact once
  · rename_i joins
    have fresh : (source, target) ∉ known.map Dependency.ends := by
      intro member
      apply joins
      simp only [Bool.or_eq_true]
      exact Or.inr (by simpa [Dependency.ends] using member)
    rw [List.map_append, List.map_singleton]
    exact once.append (List.nodup_singleton _) (by simpa [Dependency.ends] using fresh)

theorem mem_addDependencies (references : List (Path × Nat)) (known : List Dependency)
    (pair : Path × Path) :
    pair ∈ (references.foldl (addDependency units source) known).map Dependency.ends ↔
      pair ∈ known.map Dependency.ends ∨
        ∃ reference ∈ references, pair = (source, reference.1) ∧
          Joins units source reference.1 := by
  induction references generalizing known with
  | nil => simp
  | cons reference rest ih =>
      rw [List.foldl_cons, ih, mem_addDependency]
      simp only [List.mem_cons, exists_eq_or_imp, or_assoc]

theorem addDependencies_once (references : List (Path × Nat)) (known : List Dependency)
    (once : (known.map Dependency.ends).Nodup) :
    ((references.foldl (addDependency units source) known).map Dependency.ends).Nodup := by
  induction references generalizing known with
  | nil => exact once
  | cons reference rest ih => exact ih _ (addDependency_once units source known reference once)

end Dependencies

/-- The references of further units, added to the dependencies that are known. -/
def addReferences (distinct : List BuildUnit) (known : List Dependency) (units : List BuildUnit) :
    List Dependency :=
  units.foldl
    (fun known unit => unit.references.zipIdx.foldl (addDependency distinct unit.path) known) known

theorem mem_addReferences (distinct : List BuildUnit) (units : List BuildUnit)
    (known : List Dependency) (source target : Path) :
    (source, target) ∈ (addReferences distinct known units).map Dependency.ends ↔
      (source, target) ∈ known.map Dependency.ends ∨
        (∃ unit ∈ units, unit.path = source ∧ target ∈ unit.references) ∧
          Joins distinct source target := by
  induction units generalizing known with
  | nil => simp [addReferences]
  | cons unit rest ih =>
      -- the edges of the first unit are known when those of the others are added
      have step := ih (unit.references.zipIdx.foldl (addDependency distinct unit.path) known)
      rw [mem_addDependencies] at step
      unfold addReferences at step ⊢
      rw [List.foldl_cons, step]
      constructor
      · rintro ((old | ⟨reference, member, same, joins⟩) | ⟨⟨other, member, at_, refers⟩, joins⟩)
        · exact Or.inl old
        · obtain ⟨rfl, rfl⟩ := Prod.mk.injEq .. ▸ same
          exact Or.inr ⟨⟨unit, List.mem_cons_self, rfl, List.fst_mem_of_mem_zipIdx member⟩, joins⟩
        · exact Or.inr ⟨⟨other, List.mem_cons_of_mem _ member, at_, refers⟩, joins⟩
      · rintro (old | ⟨⟨other, member, rfl, refers⟩, joins⟩)
        · exact Or.inl (Or.inl old)
        · rcases List.mem_cons.mp member with rfl | later
          · obtain ⟨place, bound, rfl⟩ := List.getElem_of_mem refers
            refine Or.inl (Or.inr ⟨(other.references[place], place), ?_, rfl, joins⟩)
            exact List.mk_mem_zipIdx_iff_getElem?.mpr (List.getElem?_eq_getElem bound)
          · exact Or.inr ⟨⟨other, later, rfl, refers⟩, joins⟩

theorem addReferences_once (distinct : List BuildUnit) (units : List BuildUnit)
    (known : List Dependency) (once : (known.map Dependency.ends).Nodup) :
    ((addReferences distinct known units).map Dependency.ends).Nodup := by
  induction units generalizing known with
  | nil => exact once
  | cons unit rest ih =>
      exact ih _ (addDependencies_once distinct unit.path unit.references.zipIdx known once)

/-- The edges of the graph are the references that join two units of the list. -/
theorem mem_dependencies_iff (units : List BuildUnit) (source target : Path) :
    (source, target) ∈ (ofUnits units).dependencies.map Dependency.ends ↔
      Refers units source target := by
  have distinctPaths (path : Path) :
      (∃ unit ∈ units.foldl addUnit [], unit.path = path) ↔ ∃ unit ∈ units, unit.path = path := by
    simpa [paths, ofUnits] using mem_ofUnits_paths units path
  have edges := mem_addReferences (units.foldl addUnit []) units [] source target
  simp only [Joins, distinctPaths] at edges
  simpa [Refers, ofUnits, addReferences] using edges

theorem ofUnits_wellFormed (units : List BuildUnit) : (ofUnits units).WellFormed := by
  have joined (d : Dependency) (member : d ∈ (ofUnits units).dependencies) :
      Refers units d.source d.target :=
    (mem_dependencies_iff units d.source d.target).mp (List.mem_map.mpr ⟨d, member, rfl⟩)
  constructor
  case paths_once => exact addUnits_once units [] List.nodup_nil
  case ends_once => exact addReferences_once _ units [] List.nodup_nil
  case target_known =>
    intro d member
    exact (mem_ofUnits_paths units d.target).mpr (joined d member).2.1
  case target_other =>
    intro d member
    exact (joined d member).2.2

/-- The targets of a path are the far ends of its edges. -/
theorem mem_targets_iff (graph : DependencyGraph) (source target : Path) :
    target ∈ graph.targets source ↔
      (source, target) ∈ graph.dependencies.map Dependency.ends := by
  simp only [targets, List.mem_map, List.mem_mergeSort, List.mem_reverse, List.mem_filter,
    beq_iff_eq, Dependency.ends, Prod.mk.injEq]
  constructor
  · rintro ⟨d, ⟨member, atSource⟩, atTarget⟩
    exact ⟨d, member, atSource, atTarget⟩
  · rintro ⟨d, member, atSource, atTarget⟩
    exact ⟨d, ⟨member, atSource⟩, atTarget⟩

theorem targets_once (graph : DependencyGraph) (valid : graph.WellFormed) (source : Path) :
    (graph.targets source).Nodup := by
  let own := graph.dependencies.filter fun d => d.source == source
  have sorted : (graph.targets source).Perm (own.map Dependency.target) :=
    ((List.mergeSort_perm _ _).trans own.reverse_perm).map _
  have ownEnds : (own.map Dependency.ends).Nodup :=
    (List.filter_sublist.map Dependency.ends).nodup valid.ends_once
  -- all edges of a source begin there, so their ends differ only in their targets
  have sameEnds : own.map Dependency.ends =
      (own.map Dependency.target).map fun target => (source, target) := by
    rw [List.map_map]
    apply List.map_congr_left
    intro d member
    have atSource : d.source = source := by simpa using (List.mem_filter.mp member).2
    simp [Dependency.ends, atSource]
  rw [sameEnds] at ownEnds
  exact sorted.nodup_iff.mpr (List.Nodup.of_map _ ownEnds)

theorem target_mem_paths (graph : DependencyGraph) (valid : graph.WellFormed)
    {source target : Path} (edge : target ∈ graph.targets source) : target ∈ graph.paths := by
  obtain ⟨d, member, same⟩ := List.mem_map.mp ((mem_targets_iff graph source target).mp edge)
  cases same
  exact valid.target_known d member

theorem target_ne_source (graph : DependencyGraph) (valid : graph.WellFormed)
    {source target : Path} (edge : target ∈ graph.targets source) : target ≠ source := by
  obtain ⟨d, member, same⟩ := List.mem_map.mp ((mem_targets_iff graph source target).mp edge)
  cases same
  exact valid.target_other d member

end DependencyGraph
end MonorepoCheck
