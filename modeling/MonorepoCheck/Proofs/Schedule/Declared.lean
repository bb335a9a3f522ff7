import MonorepoCheck.Proofs.Schedule.Discovery

/-!
What a unit refers to, in the order of its build configuration. Each edge keeps the place of the first
reference that it stands for, and no two edges of a unit have one place, so that sorting by place gives
the references back however the edges are stored and gone through.
-/
namespace MonorepoCheck.DependencyGraph

/-- Whether a reference of the unit at `source` leads to another unit of the list. -/
def leadsAway (units : List BuildUnit) (source target : Path) : Bool :=
  (units.any fun unit => unit.path == target) && target != source

/-- The references of a unit that lead to other units of the list, each where it stands first. -/
def declaredTargets (units : List BuildUnit) (unit : BuildUnit) : List Path :=
  (unit.references.filter (leadsAway units unit.path)).eraseDups

/-- The edges that begin at a path. -/
def edgesFrom (source : Path) (edges : List Dependency) : List Dependency :=
  edges.filter fun d => d.source == source

/-- The targets of edges by the places of their references. -/
def targetsByPlace (edges : List Dependency) : List Path :=
  (edges.mergeSort fun a b => a.position ≤ b.position).map Dependency.target

theorem targets_eq (graph : DependencyGraph) (source : Path) :
    graph.targets source = targetsByPlace (edgesFrom source graph.dependencies).reverse := rfl

section Places
variable {edges others : List Dependency}

/-- Where places rise, each edge is told by its place. -/
theorem eq_of_place (rising : edges.Pairwise fun a b => a.position < b.position)
    {a b : Dependency} (member : a ∈ edges) (memberOther : b ∈ edges)
    (same : a.position = b.position) : a = b := by
  have once : (edges.map Dependency.position).Nodup :=
    List.pairwise_map.mpr (rising.imp Nat.ne_of_lt)
  exact List.inj_on_of_nodup_map once member memberOther same

theorem mergeSort_places (edges : List Dependency) :
    (edges.mergeSort fun a b => a.position ≤ b.position).Pairwise
      fun a b => a.position ≤ b.position := by
  refine (List.pairwise_mergeSort ?_ ?_ edges).imp of_decide_eq_true
  · intro a b c first second
    exact decide_eq_true ((of_decide_eq_true first).trans (of_decide_eq_true second))
  · intro a b
    rw [Bool.or_eq_true, decide_eq_true_iff, decide_eq_true_iff]
    exact Nat.le_total _ _

/-- Edges whose places rise are found back from any order of them. -/
theorem targetsByPlace_of_perm (rising : edges.Pairwise fun a b => a.position < b.position)
    (order : others.Perm edges) : targetsByPlace others = edges.map Dependency.target := by
  have sorted := (List.mergeSort_perm others fun a b => a.position ≤ b.position).trans order
  refine congrArg (List.map Dependency.target) (sorted.eq_of_pairwise ?_ (mergeSort_places others)
    (rising.imp Nat.le_of_lt))
  intro a b member memberOther before after
  exact eq_of_place rising (sorted.mem_iff.mp member) memberOther (Nat.le_antisymm before after)

end Places

section Stored
variable {units : List BuildUnit} {source other : Path} {known : List Dependency}

theorem edgesFrom_other (different : other ≠ source) (reference : Path × Nat) :
    edgesFrom source (addDependency units other known reference) = edgesFrom source known := by
  unfold addDependency
  split
  · rfl
  · simp [edgesFrom, different]

theorem edgesFrom_references_other (different : other ≠ source) (references : List (Path × Nat))
    (known : List Dependency) :
    edgesFrom source (references.foldl (addDependency units other) known) = edgesFrom source known := by
  induction references generalizing known with
  | nil => rfl
  | cons reference rest ih => exact (ih _).trans (edgesFrom_other different reference)

theorem edgesFrom_units_other {further : List BuildUnit}
    (different : ∀ unit ∈ further, unit.path ≠ source) (known : List Dependency) :
    edgesFrom source (addReferences units known further) = edgesFrom source known := by
  induction further generalizing known with
  | nil => rfl
  | cons unit rest ih =>
      obtain ⟨here, later⟩ := List.forall_mem_cons.mp different
      exact (ih later _).trans (edgesFrom_references_other here _ known)

/-- A reference becomes an edge if it leads to another unit and no edge of its source has its target. -/
theorem edgesFrom_addDependency (target : Path) (position : Nat) :
    edgesFrom source (addDependency units source known (target, position))
      = edgesFrom source known ++
        if leadsAway units source target
            && !((edgesFrom source known).map Dependency.target).contains target
        then [⟨source, target, position⟩] else [] := by
  have twice : (known.any fun d => d.source == source && d.target == target)
      = ((edgesFrom source known).map Dependency.target).contains target := by
    rw [Bool.eq_iff_iff]
    simp [edgesFrom, and_assoc]
  rw [addDependency, twice]
  cases present : units.any fun unit => unit.path == target <;>
    cases self : target == source <;>
    cases ((edgesFrom source known).map Dependency.target).contains target <;>
    simp [leadsAway, present, self, bne, edgesFrom]

/-- Edges of one source that stand for references of it: for those that lead to another unit, each
where it stands first. -/
structure StandFor (units : List BuildUnit) (source : Path) (references : List Path)
    (edges : List Dependency) : Prop where
  targets : edges.map Dependency.target = (references.filter (leadsAway units source)).eraseDups
  rising : edges.Pairwise fun a b => a.position < b.position
  placed : ∀ d ∈ edges, d.position < references.length

/-- What a further reference adds to those that are kept, each where it stands first. -/
theorem eraseDups_filter_snoc (accept : Path → Bool) (references : List Path) (target : Path) :
    ((references ++ [target]).filter accept).eraseDups
      = (references.filter accept).eraseDups ++
        if accept target && !(references.filter accept).eraseDups.contains target
        then [target] else [] := by
  have known : (references.filter accept).eraseDups.contains target
      = (references.filter accept).contains target := by
    rw [Bool.eq_iff_iff, List.contains_iff_mem, List.contains_iff_mem, List.mem_eraseDups]
  rw [List.filter_append, List.eraseDups_append, known]
  congr 1
  cases leads : accept target
  · simp [leads, List.removeAll]
  · by_cases stands : target ∈ references <;>
      simp [leads, stands, List.removeAll, List.eraseDups_cons]

/-- One more reference has an edge of its own, or one that stands for an earlier one, or none. -/
theorem StandFor.addDependency {references : List Path}
    (standFor : StandFor units source references (edgesFrom source known)) (target : Path) :
    StandFor units source (references ++ [target])
      (edgesFrom source (addDependency units source known (target, references.length))) := by
  obtain ⟨targets, rising, placed⟩ := standFor
  rw [edgesFrom_addDependency, targets]
  constructor
  case targets =>
      rw [List.map_append, targets, eraseDups_filter_snoc]
      split <;> rfl
  case rising =>
      refine List.pairwise_append.mpr ⟨rising, ?_, ?_⟩
      · split
        · exact List.pairwise_singleton _ _
        · exact .nil
      · intro d member new added
        obtain ⟨-, isNew⟩ := List.mem_ite_nil_right.mp added
        rw [List.mem_singleton.mp isNew]
        exact placed d member
  case placed =>
      intro d member
      rw [List.length_append, List.length_singleton]
      rcases List.mem_append.mp member with old | added
      · exact Nat.lt_succ_of_lt (placed d old)
      · obtain ⟨-, isNew⟩ := List.mem_ite_nil_right.mp added
        rw [List.mem_singleton.mp isNew]
        exact Nat.lt_succ_self _

theorem standFor_references (none' : edgesFrom source known = []) (references : List Path) :
    StandFor units source references
      (edgesFrom source (references.zipIdx.foldl (addDependency units source) known)) := by
  induction references using List.reverseRecOn with
  | nil =>
      rw [List.zipIdx_nil, List.foldl_nil, none']
      exact ⟨rfl, .nil, fun _ member => nomatch member⟩
  | append_singleton before target ih =>
      have last : (before ++ [target]).zipIdx = before.zipIdx ++ [(target, before.length)] := by
        simp [List.zipIdx_append]
      rw [last, List.foldl_append, List.foldl_cons, List.foldl_nil]
      exact ih.addDependency target

/-- The edges of a unit stand for its own references, where no other unit has its path. -/
theorem standFor_addReferences {unit : BuildUnit} {before after : List BuildUnit}
    (notBefore : ∀ other ∈ before, other.path ≠ unit.path)
    (notAfter : ∀ other ∈ after, other.path ≠ unit.path) :
    StandFor units unit.path unit.references
      (edgesFrom unit.path (addReferences units [] (before ++ unit :: after))) := by
  have steps : addReferences units [] (before ++ unit :: after)
      = addReferences units (unit.references.zipIdx.foldl (addDependency units unit.path)
          (addReferences units [] before)) after := List.foldl_append
  rw [steps, edgesFrom_units_other notAfter]
  apply standFor_references
  rw [edgesFrom_units_other notBefore]
  rfl

end Stored

section Declared
variable {units : List BuildUnit} {unit : BuildUnit}

theorem ofUnits_distinct (distinct : (units.map BuildUnit.path).Nodup) :
    ofUnits units = ⟨units, addReferences units [] units⟩ := by
  have kept := addUnits_distinct [] (by simpa using distinct)
  rw [List.nil_append] at kept
  rw [ofUnits, kept]
  rfl

/-- Of a list of different paths, the unit itself is the only one with its path. -/
theorem standFor_unit (distinct : (units.map BuildUnit.path).Nodup) (member : unit ∈ units) :
    StandFor units unit.path unit.references
      (edgesFrom unit.path (ofUnits units).dependencies) := by
  rw [ofUnits_distinct distinct]
  obtain ⟨before, after, parts⟩ := List.append_of_mem member
  rw [parts, List.map_append, List.map_cons, List.nodup_append, List.nodup_cons] at distinct
  obtain ⟨-, ⟨notAfter, -⟩, notBefore⟩ := distinct
  have stands : StandFor units unit.path unit.references
      (edgesFrom unit.path (addReferences units [] (before ++ unit :: after))) := by
    apply standFor_addReferences
    · intro other earlier
      exact notBefore _ (List.mem_map_of_mem earlier) _ List.mem_cons_self
    · intro other later same
      exact notAfter (same ▸ List.mem_map_of_mem later)
  rwa [← parts] at stands

theorem mem_declaredTargets {target : Path} :
    target ∈ declaredTargets units unit ↔
      target ∈ unit.references ∧ (∃ other ∈ units, other.path = target) ∧ target ≠ unit.path := by
  simp [declaredTargets, leadsAway]

end Declared

/-- The units that a unit of a list of different paths refers to are the other units of the list that
its references mean, each where it stands first, in the order of its build configuration. It does not
matter in which order its edges are gone through or those of the graph are stored. -/
theorem dependencies_as_declared (units : List BuildUnit)
    (distinct : (units.map BuildUnit.path).Nodup) (unit : BuildUnit) (member : unit ∈ units) :
    ((ofUnits units).dependenciesOf unit).map BuildUnit.path = declaredTargets units unit
      ∧ (ofUnits units).dependenciesOf unit ⊆ units
      ∧ (∀ edges : List Dependency,
          edges.Perm (edgesFrom unit.path (ofUnits units).dependencies) →
            (targetsByPlace edges).filterMap (ofUnits units).unit?
              = (ofUnits units).dependenciesOf unit)
      ∧ ∀ stored : List Dependency, stored.Perm (ofUnits units).dependencies →
          (DependencyGraph.mk (ofUnits units).units stored).dependenciesOf unit
            = (ofUnits units).dependenciesOf unit := by
  obtain ⟨targets, rising, -⟩ := standFor_unit distinct member
  have placed (edges : List Dependency)
      (order : edges.Perm (edgesFrom unit.path (ofUnits units).dependencies)) :
      targetsByPlace edges = declaredTargets units unit :=
    (targetsByPlace_of_perm rising order).trans targets
  have own : (ofUnits units).targets unit.path = declaredTargets units unit := by
    rw [targets_eq]
    exact placed _ (List.reverse_perm _)
  refine ⟨?_, ?_, ?_, ?_⟩
  · rw [dependenciesOf, own]
    exact filterMap_unit_paths units fun path declared => (mem_declaredTargets.mp declared).2.1
  · intro other found
    obtain ⟨path, -, first⟩ := List.mem_filterMap.mp found
    rw [ofUnits_unit] at first
    exact List.mem_of_find?_eq_some first
  · intro edges order
    rw [dependenciesOf, own, placed edges order]
  · intro stored order
    have same : (DependencyGraph.mk (ofUnits units).units stored).targets unit.path
        = declaredTargets units unit := by
      rw [targets_eq]
      exact placed _ ((List.reverse_perm _).trans (order.filter _))
    rw [dependenciesOf, dependenciesOf, own, same]
    rfl

namespace Sample

/-- A unit that refers to two others in turn, to itself, and to a directory that is no unit. -/
def web : BuildUnit := unitAt "web" ["tool", "web", "core", "gone", "tool", "core"]

def webUnits : List BuildUnit := [unitAt "core" ["tool"], web, unitAt "tool" []]

/-- Two of the six references of the unit are left, also where its edges are stored backwards. -/
theorem web_refers_in_turn :
    (webUnits.map BuildUnit.path).Nodup ∧ web ∈ webUnits
      ∧ ((ofUnits webUnits).dependenciesOf web).map BuildUnit.path
        = [⟨"/work/tool"⟩, ⟨"/work/core"⟩]
      ∧ (DependencyGraph.mk (ofUnits webUnits).units
          (ofUnits webUnits).dependencies.reverse).dependenciesOf web
        = (ofUnits webUnits).dependenciesOf web := by
  have distinct : (webUnits.map BuildUnit.path).Nodup := by decide
  have member : web ∈ webUnits := by decide
  obtain ⟨declared, -, -, stored⟩ := dependencies_as_declared webUnits distinct web member
  exact ⟨distinct, member, declared.trans (by decide), stored _ (List.reverse_perm _)⟩

end Sample

end MonorepoCheck.DependencyGraph
