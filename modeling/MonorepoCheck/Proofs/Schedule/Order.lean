import MonorepoCheck.Proofs.Schedule.Walk

/-!
What the order of a schedule promises: every unit once, every unit after those it refers to, and
only such references skipped as close a cycle of references that are not.
-/
namespace MonorepoCheck.DependencyGraph

open Relation

/-- A reference between two units of the list that is not skipped. -/
def Followed (units : List BuildUnit) (skipped : List (Path × Path)) (source target : Path) : Prop :=
  Refers units source target ∧ (source, target) ∉ skipped

/-- An order of the units of a list, in which some references are skipped. -/
structure Orders (units : List BuildUnit) (order : List Path) (skipped : List (Path × Path)) :
    Prop where
  once : order.Nodup
  complete : ∀ path, path ∈ order ↔ ∃ unit ∈ units, unit.path = path
  target_first : ∀ source target, Followed units skipped source target →
    Before target source order
  skipped_once : skipped.Nodup
  skipped_iff : ∀ source target, (source, target) ∈ skipped ↔
    Refers units source target ∧ Before source target order
  skipped_closes : ∀ source target, (source, target) ∈ skipped →
    TransGen (Followed units skipped) target source
  followed_acyclic : ∀ path, ¬ TransGen (Followed units skipped) path path
  acyclic_skips_none : (∀ path, ¬ TransGen (Refers units) path path) → skipped = []

section Walked
variable (units : List BuildUnit)

theorem mem_targets_ofUnits (source target : Path) :
    target ∈ (ofUnits units).targets source ↔ Refers units source target :=
  (mem_targets_iff _ source target).trans (mem_dependencies_iff units source target)

theorem walk_sound : Sound (ofUnits units) [] (ofUnits units).walk :=
  (tours_sound (ofUnits_wellFormed units) (walk_tours _ (ofUnits_wellFormed units))
    (sound_start _) (fun _ member => member)).1

theorem walk_complete (path : Path) :
    path ∈ (ofUnits units).walk.order ↔ ∃ unit ∈ units, unit.path = path := by
  have covered := tours_sound (ofUnits_wellFormed units)
    (walk_tours _ (ofUnits_wellFormed units)) (sound_start _) (fun _ member => member)
  rw [← mem_ofUnits_paths]
  constructor
  · intro member
    exact (walk_sound units).known path (by simpa using member)
  · exact covered.2.2 path

theorem walk_once : (ofUnits units).walk.order.Nodup := by
  simpa using (walk_sound units).once

theorem walk_skipped_iff (source target : Path) :
    (source, target) ∈ (ofUnits units).walk.skipped ↔
      Refers units source target ∧ Before source target (ofUnits units).walk.order := by
  constructor
  · intro skipped
    obtain ⟨edge, late⟩ := (walk_sound units).late source target skipped
    exact ⟨(mem_targets_ofUnits units source target).mp edge, by simpa using late⟩
  · rintro ⟨refers, late⟩
    have edge := (mem_targets_ofUnits units source target).mpr refers
    rcases (walk_sound units).settled source late.left_mem target edge with early | skipped
    · exact absurd late (early.asymm (walk_once units))
    · exact skipped

theorem walk_target_first {source target : Path}
    (followed : Followed units (ofUnits units).walk.skipped source target) :
    Before target source (ofUnits units).walk.order := by
  obtain ⟨refers, notSkipped⟩ := followed
  have edge := (mem_targets_ofUnits units source target).mpr refers
  have finished := (walk_complete units source).mpr
    (let ⟨unit, member, same, _⟩ := refers.1; ⟨unit, member, same⟩)
  exact ((walk_sound units).settled source finished target edge).resolve_right notSkipped

theorem kept_followed {source target : Path}
    (kept : Kept (ofUnits units) (ofUnits units).walk.order source target) :
    Followed units (ofUnits units).walk.skipped source target := by
  refine ⟨(mem_targets_ofUnits units source target).mp kept.1, ?_⟩
  intro skipped
  exact kept.2.asymm (walk_once units) ((walk_skipped_iff units source target).mp skipped).2

theorem walk_skipped_closes {source target : Path}
    (skipped : (source, target) ∈ (ofUnits units).walk.skipped) :
    TransGen (Followed units (ofUnits units).walk.skipped) target source := by
  have closed := (walk_sound units).closed source target skipped
  rw [List.append_nil] at closed
  have other : target ≠ source := ((walk_skipped_iff units source target).mp skipped).1.2.2
  rcases reflTransGen_iff_eq_or_transGen.mp closed with same | path
  · exact absurd same.symm other
  · exact TransGen.mono (fun _ _ kept => kept_followed units kept) _ _ path

theorem walk_followed_acyclic (path : Path) :
    ¬ TransGen (Followed units (ofUnits units).walk.skipped) path path := by
  have descends {first last : Path}
      (steps : TransGen (Followed units (ofUnits units).walk.skipped) first last) :
      Before last first (ofUnits units).walk.order := by
    induction steps with
    | single step => exact walk_target_first units step
    | tail _ step ih => exact (walk_target_first units step).trans (walk_once units) ih
  intro cycle
  exact (descends cycle).asymm (walk_once units) (descends cycle)

theorem walk_acyclic_skips_none (acyclic : ∀ path, ¬ TransGen (Refers units) path path) :
    (ofUnits units).walk.skipped = [] := by
  apply List.eq_nil_iff_forall_not_mem.mpr
  rintro ⟨source, target⟩ skipped
  have refers := ((walk_skipped_iff units source target).mp skipped).1
  have back : TransGen (Refers units) target source :=
    TransGen.mono (fun _ _ followed => followed.1) _ _ (walk_skipped_closes units skipped)
  exact acyclic source (TransGen.head refers back)

/-- Paths of the list are told apart by their units. -/
theorem filterMap_unit_paths {paths : List Path}
    (present : ∀ path ∈ paths, ∃ unit ∈ units, unit.path = path) :
    (paths.filterMap (ofUnits units).unit?).map BuildUnit.path = paths := by
  induction paths with
  | nil => rfl
  | cons path rest ih =>
      have known := (mem_ofUnits_paths units path).mpr (present path List.mem_cons_self)
      obtain ⟨unit, found⟩ := Option.isSome_iff_exists.mp ((mem_paths_iff_unit _ path).mp known)
      have atPath : unit.path = path := by simpa using List.find?_some found
      rw [List.filterMap_cons_some found, List.map_cons, atPath,
        ih (fun p member => present p (List.mem_cons_of_mem _ member))]

theorem schedule_order_paths :
    (ofUnits units).schedule.order.map BuildUnit.path = (ofUnits units).walk.order :=
  filterMap_unit_paths units fun path member => (walk_complete units path).mp member

theorem schedule_order_first (unit : BuildUnit)
    (scheduled : unit ∈ (ofUnits units).schedule.order) :
    units.find? (fun other => other.path == unit.path) = some unit := by
  obtain ⟨path, _, found⟩ := List.mem_filterMap.mp scheduled
  have atPath : unit.path = path := by simpa using List.find?_some found
  rw [← ofUnits_unit, atPath]
  exact found

end Walked

/-- The schedule of any list of units ends the unbounded walk and holds each unit once, the first of
its path, after the units it refers to. A reference is skipped exactly if it leads to a later unit,
and then it closes a cycle of references that are followed. -/
theorem schedule_breaks_cycles (units : List BuildUnit) :
    Tours (ofUnits units) (ofUnits units).paths ⟨[], []⟩ (ofUnits units).walk ∧
      Orders units ((ofUnits units).schedule.order.map BuildUnit.path) (ofUnits units).walk.skipped ∧
      (∀ unit ∈ (ofUnits units).schedule.order,
        units.find? (fun other => other.path == unit.path) = some unit) ∧
      (ofUnits units).schedule.skipped = (ofUnits units).walk.skipped.map fun pair =>
        ⟨(ofUnits units).nameOf pair.1, (ofUnits units).nameOf pair.2⟩ := by
  refine ⟨walk_tours _ (ofUnits_wellFormed units), ?_, schedule_order_first units, rfl⟩
  rw [schedule_order_paths]
  constructor
  case once => exact walk_once units
  case complete => exact walk_complete units
  case target_first => exact fun _ _ followed => walk_target_first units followed
  case skipped_once => exact (walk_sound units).skipped_once
  case skipped_iff => exact walk_skipped_iff units
  case skipped_closes => exact fun _ _ skipped => walk_skipped_closes units skipped
  case followed_acyclic => exact walk_followed_acyclic units
  case acyclic_skips_none => exact walk_acyclic_skips_none units

end MonorepoCheck.DependencyGraph
