import Mathlib.Data.Set.Card
import MonorepoCheck.Proofs.Schedule.Order

/-!
What a schedule keeps of the order in which its units were found. The units that the first ones of
the list lead to fill the front of the schedule, however their references are skipped, and a unit
that none before it leads to is the last of its front.
-/
namespace MonorepoCheck.DependencyGraph

open Relation

section Fronts

variable {graph : DependencyGraph} {walking pending : List Path} {source path : Path}
  {before after : Progress}

/-- One path refers to another, whether the reference is skipped or not. -/
def LeadsTo (graph : DependencyGraph) (source target : Path) : Prop := target ∈ graph.targets source

theorem follows_extends (follows : Follows graph walking source pending before after) :
    before.order <+: after.order := by
  induction follows with
  | done => exact List.prefix_refl _
  | skip _ _ ih => exact ih
  | known _ _ _ ih => exact ih
  | visit _ _ _ _ inner rest => exact inner.trans ((List.prefix_append _ _).trans rest)

/-- What is finished while the targets of a path are gone through is reached from one of them. -/
theorem follows_reached (follows : Follows graph walking source pending before after)
    (finished : path ∈ after.order) :
    path ∈ before.order ∨ ∃ target ∈ pending, ReflTransGen (LeadsTo graph) target path := by
  induction follows with
  | done => exact .inl finished
  | skip _ _ ih => exact (ih finished).imp_right fun ⟨t, member, reach⟩ =>
      ⟨t, List.mem_cons_of_mem _ member, reach⟩
  | known _ _ _ ih => exact (ih finished).imp_right fun ⟨t, member, reach⟩ =>
      ⟨t, List.mem_cons_of_mem _ member, reach⟩
  | @visit _ _ target _ _ _ _ _ _ _ _ inner rest =>
      rcases rest finished with early | ⟨t, member, reach⟩
      · rcases List.mem_append.mp early with inside | own
        · rcases inner inside with old | ⟨t, edge, reach⟩
          · exact .inl old
          · exact .inr ⟨target, List.mem_cons_self, .head edge reach⟩
        · obtain rfl := List.mem_singleton.mp own
          exact .inr ⟨path, List.mem_cons_self, .refl⟩
      · exact .inr ⟨t, List.mem_cons_of_mem _ member, reach⟩

theorem tours_extends (tours : Tours graph pending before after) : before.order <+: after.order := by
  induction tours with
  | done => exact List.prefix_refl _
  | known _ _ ih => exact ih
  | visit _ follows _ ih =>
      exact (follows_extends follows).trans ((List.prefix_append _ _).trans ih)

theorem tours_reached (tours : Tours graph pending before after) (finished : path ∈ after.order) :
    path ∈ before.order ∨ ∃ start ∈ pending, ReflTransGen (LeadsTo graph) start path := by
  induction tours with
  | done => exact .inl finished
  | known _ _ ih => exact (ih finished).imp_right fun ⟨start, member, reach⟩ =>
      ⟨start, List.mem_cons_of_mem _ member, reach⟩
  | @visit start _ _ _ _ _ follows _ ih =>
      rcases ih finished with early | ⟨other, member, reach⟩
      · rcases List.mem_append.mp early with inside | own
        · rcases follows_reached follows inside with old | ⟨t, edge, reach⟩
          · exact .inl old
          · exact .inr ⟨start, List.mem_cons_self, .head edge reach⟩
        · obtain rfl := List.mem_singleton.mp own
          exact .inr ⟨path, List.mem_cons_self, .refl⟩
      · exact .inr ⟨other, List.mem_cons_of_mem _ member, reach⟩

theorem tours_split {front rest : List Path} (tours : Tours graph (front ++ rest) before after) :
    ∃ middle, Tours graph front before middle ∧ Tours graph rest middle after := by
  induction front generalizing before with
  | nil => exact ⟨before, .done, tours⟩
  | cons path front ih =>
      cases tours with
      | known finished later =>
          obtain ⟨middle, first, second⟩ := ih later
          exact ⟨middle, .known finished first, second⟩
      | visit notFinished follows later =>
          obtain ⟨middle, first, second⟩ := ih later
          exact ⟨middle, .visit notFinished follows first, second⟩

/-- Between two visits nothing is open, so that a skipped reference, too, leads to a finished path. -/
theorem Sound.reach_finished (sound : Sound graph [] before) (finished : source ∈ before.order)
    (reach : ReflTransGen (LeadsTo graph) source path) : path ∈ before.order := by
  induction reach with
  | refl => exact finished
  | @tail near far _ edge ih =>
      rcases sound.settled near ih far edge with early | skipped
      · exact early.left_mem
      · simpa using (sound.late near far skipped).2.right_mem

/-- After a tour from the start, exactly the paths are finished to which its units lead. -/
theorem tours_finished_iff (valid : graph.WellFormed) (present : pending ⊆ graph.paths)
    (tours : Tours graph pending ⟨[], []⟩ after) :
    path ∈ after.order ↔ ∃ start ∈ pending, ReflTransGen (LeadsTo graph) start path := by
  obtain ⟨sound, -, covered⟩ := tours_sound valid tours (sound_start graph)
    fun _ member => present member
  constructor
  · intro finished
    exact (tours_reached tours finished).resolve_left List.not_mem_nil
  · rintro ⟨start, member, reach⟩
    exact sound.reach_finished (covered start member) reach

end Fronts

section Discovered
variable {units : List BuildUnit}

theorem addUnits_distinct (known : List BuildUnit)
    (distinct : ((known ++ units).map BuildUnit.path).Nodup) :
    units.foldl addUnit known = known ++ units := by
  induction units generalizing known with
  | nil => simp
  | cons unit rest ih =>
      have fresh : ∀ old ∈ known, old.path ≠ unit.path := by
        intro old member same
        rw [List.map_append, List.map_cons] at distinct
        exact (List.nodup_append.mp distinct).2.2 old.path (List.mem_map_of_mem member) unit.path
          List.mem_cons_self same
      have added : addUnit known unit = known ++ [unit] := by
        rw [addUnit, if_neg]
        simpa using fresh
      rw [List.foldl_cons, added, ih _ (by simpa using distinct), List.append_assoc,
        List.singleton_append]

theorem paths_ofUnits (distinct : (units.map BuildUnit.path).Nodup) :
    (ofUnits units).paths = units.map BuildUnit.path := by
  have kept := addUnits_distinct [] (by simpa using distinct)
  rw [paths, ofUnits, kept, List.nil_append]

theorem reach_ofUnits (source path : Path) :
    ReflTransGen (LeadsTo (ofUnits units)) source path ↔
      ReflTransGen (Refers units) source path := by
  have same : LeadsTo (ofUnits units) = Refers units := by
    funext near far
    exact propext (mem_targets_ofUnits units near far)
  rw [same]

/-- The paths to which the first `count` units of a list lead. -/
def LedTo (units : List BuildUnit) (count : Nat) (path : Path) : Prop :=
  ∃ first ∈ units.take count, ReflTransGen (Refers units) first.path path

/-- The units to which the first `count` units of a list lead, themselves among them. -/
def unitsLedTo (units : List BuildUnit) (count : Nat) : Set BuildUnit :=
  {unit | unit ∈ units ∧ LedTo units count unit.path}

/-- The walk of a list is a tour of its first units, and then one of the others. -/
theorem walk_front (distinct : (units.map BuildUnit.path).Nodup) (count : Nat) :
    ∃ middle, Tours (ofUnits units) ((units.take count).map BuildUnit.path) ⟨[], []⟩ middle ∧
      middle.order <+: (ofUnits units).walk.order := by
  have parts : (ofUnits units).paths
      = (units.take count).map BuildUnit.path ++ (units.drop count).map BuildUnit.path := by
    rw [paths_ofUnits distinct, ← List.map_append, List.take_append_drop]
  have whole := walk_tours _ (ofUnits_wellFormed units)
  rw [parts] at whole
  obtain ⟨middle, first, second⟩ := tours_split whole
  exact ⟨middle, first, tours_extends second⟩

theorem front_iff (distinct : (units.map BuildUnit.path).Nodup) {count : Nat} {middle : Progress}
    (tours : Tours (ofUnits units) ((units.take count).map BuildUnit.path) ⟨[], []⟩ middle)
    (path : Path) : path ∈ middle.order ↔ LedTo units count path := by
  have inside : (units.take count).map BuildUnit.path ⊆ (ofUnits units).paths := by
    rw [paths_ofUnits distinct]
    exact List.map_subset _ (List.take_subset count units)
  simp only [tours_finished_iff (ofUnits_wellFormed units) inside tours, reach_ofUnits, LedTo,
    List.mem_map, exists_exists_and_eq_and]

/-- A unit that none before it leads to is finished when all that it leads to is. -/
theorem front_last (distinct : (units.map BuildUnit.path).Nodup) {index : Nat}
    (inside : index < units.length) {middle : Progress}
    (tours : Tours (ofUnits units) ((units.take (index + 1)).map BuildUnit.path) ⟨[], []⟩ middle)
    (apart : ¬ LedTo units index units[index].path) :
    middle.order.getLast? = some units[index].path := by
  rw [← List.take_concat_get' units index inside, List.map_append, List.map_singleton] at tours
  obtain ⟨earlier, first, second⟩ := tours_split tours
  cases second with
  | known finished _ => exact absurd ((front_iff distinct first _).mp finished) apart
  | visit _ _ rest =>
      cases rest
      exact List.getLast?_concat

theorem mem_schedule_order (distinct : (units.map BuildUnit.path).Nodup) (unit : BuildUnit) :
    unit ∈ (ofUnits units).schedule.order ↔ unit ∈ units := by
  constructor
  · intro scheduled
    exact List.mem_of_find?_eq_some (schedule_order_first units unit scheduled)
  · intro member
    have finished := (walk_complete units unit.path).mpr ⟨unit, member, rfl⟩
    rw [← schedule_order_paths] at finished
    obtain ⟨twin, scheduled, same⟩ := List.mem_map.mp finished
    have first := List.mem_of_find?_eq_some (schedule_order_first units twin scheduled)
    rwa [← List.inj_on_of_nodup_map distinct first member same]

/-- The units at the front of the schedule are told by their paths. -/
theorem mem_schedule_take (distinct : (units.map BuildUnit.path).Nodup) (count : Nat)
    (unit : BuildUnit) :
    unit ∈ (ofUnits units).schedule.order.take count ↔
      unit ∈ units ∧ unit.path ∈ (ofUnits units).walk.order.take count := by
  rw [← schedule_order_paths, ← List.map_take]
  constructor
  · intro early
    exact ⟨(mem_schedule_order distinct unit).mp (List.mem_of_mem_take early),
      List.mem_map_of_mem early⟩
  · rintro ⟨member, early⟩
    obtain ⟨twin, front, same⟩ := List.mem_map.mp early
    have listed := (mem_schedule_order distinct twin).mp (List.mem_of_mem_take front)
    rwa [← List.inj_on_of_nodup_map distinct listed member same]

theorem front_paths {middle : Progress} (grows : middle.order <+: (ofUnits units).walk.order) :
    ((ofUnits units).schedule.order.take middle.order.length).map BuildUnit.path = middle.order := by
  rw [List.map_take, schedule_order_paths]
  exact (List.prefix_iff_eq_take.mp grows).symm

/-- A front of the walk is the front of the schedule that is as long. -/
theorem schedule_front (distinct : (units.map BuildUnit.path).Nodup) {count : Nat}
    {middle : Progress}
    (tours : Tours (ofUnits units) ((units.take count).map BuildUnit.path) ⟨[], []⟩ middle)
    (grows : middle.order <+: (ofUnits units).walk.order) :
    {unit | unit ∈ (ofUnits units).schedule.order.take middle.order.length}
      = unitsLedTo units count := by
  ext unit
  rw [Set.mem_ofPred_eq, mem_schedule_take distinct, ← List.prefix_iff_eq_take.mp grows,
    front_iff distinct tours]
  rfl

theorem card_front (distinct : (units.map BuildUnit.path).Nodup) {count : Nat} {middle : Progress}
    (tours : Tours (ofUnits units) ((units.take count).map BuildUnit.path) ⟨[], []⟩ middle)
    (grows : middle.order <+: (ofUnits units).walk.order) :
    (unitsLedTo units count).ncard = middle.order.length := by
  have paths := schedule_order_paths units
  have once : (ofUnits units).schedule.order.Nodup := by
    apply List.Nodup.of_map BuildUnit.path
    rw [paths]
    exact walk_once units
  have long : middle.order.length ≤ (ofUnits units).schedule.order.length := by
    rw [← List.length_map BuildUnit.path, paths]
    exact grows.length_le
  rw [← schedule_front distinct tours grows, ← List.coe_toFinset, Set.ncard_coe_finset,
    List.toFinset_card_of_nodup ((List.take_sublist _ _).nodup once), List.length_take]
  exact Nat.min_eq_left long

/-- The units that the first ones of the list lead to fill the front of the schedule. -/
theorem schedule_take_ncard (distinct : (units.map BuildUnit.path).Nodup) (count : Nat) :
    {unit | unit ∈ (ofUnits units).schedule.order.take (unitsLedTo units count).ncard}
      = unitsLedTo units count := by
  obtain ⟨middle, tours, grows⟩ := walk_front distinct count
  rw [card_front distinct tours grows]
  exact schedule_front distinct tours grows

theorem getLast?_schedule_take (distinct : (units.map BuildUnit.path).Nodup) {index : Nat}
    (inside : index < units.length) (apart : units[index] ∉ unitsLedTo units index) :
    ((ofUnits units).schedule.order.take (unitsLedTo units (index + 1)).ncard).getLast?
      = some units[index] := by
  obtain ⟨middle, tours, grows⟩ := walk_front distinct (index + 1)
  have member : units[index] ∈ units := List.getElem_mem inside
  have last := front_last distinct inside tours fun led => apart ⟨member, led⟩
  rw [← front_paths grows, List.getLast?_map] at last
  rw [card_front distinct tours grows]
  obtain ⟨unit, ends, same⟩ := Option.map_eq_some_iff.mp last
  have listed := (mem_schedule_order distinct unit).mp
    (List.mem_of_mem_take (List.mem_of_getLast? ends))
  rw [ends, List.inj_on_of_nodup_map distinct listed member same]

/-- A unit of a front is scheduled before every unit outside it. -/
theorem schedule_sublist (distinct : (units.map BuildUnit.path).Nodup) {count : Nat}
    {unit other : BuildUnit} (led : unit ∈ unitsLedTo units count) (member : other ∈ units)
    (apart : other ∉ unitsLedTo units count) :
    [unit, other].Sublist (ofUnits units).schedule.order := by
  let size := (unitsLedTo units count).ncard
  have front : unit ∈ (ofUnits units).schedule.order.take size := by
    rwa [← schedule_take_ncard distinct] at led
  have rest : other ∈ (ofUnits units).schedule.order.drop size := by
    have scheduled := (mem_schedule_order distinct other).mpr member
    rw [← List.take_append_drop size (ofUnits units).schedule.order] at scheduled
    refine (List.mem_append.mp scheduled).resolve_left fun early => apart ?_
    rw [← schedule_take_ncard distinct]
    exact early
  rw [← List.take_append_drop size (ofUnits units).schedule.order]
  exact (List.singleton_sublist.mpr front).append (List.singleton_sublist.mpr rest)

end Discovered

/-- In the schedule of units of different paths, the units that the first ones of the list lead to
stand in front of all others, and a unit that none before it leads to is the last of those that the
list leads to up to it. So a unit is scheduled before every later one that the list does not lead to
up to it. -/
theorem schedule_follows_discovery (units : List BuildUnit)
    (distinct : (units.map BuildUnit.path).Nodup) :
    (∀ count, {unit | unit ∈ (ofUnits units).schedule.order.take (unitsLedTo units count).ncard}
      = unitsLedTo units count) ∧
    (∀ index (inside : index < units.length), units[index] ∉ unitsLedTo units index →
      ((ofUnits units).schedule.order.take (unitsLedTo units (index + 1)).ncard).getLast?
        = some units[index]) ∧
    ∀ first second (inside : second < units.length) (earlier : first < second),
      (∀ index (_ : index ≤ first),
        ¬ ReflTransGen (Refers units) units[index].path units[second].path) →
      [units[first], units[second]].Sublist (ofUnits units).schedule.order := by
  refine ⟨schedule_take_ncard distinct, ?_, ?_⟩
  · intro index inside apart
    exact getLast?_schedule_take distinct inside apart
  · intro first second inside earlier unreached
    have led : units[first] ∈ unitsLedTo units (first + 1) :=
      ⟨List.getElem_mem (earlier.trans inside), units[first],
        List.mem_take_iff_getElem.mpr ⟨first, by omega, rfl⟩, .refl⟩
    have apart : units[second] ∉ unitsLedTo units (first + 1) := by
      rintro ⟨-, start, listed, reach⟩
      obtain ⟨index, bound, rfl⟩ := List.mem_take_iff_getElem.mp listed
      exact unreached index (by omega) reach
    exact schedule_sublist distinct led (List.getElem_mem inside) apart

/-! Two units that refer to each other, one that stands alone, and one that refers to it. -/
namespace Sample

def unitAt (name : String) (references : List String) : BuildUnit where
  path := ⟨"/work/" ++ name⟩
  name := name
  configuration := ⟨"/work/" ++ name ++ "/tsconfig.json"⟩
  references := references.map fun reference => ⟨"/work/" ++ reference⟩

def units : List BuildUnit :=
  [unitAt "app" ["core"], unitAt "tool" [], unitAt "core" ["app"], unitAt "cli" ["tool"]]

theorem led_by_app {path : Path} (reach : ReflTransGen (Refers units) ⟨"/work/app"⟩ path) :
    path ∈ [(⟨"/work/app"⟩ : Path), ⟨"/work/core"⟩] := by
  induction reach with
  | refl => decide
  | @tail near far _ edge ih =>
      have closed : ∀ source ∈ [(⟨"/work/app"⟩ : Path), ⟨"/work/core"⟩], ∀ unit ∈ units,
          unit.path = source → ∀ target ∈ unit.references,
            target ∈ [(⟨"/work/app"⟩ : Path), ⟨"/work/core"⟩] := by decide
      obtain ⟨⟨unit, member, same, refers⟩, -⟩ := edge
      exact closed near ih unit member same far refers

/-- The unit that stands alone comes after the two that were found before it or belong to them. -/
theorem tool_follows_app :
    (units.map BuildUnit.path).Nodup
      ∧ {unit | unit ∈ (ofUnits units).schedule.order.take (unitsLedTo units 1).ncard}
        = unitsLedTo units 1
      ∧ units[1] ∉ unitsLedTo units 1
      ∧ ((ofUnits units).schedule.order.take (unitsLedTo units 2).ncard).getLast? = some units[1]
      ∧ [units[0], units[1]].Sublist (ofUnits units).schedule.order := by
  have distinct : (units.map BuildUnit.path).Nodup := by decide
  obtain ⟨fronts, last, before⟩ := schedule_follows_discovery units distinct
  have apart : units[1] ∉ unitsLedTo units 1 := by
    rintro ⟨-, start, listed, reach⟩
    obtain rfl : start = unitAt "app" ["core"] := List.mem_singleton.mp listed
    exact absurd (led_by_app reach) (by decide)
  refine ⟨distinct, fronts 1, apart, last 1 (by decide) apart, before 0 1 (by decide) (by decide) ?_⟩
  intro index within reach
  obtain rfl : index = 0 := by omega
  exact absurd (led_by_app reach) (by decide)

end Sample

end MonorepoCheck.DependencyGraph
