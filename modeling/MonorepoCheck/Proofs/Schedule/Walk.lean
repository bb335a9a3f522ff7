import Mathlib.Data.List.Nodup
import Mathlib.Logic.Relation
import MonorepoCheck.Proofs.Schedule.Edges

/-!
The depth-first walk as steps without a bound. `Follows` goes through the targets of an open path,
`Tours` through the units of the graph; the bounded walk carries out exactly these steps. `Sound` is
what every step keeps: the finished paths followed by the open ones, the innermost first, are the
order in which all of them finish.
-/
namespace MonorepoCheck.DependencyGraph

open Relation

/-- One element of a list stands before another. -/
def Before (first second : Path) (order : List Path) : Prop := [first, second].Sublist order

section Before
variable {first second third : Path} {order longer : List Path}

theorem Before.mono (before : Before first second order) (kept : order.Sublist longer) :
    Before first second longer := List.Sublist.trans before kept

theorem Before.left_mem (before : Before first second order) : first ∈ order :=
  before.subset (by simp)

theorem Before.right_mem (before : Before first second order) : second ∈ order :=
  before.subset (by simp)

theorem before_append (left : first ∈ order) (right : second ∈ longer) :
    Before first second (order ++ longer) :=
  (List.singleton_sublist.mpr left).append (List.singleton_sublist.mpr right)

theorem before_cons_iff (head : Path) :
    Before first second (head :: order) ↔
      Before first second order ∨ first = head ∧ second ∈ order := by
  constructor
  · intro before
    rcases List.sublist_cons_iff.mp before with later | ⟨tail, same, rest⟩
    · exact Or.inl later
    · cases same
      exact Or.inr ⟨rfl, List.singleton_sublist.mp rest⟩
  · rintro (later | ⟨rfl, member⟩)
    · exact later.cons _
    · exact (List.singleton_sublist.mpr member).cons_cons _

theorem Before.asymm (once : order.Nodup) (before : Before first second order) :
    ¬ Before second first order := by
  induction order with
  | nil => exact fun other => List.not_mem_nil other.left_mem
  | cons head rest ih =>
      obtain ⟨absent, restOnce⟩ := List.nodup_cons.mp once
      intro other
      rcases (before_cons_iff head).mp before with inRest | ⟨rfl, member⟩
      · rcases (before_cons_iff head).mp other with otherInRest | ⟨rfl, _⟩
        · exact ih restOnce inRest otherInRest
        · exact absent inRest.right_mem
      · rcases (before_cons_iff first).mp other with otherInRest | ⟨rfl, _⟩
        · exact absent otherInRest.right_mem
        · exact absent member

theorem Before.trans (once : order.Nodup) (before : Before first second order)
    (after : Before second third order) : Before first third order := by
  induction order with
  | nil => exact absurd before.left_mem List.not_mem_nil
  | cons head rest ih =>
      obtain ⟨absent, restOnce⟩ := List.nodup_cons.mp once
      apply (before_cons_iff head).mpr
      rcases (before_cons_iff head).mp after with afterInRest | ⟨rfl, _⟩
      · rcases (before_cons_iff head).mp before with beforeInRest | ⟨rfl, _⟩
        · exact Or.inl (ih restOnce beforeInRest afterInRest)
        · exact Or.inr ⟨rfl, afterInRest.right_mem⟩
      · rcases (before_cons_iff second).mp before with beforeInRest | ⟨rfl, member⟩
        · exact absurd beforeInRest.right_mem absent
        · exact absurd member absent

end Before

section Steps

/-- Goes through the targets `pending` of `source`, which is open inside `walking`. -/
inductive Follows (graph : DependencyGraph) :
    List Path → Path → List Path → Progress → Progress → Prop where
  | done {walking source progress} : Follows graph walking source [] progress progress
  | skip {walking source target rest before after} :
      target ∈ source :: walking →
      Follows graph walking source rest
        { before with skipped := before.skipped ++ [(source, target)] } after →
      Follows graph walking source (target :: rest) before after
  | known {walking source target rest before after} :
      target ∉ source :: walking → target ∈ before.order →
      Follows graph walking source rest before after →
      Follows graph walking source (target :: rest) before after
  | visit {walking source target rest before middle after} :
      target ∉ source :: walking → target ∉ before.order →
      Follows graph (source :: walking) target (graph.targets target) before middle →
      Follows graph walking source rest
        { middle with order := middle.order ++ [target] } after →
      Follows graph walking source (target :: rest) before after

/-- Visits the paths `pending` that are not finished, one after the other. -/
inductive Tours (graph : DependencyGraph) : List Path → Progress → Progress → Prop where
  | done {progress} : Tours graph [] progress progress
  | known {path rest before after} :
      path ∈ before.order → Tours graph rest before after → Tours graph (path :: rest) before after
  | visit {path rest before middle after} :
      path ∉ before.order → Follows graph [] path (graph.targets path) before middle →
      Tours graph rest { middle with order := middle.order ++ [path] } after →
      Tours graph (path :: rest) before after

/-- What a walk does when it meets a target of the innermost open path. -/
def meet (graph : DependencyGraph) (fuel : Nat) (walking : List Path) (source : Path)
    (progress : Progress) (target : Path) : Progress :=
  if (source :: walking).contains target then
    { progress with skipped := progress.skipped ++ [(source, target)] }
  else if progress.order.contains target then progress
  else graph.visit fuel (source :: walking) target progress

theorem visit_succ (graph : DependencyGraph) (fuel : Nat) (walking : List Path) (path : Path)
    (before : Progress) :
    graph.visit (fuel + 1) walking path before =
      { (graph.targets path).foldl (graph.meet fuel walking path) before with
        order := ((graph.targets path).foldl (graph.meet fuel walking path) before).order
          ++ [path] } := rfl

/-- With a unit of fuel for every path that is not open, a visit carries out the steps. -/
theorem visit_follows (graph : DependencyGraph) (valid : graph.WellFormed) (fuel : Nat)
    (walking : List Path) (path : Path) (before : Progress)
    (openOnce : (path :: walking).Nodup) (known : ∀ p ∈ path :: walking, p ∈ graph.paths)
    (enough : graph.paths.length ≤ fuel + walking.length) :
    ∃ middle, Follows graph walking path (graph.targets path) before middle ∧
      graph.visit fuel walking path before =
        { middle with order := middle.order ++ [path] } := by
  induction fuel generalizing walking path before with
  | zero =>
      -- with no fuel left, more paths would be open than the graph has
      have bound := openOnce.length_le_of_subset known
      simp only [List.length_cons] at bound
      omega
  | succ fuel ih =>
      refine ⟨_, ?_, visit_succ graph fuel walking path before⟩
      have targetsKnown : ∀ target ∈ graph.targets path, target ∈ graph.paths :=
        fun target edge => target_mem_paths graph valid edge
      -- the walk folds over the targets, so the inner induction is on those still to be met
      generalize graph.targets path = pending at targetsKnown
      induction pending generalizing before with
      | nil => exact .done
      | cons target rest more =>
          have restKnown := fun t member => targetsKnown t (List.mem_cons_of_mem _ member)
          rw [List.foldl_cons]
          by_cases isOpen : target ∈ path :: walking
          · have met : graph.meet fuel walking path before target =
                { before with skipped := before.skipped ++ [(path, target)] } := by
              simp only [meet, List.contains_iff_mem, isOpen, ↓reduceIte]
            rw [met]
            exact .skip isOpen (more _ restKnown)
          · by_cases finished : target ∈ before.order
            · have met : graph.meet fuel walking path before target = before := by
                simp only [meet, List.contains_iff_mem, isOpen, finished, ↓reduceIte]
              rw [met]
              exact .known isOpen finished (more _ restKnown)
            · have insideKnown : ∀ p ∈ target :: path :: walking, p ∈ graph.paths := by
                intro p member
                rcases List.mem_cons.mp member with rfl | member
                · exact targetsKnown p List.mem_cons_self
                · exact known p member
              -- inside, one path more is open, so one unit of fuel less is enough
              obtain ⟨inner, steps, same⟩ := ih (path :: walking) target before
                (List.nodup_cons.mpr ⟨isOpen, openOnce⟩) insideKnown
                (by simp only [List.length_cons]; omega)
              have met : graph.meet fuel walking path before target =
                  { inner with order := inner.order ++ [target] } := by
                simp only [meet, List.contains_iff_mem, isOpen, finished, ↓reduceIte, same]
              rw [met]
              exact .visit isOpen finished steps (more _ restKnown)

/-- The walk of a graph is the tour of its units: its fuel is never used up. -/
theorem walk_tours (graph : DependencyGraph) (valid : graph.WellFormed) :
    Tours graph graph.paths ⟨[], []⟩ graph.walk := by
  -- the fold starts anywhere in the list of units, not only at its front
  suffices tours : ∀ units ⊆ graph.units, ∀ before, Tours graph (units.map BuildUnit.path) before
      (units.foldl (fun progress unit =>
        if progress.order.contains unit.path then progress
        else graph.visit graph.units.length [] unit.path progress) before) from
    tours graph.units (fun _ member => member) ⟨[], []⟩
  intro units inside before
  induction units generalizing before with
  | nil => exact .done
  | cons unit rest ih =>
      have restInside : rest ⊆ graph.units :=
        fun _ member => inside (List.mem_cons_of_mem unit member)
      rw [List.map_cons, List.foldl_cons]
      by_cases finished : unit.path ∈ before.order
      · simpa only [List.contains_iff_mem, finished, ↓reduceIte] using
          Tours.known finished (ih restInside before)
      · have present : unit.path ∈ graph.paths :=
          List.mem_map.mpr ⟨unit, inside List.mem_cons_self, rfl⟩
        obtain ⟨middle, steps, same⟩ := visit_follows graph valid graph.units.length [] unit.path
          before (List.nodup_singleton _) (by simpa using present) (by simp [paths])
        simpa only [List.contains_iff_mem, finished, ↓reduceIte, same] using
          Tours.visit finished steps (ih restInside _)

end Steps

section Invariant

/-- An edge whose target finishes before its source. -/
def Kept (graph : DependencyGraph) (timeline : List Path) (source target : Path) : Prop :=
  target ∈ graph.targets source ∧ Before target source timeline

/-- What holds of a walk with the `open` paths still to finish, the innermost first. -/
structure Sound (graph : DependencyGraph) (walking : List Path) (progress : Progress) : Prop where
  once : (progress.order ++ walking).Nodup
  known : ∀ path ∈ progress.order ++ walking, path ∈ graph.paths
  settled : ∀ source ∈ progress.order, ∀ target ∈ graph.targets source,
    Before target source progress.order ∨ (source, target) ∈ progress.skipped
  late : ∀ source target, (source, target) ∈ progress.skipped →
    target ∈ graph.targets source ∧ Before source target (progress.order ++ walking)
  closed : ∀ source target, (source, target) ∈ progress.skipped →
    ReflTransGen (Kept graph (progress.order ++ walking)) target source
  skipped_once : progress.skipped.Nodup

/-- What going through the targets `pending` of `source` leaves as it was, and what it adds. -/
structure Settles (walking : List Path) (source : Path) (pending : List Path)
    (before after : Progress) : Prop where
  order_grows : before.order.Sublist after.order
  skipped_grows : before.skipped ⊆ after.skipped
  target_settled : ∀ target ∈ pending, target ∈ after.order ∨ (source, target) ∈ after.skipped
  outer_kept : ∀ outer ∈ walking, ∀ target, (outer, target) ∈ after.skipped →
    (outer, target) ∈ before.skipped

variable {graph : DependencyGraph} {walking : List Path} {source target path : Path}
  {before middle : Progress}

theorem Kept.mono {timeline longer : List Path} (grows : timeline.Sublist longer)
    (kept : Kept graph timeline source target) : Kept graph longer source target :=
  ⟨kept.1, kept.2.mono grows⟩

theorem reach_mono {timeline longer : List Path} (grows : timeline.Sublist longer)
    (reach : ReflTransGen (Kept graph timeline) source target) :
    ReflTransGen (Kept graph longer) source target :=
  ReflTransGen.mono (show Kept graph timeline ≤ Kept graph longer from
    fun _ _ kept => kept.mono grows) _ _ reach

theorem Sound.absent_not_skipped (sound : Sound graph walking before)
    (absent : path ∉ before.order ++ walking) : (path, target) ∉ before.skipped :=
  fun skipped => absent (sound.late path target skipped).2.left_mem

/-- Opening a path puts it into the timeline, between what is finished and what is open. -/
theorem Sound.opened (sound : Sound graph walking before) (present : path ∈ graph.paths)
    (notOpen : path ∉ walking) (notFinished : path ∉ before.order) :
    Sound graph (path :: walking) before := by
  have grows : (before.order ++ walking).Sublist (before.order ++ path :: walking) :=
    (List.Sublist.refl _).append (List.sublist_cons_self _ _)
  have rotated : (before.order ++ path :: walking).Perm (path :: (before.order ++ walking)) :=
    List.perm_middle
  constructor
  case once =>
    apply rotated.nodup_iff.mpr
    exact List.nodup_cons.mpr ⟨by simp [notOpen, notFinished], sound.once⟩
  case known =>
    intro other member
    rcases List.mem_cons.mp (rotated.mem_iff.mp member) with rfl | old
    · exact present
    · exact sound.known other old
  case settled => exact sound.settled
  case late =>
    intro source target skipped
    obtain ⟨edge, order⟩ := sound.late source target skipped
    exact ⟨edge, order.mono grows⟩
  case closed =>
    intro source target skipped
    exact reach_mono grows (sound.closed source target skipped)
  case skipped_once => exact sound.skipped_once

/-- Finishing the innermost open path leaves the timeline as it is. -/
theorem Sound.finished (sound : Sound graph (path :: walking) middle)
    (settled : ∀ target ∈ graph.targets path,
      target ∈ middle.order ∨ (path, target) ∈ middle.skipped) :
    Sound graph walking { middle with order := middle.order ++ [path] } := by
  have timeline : middle.order ++ [path] ++ walking = middle.order ++ path :: walking := by simp
  constructor
  case once => exact timeline ▸ sound.once
  case known => exact timeline ▸ sound.known
  case settled =>
    intro source member target edge
    rcases List.mem_append.mp member with old | new
    · exact (sound.settled source old target edge).imp_left
        (fun order => order.mono (List.sublist_append_left _ _))
    · obtain rfl := List.mem_singleton.mp new
      exact (settled target edge).imp_left
        (fun done => before_append done (List.mem_singleton.mpr rfl))
  case late => exact timeline ▸ sound.late
  case closed => exact timeline ▸ sound.closed
  case skipped_once => exact sound.skipped_once

/-- Skipping an edge into an open path closes a cycle through the open paths. -/
theorem Sound.skips (sound : Sound graph (source :: walking) before)
    (edge : target ∈ graph.targets source) (isOpen : target ∈ walking)
    (fresh : (source, target) ∉ before.skipped)
    (reach : ReflTransGen (Kept graph (before.order ++ source :: walking)) target source) :
    Sound graph (source :: walking)
      { before with skipped := before.skipped ++ [(source, target)] } := by
  constructor
  case once => exact sound.once
  case known => exact sound.known
  case settled =>
    intro finished member far farEdge
    exact (sound.settled finished member far farEdge).imp_right (List.mem_append_left _)
  case late =>
    intro near far skipped
    rcases List.mem_append.mp skipped with old | new
    · exact sound.late near far old
    · obtain ⟨rfl, rfl⟩ := Prod.mk.injEq .. ▸ List.mem_singleton.mp new
      refine ⟨edge, Before.mono ?_ (List.sublist_append_right _ _)⟩
      exact (before_cons_iff near).mpr (Or.inr ⟨rfl, isOpen⟩)
  case closed =>
    intro near far skipped
    rcases List.mem_append.mp skipped with old | new
    · exact sound.closed near far old
    · obtain ⟨rfl, rfl⟩ := Prod.mk.injEq .. ▸ List.mem_singleton.mp new
      exact reach
  case skipped_once =>
    exact sound.skipped_once.append (List.nodup_singleton _) (by simpa using fresh)

/-- Going through the targets of an open path keeps the invariant. Every open path leads to the
innermost one along edges that are kept, so that a skipped edge closes a cycle. -/
theorem follows_sound (valid : graph.WellFormed) {pending : List Path} {after : Progress}
    (follows : Follows graph walking source pending before after)
    (sound : Sound graph (source :: walking) before)
    (edges : ∀ target ∈ pending, target ∈ graph.targets source) (pendingOnce : pending.Nodup)
    (fresh : ∀ target ∈ pending, (source, target) ∉ before.skipped)
    (reach : ∀ outer ∈ walking,
      ReflTransGen (Kept graph (before.order ++ source :: walking)) outer source) :
    Sound graph (source :: walking) after ∧ Settles walking source pending before after := by
  induction follows with
  | done =>
      exact ⟨sound, List.Sublist.refl _, fun _ member => member, by simp, fun _ _ _ old => old⟩
  | @skip walking source target rest before after isOpen _ ih =>
      have edge := edges target List.mem_cons_self
      obtain ⟨targetAbsent, restOnce⟩ := List.nodup_cons.mp pendingOnce
      -- no path is its own target, so the open path that is met stands outside the source
      have inWalking : target ∈ walking :=
        (List.mem_cons.mp isOpen).resolve_left (target_ne_source graph valid edge)
      have outerFresh : source ∉ walking :=
        (List.nodup_cons.mp (List.Nodup.of_append_right sound.once)).1
      -- by `reach` that path leads to the source, so the skipped edge closes a cycle
      have skipped := sound.skips edge inWalking (fresh target List.mem_cons_self)
        (reach target inWalking)
      obtain ⟨soundAfter, settles⟩ := ih skipped
        (fun t member => edges t (List.mem_cons_of_mem _ member)) restOnce
        (by
          intro t member old
          rcases List.mem_append.mp old with old | new
          · exact fresh t (List.mem_cons_of_mem _ member) old
          · obtain ⟨_, rfl⟩ := Prod.mk.injEq .. ▸ List.mem_singleton.mp new
            exact targetAbsent member)
        reach
      refine ⟨soundAfter, settles.order_grows, ?_, ?_, ?_⟩
      · exact fun pair old => settles.skipped_grows (List.mem_append_left _ old)
      · intro t member
        rcases List.mem_cons.mp member with rfl | later
        · exact Or.inr (settles.skipped_grows (List.mem_append_right _ List.mem_cons_self))
        · exact settles.target_settled t later
      · intro outer member far later
        rcases List.mem_append.mp (settles.outer_kept outer member far later) with old | new
        · exact old
        -- the new edge starts at the source, which is not among the outer paths
        · obtain ⟨rfl, _⟩ := Prod.mk.injEq .. ▸ List.mem_singleton.mp new
          exact absurd member outerFresh
  | @known walking source target rest before after _ finished _ ih =>
      obtain ⟨_, restOnce⟩ := List.nodup_cons.mp pendingOnce
      obtain ⟨soundAfter, settles⟩ := ih sound
        (fun t member => edges t (List.mem_cons_of_mem _ member)) restOnce
        (fun t member => fresh t (List.mem_cons_of_mem _ member)) reach
      refine ⟨soundAfter, settles.order_grows, settles.skipped_grows, ?_, settles.outer_kept⟩
      intro t member
      rcases List.mem_cons.mp member with rfl | later
      · exact Or.inl (settles.order_grows.subset finished)
      · exact settles.target_settled t later
  | @visit walking source target rest before middle after notOpen notFinished _ _ inner ih =>
      have edge := edges target List.mem_cons_self
      obtain ⟨targetAbsent, restOnce⟩ := List.nodup_cons.mp pendingOnce
      have opened := sound.opened (target_mem_paths graph valid edge) notOpen notFinished
      have grows : (before.order ++ source :: walking).Sublist
          (before.order ++ target :: source :: walking) :=
        (List.Sublist.refl _).append (List.sublist_cons_self _ _)
      have treeEdge : Kept graph (before.order ++ target :: source :: walking) source target := by
        refine ⟨edge, Before.mono ?_ (List.sublist_append_right _ _)⟩
        exact (before_cons_iff target).mpr (Or.inr ⟨rfl, List.mem_cons_self⟩)
      -- the open paths lead to the source, and from there along the edge that is followed
      have reachTarget : ∀ outer ∈ source :: walking,
          ReflTransGen (Kept graph (before.order ++ target :: source :: walking)) outer target := by
        intro outer member
        rcases List.mem_cons.mp member with rfl | outside
        · exact ReflTransGen.single treeEdge
        · exact (reach_mono grows (reach outer outside)).tail treeEdge
      obtain ⟨soundMiddle, innerSettles⟩ := inner opened (fun _ member => member)
        (targets_once graph valid target)
        (fun _ _ => sound.absent_not_skipped (by simpa using ⟨notFinished, by simpa using notOpen⟩))
        reachTarget
      have closed := soundMiddle.finished innerSettles.target_settled
      -- the target is finished now instead of open, and what led to the source still does
      have growsAgain : (before.order ++ source :: walking).Sublist
          (middle.order ++ [target] ++ source :: walking) :=
        (innerSettles.order_grows.trans (List.sublist_append_left _ _)).append
          (List.Sublist.refl _)
      obtain ⟨soundAfter, settles⟩ := ih closed
        (fun t member => edges t (List.mem_cons_of_mem _ member)) restOnce
        (by
          intro t member later
          exact fresh t (List.mem_cons_of_mem _ member)
            (innerSettles.outer_kept source List.mem_cons_self t later))
        (fun outer member => reach_mono growsAgain (reach outer member))
      refine ⟨soundAfter, ?_, ?_, ?_, ?_⟩
      · exact innerSettles.order_grows.trans
          ((List.sublist_append_left _ _).trans settles.order_grows)
      · exact fun pair old => settles.skipped_grows (innerSettles.skipped_grows old)
      · intro t member
        rcases List.mem_cons.mp member with rfl | later
        · exact Or.inl (settles.order_grows.subset (List.mem_append_right _ List.mem_cons_self))
        · exact settles.target_settled t later
      · intro outer member far later
        exact innerSettles.outer_kept outer (List.mem_cons_of_mem _ member) far
          (settles.outer_kept outer member far later)

theorem tours_sound (valid : graph.WellFormed) {pending : List Path} {after : Progress}
    (tours : Tours graph pending before after) (sound : Sound graph [] before)
    (present : ∀ path ∈ pending, path ∈ graph.paths) :
    Sound graph [] after ∧ before.order ⊆ after.order ∧ ∀ path ∈ pending, path ∈ after.order := by
  induction tours with
  | done => exact ⟨sound, fun _ member => member, by simp⟩
  | @known path rest before after finished _ ih =>
      obtain ⟨soundAfter, grows, covered⟩ := ih sound
        (fun p member => present p (List.mem_cons_of_mem _ member))
      refine ⟨soundAfter, grows, ?_⟩
      intro p member
      rcases List.mem_cons.mp member with rfl | later
      · exact grows finished
      · exact covered p later
  | @visit path rest before middle after notFinished follows _ ih =>
      have opened := sound.opened (present path List.mem_cons_self) (by simp) notFinished
      obtain ⟨soundMiddle, settles⟩ := follows_sound valid follows opened (fun _ member => member)
        (targets_once graph valid path)
        (fun _ _ => sound.absent_not_skipped (by simpa using notFinished)) (by simp)
      obtain ⟨soundAfter, grows, covered⟩ := ih (soundMiddle.finished settles.target_settled)
        (fun p member => present p (List.mem_cons_of_mem _ member))
      refine ⟨soundAfter, ?_, ?_⟩
      · intro p member
        exact grows (List.mem_append_left _ (settles.order_grows.subset member))
      · intro p member
        rcases List.mem_cons.mp member with rfl | later
        · exact grows (List.mem_append_right _ List.mem_cons_self)
        · exact covered p later

theorem sound_start (graph : DependencyGraph) : Sound graph [] ⟨[], []⟩ := by
  constructor <;> simp

end Invariant
end MonorepoCheck.DependencyGraph
