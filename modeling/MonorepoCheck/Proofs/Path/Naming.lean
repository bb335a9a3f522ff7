import Mathlib.Data.List.Basic
import MonorepoCheck.Proofs.Path.Resolution

/-!
The name of a path as seen from a root. Joined to the root, the name leads back to the path, so two
paths have one name exactly when they have one normal form.
-/
namespace MonorepoCheck.Path

variable {root path other : Path}

section Between

/-- The way from one list of steps to another: up from what follows the common front, and then down. -/
theorem stepsBetween_names (target : List Step) (names : List String) :
    ∃ (common back : List String) (rest : List Step),
      names = common ++ back ∧ target = common.map .name ++ rest ∧
        stepsBetween true target (names.map .name)
          = some (List.replicate back.length .up ++ rest) := by
  induction target generalizing names with
  | nil =>
      refine ⟨[], names, [], rfl, rfl, ?_⟩
      cases names <;> simp [stepsBetween, Function.comp_def, List.map_const', List.replicate_succ]
  | cons step target ih =>
      cases names with
      | nil => exact ⟨[], [], step :: target, rfl, rfl, rfl⟩
      | cons name names =>
          by_cases same : step = .name name
          · obtain ⟨common, back, rest, rfl, rfl, way⟩ := ih names
            refine ⟨name :: common, back, rest, rfl, by rw [same]; rfl, ?_⟩
            simpa [stepsBetween, same] using way
          · refine ⟨[], name :: names, step :: target, rfl, rfl, ?_⟩
            simp [stepsBetween, same, Function.comp_def, List.map_const', List.replicate_succ]

theorem steps_straight (absolute : root.isAbsolute = true) (straight : .up ∉ root.steps) :
    root.steps = .root :: root.heading.into.map .name := by
  obtain ⟨names, same⟩ := named_straight straight
  rw [steps_absolute absolute, heading_eq, same, foldl_after_names, List.nil_append]

/-- What a path looks like from a root: the two part after a common front. -/
theorem stepsFrom_parts (absolute : root.isAbsolute = true) (straight : .up ∉ root.steps)
    (rooted : path.isAbsolute = true) :
    ∃ (common back : List String) (rest : List Step),
      root.heading.into = common ++ back ∧ path.normalizedSteps = .root :: common.map .name ++ rest ∧
        stepsFrom root path = List.replicate back.length .up ++ rest ∧
        stepsBetween true path.normalize.steps root.steps = some (stepsFrom root path) := by
  have target : path.normalize.steps = .root :: kept [] path.heading := by
    rw [steps_normalize, start, if_pos rooted]
    rfl
  have form := (isAbsolute_normalize path).trans rooted
  obtain ⟨common, back, rest, front, parts, way⟩ :=
    stepsBetween_names (kept [] path.heading) root.heading.into
  have between : stepsBetween true path.normalize.steps root.steps
      = some (List.replicate back.length .up ++ rest) := by
    rw [target, steps_straight absolute straight]
    simpa [stepsBetween] using way
  have from' : stepsFrom root path = List.replicate back.length .up ++ rest := by
    rw [stepsFrom, form, absolute, between]
    rfl
  refine ⟨common, back, rest, front, ?_, from', from' ▸ between⟩
  rw [normalizedSteps_eq, kept_start, start, if_pos rooted, parts]
  rfl

end Between

section Reading

variable {steps : List Step}

theorem named_joinText (spelt : ∀ step ∈ steps, step.Spelt) (some' : steps ≠ []) :
    isAbsolute ⟨Text.joinText "/" (steps.map Step.text)⟩ = false ∧
      named ⟨Text.joinText "/" (steps.map Step.text)⟩ = steps := by
  let pieces := steps.map fun step => step.text.toList
  have chars : (Text.joinText "/" (steps.map Step.text)).toList = Text.join ['/'] pieces := by
    simp [Text.joinText, pieces, Function.comp_def]
  have whole : ∀ piece ∈ pieces, '/' ∉ piece := by
    intro piece member
    obtain ⟨step, listed, rfl⟩ := List.mem_map.mp member
    exact (spelt step listed).noSlash
  have split' : Text.splitOn '/' (Text.join ['/'] pieces) = pieces :=
    Text.splitOn_join (by simpa [pieces] using some') whole
  constructor
  · -- a text that starts with a separator has an empty first piece, which spells no step
    by_contra absolute
    rw [isAbsolute, chars] at absolute
    obtain ⟨rest, written⟩ := List.head?_eq_some_iff.mp (by simpa using absolute)
    have empty : [] ∈ pieces := by
      rw [← split', written]
      simp [Text.splitOn]
    obtain ⟨step, listed, none'⟩ := List.mem_map.mp empty
    have reads := (spelt step listed).reads
    rw [none'] at reads
    cases reads
  · rw [named, chars, split', List.filterMap_map]
    calc steps.filterMap (Step.ofPiece? ∘ fun step => step.text.toList)
        = steps.filterMap some := List.filterMap_congr fun step listed => (spelt step listed).reads
      _ = steps := List.filterMap_some

/-- The name of a path spells the steps that lead to it from the root. -/
theorem named_relativeTo (spelt : ∀ step ∈ stepsFrom root path, step.Spelt) :
    isAbsolute ⟨relativeTo root path⟩ = false ∧
      named ⟨relativeTo root path⟩ = stepsFrom root path := by
  by_cases none' : stepsFrom root path = []
  · have here : relativeTo root path = "." := by
      rw [relativeTo, none']
      rfl
    rw [here, none']
    exact ⟨rfl, rfl⟩
  · obtain ⟨relative, reads⟩ := named_joinText spelt none'
    have some' : (Text.joinText "/" ((stepsFrom root path).map Step.text)).isEmpty = false := by
      by_contra empty
      have nothing := String.isEmpty_iff.mp (Bool.not_eq_false _ ▸ empty)
      rw [nothing] at reads
      exact none' reads.symm
    rw [relativeTo, some']
    exact ⟨relative, reads⟩

end Reading

section Leading

theorem start_join (relative : other.isAbsolute = false) : (root.join other).start = root.start := by
  rw [start, start, isAbsolute_join relative]

theorem normalizedSteps_join (relative : other.isAbsolute = false) :
    (root.join other).normalizedSteps = other.named.foldl Step.resolve root.normalizedSteps := by
  rw [normalizedSteps, foldl_steps _ _ rfl, start_join relative, named_join relative,
    List.foldl_append, ← foldl_steps _ _ rfl, ← normalizedSteps]

theorem foldl_resolve_ups (base : List Step) (back : List String) :
    (List.replicate back.length .up).foldl Step.resolve (base ++ back.map .name) = base := by
  induction back using List.reverseRecOn with
  | nil => simp
  | append_singleton back name ih =>
      have first : Step.resolve (base ++ (back ++ [name]).map .name) .up = base ++ back.map .name := by
        rw [List.map_append, List.map_singleton, ← List.append_assoc, Step.resolve,
          List.getLast?_concat, List.dropLast_concat]
      rw [List.length_append, List.length_singleton, List.replicate_succ, List.foldl_cons, first, ih]

theorem foldl_resolve_names (base : List Step) (names : List String) :
    (names.map .name).foldl Step.resolve base = base ++ names.map .name := by
  induction names generalizing base with
  | nil => simp
  | cons name names ih => rw [List.map_cons, List.foldl_cons, ih]; simp [Step.resolve]

/-- A normal form is resolved already. -/
theorem foldl_resolve_normalized (path : Path) :
    path.normalizedSteps.foldl Step.resolve [] = path.normalizedSteps := by
  have again := normalize_eq_iff.mp (normalize_normalize path)
  rw [normalizedSteps, steps_normalize, ← kept_start, ← normalizedSteps_eq] at again
  exact again

theorem spelt_normalized {step : Step} (member : step ∈ path.normalizedSteps) (inside : step ≠ .root) :
    step.Spelt := by
  rw [normalizedSteps_eq, kept_start] at member
  rcases List.mem_append.mp member with first | later
  · rcases start_cases path with same | same <;> rw [same] at first
    · cases first
    · exact absurd (List.mem_singleton.mp first) inside
  · exact spelt_kept later

theorem root_once {rest : List Step} (parts : path.normalizedSteps = .root :: rest) : .root ∉ rest := by
  intro member
  rw [normalizedSteps_eq, kept_start] at parts
  rcases start_cases path with same | same <;> rw [same] at parts
  · exact not_spelt_root (spelt_kept (parts ▸ List.mem_cons_self))
  · exact not_spelt_root (spelt_kept ((List.cons.inj parts).2 ▸ member))

/-- The name of a path leads from the root to where the path leads. -/
theorem normalize_join_relativeTo (absolute : root.isAbsolute = true) (straight : .up ∉ root.steps)
    (rooted : path.isAbsolute = true) :
    (root.join ⟨relativeTo root path⟩).normalize = path.normalize := by
  obtain ⟨common, back, rest, front, parts, way, -⟩ := stepsFrom_parts absolute straight rooted
  have inside : .root ∉ rest := fun member =>
    root_once parts (List.mem_append_right _ member)
  have spelt : ∀ step ∈ stepsFrom root path, step.Spelt := by
    intro step member
    rw [way] at member
    rcases List.mem_append.mp member with up | down
    · rw [List.eq_of_mem_replicate up]
      exact Step.spelt_up
    · have listed : step ∈ path.normalizedSteps := by
        rw [parts]
        exact List.mem_append_right _ down
      exact spelt_normalized listed fun same => inside (same ▸ down)
  obtain ⟨relative, reads⟩ := named_relativeTo spelt
  have level := normalizedSteps_level absolute (heading_straight straight)
  -- from the root up to the common front, and from there as the path itself goes on
  have down : rest.foldl Step.resolve (.root :: common.map .name) = path.normalizedSteps := by
    have whole := foldl_resolve_normalized path
    rw [parts, List.foldl_append, List.foldl_cons, Step.resolve, foldl_resolve_names,
      List.singleton_append] at whole
    rw [whole, parts]
  rw [normalize_eq_iff, normalizedSteps_join relative, reads, way, level, front, List.foldl_append,
    List.map_append, ← List.cons_append, foldl_resolve_ups, down]

/-- Two paths have one name exactly when they lead to one place. -/
theorem relativeTo_eq_iff (absolute : root.isAbsolute = true) (straight : .up ∉ root.steps)
    (rooted : path.isAbsolute = true) (rootedOther : other.isAbsolute = true) :
    relativeTo root path = relativeTo root other ↔ path.normalize = other.normalize := by
  constructor
  · intro same
    rw [← normalize_join_relativeTo absolute straight rooted, same,
      normalize_join_relativeTo absolute straight rootedOther]
  · intro same
    obtain ⟨-, -, -, -, -, -, here⟩ := stepsFrom_parts absolute straight rooted
    obtain ⟨-, -, -, -, -, -, there⟩ := stepsFrom_parts absolute straight rootedOther
    have steps : stepsFrom root path = stepsFrom root other := by
      rw [same, there] at here
      exact (Option.some.inj here).symm
    rw [relativeTo, relativeTo, steps]

end Leading

end MonorepoCheck.Path
