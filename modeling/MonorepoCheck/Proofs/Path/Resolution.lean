import MonorepoCheck.Proofs.Path.Below

/-!
What lexical resolution makes of a path. A path leads some levels up from where it starts and then
into names; its normal form leads into the same names, but keeps only one `..` of an odd number of
levels and none of an even one. So it means the same as the path wherever the path leads at most one
level up.
-/
namespace MonorepoCheck.Path

/-- Where steps lead from a place that is not known: so many levels up from it, and from there into
names. -/
structure Heading where
  up : Nat
  into : List String
  deriving DecidableEq, Repr

/-- One step further. A `..` takes back a name, and where there is none leads one level up. -/
def Heading.after (heading : Heading) : Step → Heading
  | .root | .here => heading
  | .name spelt => ⟨heading.up, heading.into ++ [spelt]⟩
  | .up => if heading.into = [] then ⟨heading.up + 1, []⟩ else ⟨heading.up, heading.into.dropLast⟩

def heading (path : Path) : Heading := path.steps.foldl Heading.after ⟨0, []⟩

/-- How many levels a path leads above its start on its way. -/
def climbs (path : Path) : Nat := path.heading.up

/-- The steps of a path, without the one that says where it starts. -/
def named (path : Path) : List Step :=
  (Text.splitOn '/' path.text.toList).filterMap Step.ofPiece?

/-- The step that a normal form begins with. -/
def start (path : Path) : List Step := if path.isAbsolute then [.root] else []

/-- A step that its text spells. -/
structure Step.Spelt (step : Step) : Prop where
  noSlash : '/' ∉ step.text.toList
  reads : Step.ofPiece? step.text.toList = some step

section Steps

variable {path directory : Path} {step : Step} {name : String} {base rest : List Step}

theorem Step.spelt_up : Step.Spelt .up := ⟨by decide, rfl⟩

theorem Step.spelt_of_read {piece : List Char} (noSlash : '/' ∉ piece)
    (reads : Step.ofPiece? piece = some step) : step.Spelt := by
  have same : step.text.toList = piece := by
    rw [Step.ofPiece?] at reads
    split at reads
    · cases reads
    · split at reads
      · rename_i up
        cases reads
        exact up.symm
      · cases reads
        exact String.toList_ofList
  exact ⟨same ▸ noSlash, same ▸ reads⟩

theorem spelt_named (member : step ∈ path.named) : step.Spelt := by
  obtain ⟨piece, listed, reads⟩ := List.mem_filterMap.mp member
  exact Step.spelt_of_read (Text.noSeparator_of_splitOn listed) reads

theorem not_spelt_root : ¬ Step.Spelt .root := fun spelt => spelt.noSlash (by decide)

theorem root_not_named : .root ∉ path.named := fun member => not_spelt_root (spelt_named member)

theorem not_spelt_here : ¬ Step.Spelt .here := fun spelt => by cases spelt.reads

theorem steps_absolute (absolute : path.isAbsolute = true) : path.steps = .root :: path.named := by
  rw [steps, if_pos absolute, named]

theorem steps_relative (relative : path.isAbsolute = false) :
    path.steps = path.named ∨ path.steps = .here :: path.named := by
  rw [steps, if_neg (by simp [relative])]
  split
  · exact .inr rfl
  · exact .inl rfl

/-- What a step that stands still does at the front, nothing, may be left out. -/
theorem foldl_steps {α : Type} (next : α → Step → α) (first : α) (still : next first .here = first)
    (path : Path) :
    path.steps.foldl next first = path.named.foldl next (path.start.foldl next first) := by
  rw [start]
  cases absolute : path.isAbsolute with
  | true => rw [steps_absolute absolute]; rfl
  | false =>
      rcases steps_relative absolute with same | same
      · rw [same]; rfl
      · rw [same, List.foldl_cons, still]; rfl

end Steps

section Resolving

variable {path : Path} {heading : Heading} {step : Step} {base : List Step}

/-- What is kept of a heading: at most one `..`, and the names. -/
def kept (base : List Step) (heading : Heading) : List Step :=
  base ++ List.replicate (heading.up % 2) .up ++ heading.into.map .name

/-- One `..` more takes back the one that is kept, so that two of them leave none. -/
theorem resolve_kept (started : base = [] ∨ base = [.root]) (inside : step ≠ .root) :
    Step.resolve (kept base heading) step = kept base (heading.after step) := by
  obtain ⟨up, into⟩ := heading
  cases step with
  | root => exact absurd rfl inside
  | here => rfl
  | name spelt => simp [Step.resolve, Heading.after, kept]
  | up =>
      rcases List.eq_nil_or_concat into with rfl | ⟨front, last, rfl⟩
      · rcases Nat.mod_two_eq_zero_or_one up with even | odd
        · have next : (up + 1) % 2 = 1 := by omega
          rcases started with rfl | rfl <;>
            simp [Step.resolve, Heading.after, kept, even, next]
        · have next : (up + 1) % 2 = 0 := by omega
          rcases started with rfl | rfl <;>
            simp [Step.resolve, Heading.after, kept, odd, next]
      · have names : kept base ⟨up, front ++ [last]⟩ = kept base ⟨up, front⟩ ++ [.name last] := by
          simp [kept]
        have some' : front ++ [last] ≠ [] := by simp
        rw [List.concat_eq_append, names, Step.resolve, List.getLast?_concat, Heading.after,
          if_neg some', List.dropLast_concat, List.dropLast_concat]

theorem foldl_resolve_kept (started : base = [] ∨ base = [.root]) (steps : List Step)
    (inside : .root ∉ steps) :
    steps.foldl Step.resolve (kept base heading) = kept base (steps.foldl Heading.after heading) := by
  induction steps generalizing heading with
  | nil => rfl
  | cons step steps ih =>
      have here : step ≠ .root := fun same => inside (same ▸ List.mem_cons_self)
      rw [List.foldl_cons, List.foldl_cons, resolve_kept started here,
        ih fun member => inside (List.mem_cons_of_mem step member)]

theorem start_cases (path : Path) : path.start = [] ∨ path.start = [.root] := by
  rw [start]
  split
  · exact .inr rfl
  · exact .inl rfl

theorem foldl_after_start (path : Path) : path.start.foldl Heading.after ⟨0, []⟩ = ⟨0, []⟩ := by
  rcases start_cases path with same | same <;> rw [same] <;> rfl

theorem heading_eq (path : Path) : path.heading = path.named.foldl Heading.after ⟨0, []⟩ := by
  rw [Path.heading, foldl_steps _ _ rfl, foldl_after_start]

/-- The normal form of a path is what is kept of its heading. -/
theorem normalizedSteps_eq (path : Path) : path.normalizedSteps = kept path.start path.heading := by
  have first : path.start.foldl Step.resolve [] = kept path.start ⟨0, []⟩ := by
    rcases start_cases path with same | same <;> rw [same] <;> rfl
  rw [normalizedSteps, foldl_steps _ _ rfl, first,
    foldl_resolve_kept (start_cases path) _ root_not_named, heading_eq]

end Resolving

section Written

variable {directory : Path} {name : String} {step : Step} {base rest : List Step}

theorem named_join (relative : isAbsolute ⟨name⟩ = false) :
    (directory.join ⟨name⟩).named = directory.named ++ named ⟨name⟩ :=
  pieces_join directory Step.ofPiece? rfl relative

/-- The first piece of a path in a directory is the directory's own. -/
theorem first_join (some' : directory.text ≠ "") (relative : isAbsolute ⟨name⟩ = false) :
    (Text.splitOn '/' (directory.join ⟨name⟩).text.toList).head?
      = (Text.splitOn '/' directory.text.toList).head? := by
  have first (front rest : List Char) :
      (Text.splitOn '/' (front ++ '/' :: rest)).head? = (Text.splitOn '/' front).head? := by
    obtain ⟨piece, more, pieces⟩ := List.exists_cons_of_ne_nil (Text.splitOn_ne_nil '/' front)
    rw [Text.splitOn_append, pieces]
    rfl
  rw [join_text relative, front]
  split
  · rename_i closed
    have ended : directory.text.toList.getLast? = some '/' := by simpa [some'] using closed
    obtain ⟨before, written⟩ := List.getLast?_eq_some_iff.mp ended
    rw [written, List.append_assoc, List.singleton_append, first, first]
  · rw [List.append_assoc, List.singleton_append, first]

theorem steps_join (some' : directory.text ≠ "") (relative : isAbsolute ⟨name⟩ = false) :
    (directory.join ⟨name⟩).steps = directory.steps ++ named ⟨name⟩ := by
  have pieces := @named_join directory name relative
  rw [named, named] at pieces
  rw [steps, steps, isAbsolute_join relative, first_join some' relative, pieces]
  split
  · rfl
  · split <;> rfl

theorem Step.Spelt.relative (spelt : step.Spelt) : isAbsolute ⟨step.text⟩ = false :=
  relative_of_noSlash spelt.noSlash

theorem Step.Spelt.named (spelt : step.Spelt) : Path.named ⟨step.text⟩ = [step] := by
  rw [Path.named, Text.splitOn_piece spelt.noSlash, List.filterMap_cons_some spelt.reads,
    List.filterMap_nil]

theorem Step.Spelt.steps (spelt : step.Spelt) : Path.steps ⟨step.text⟩ = [step] := by
  rcases steps_relative spelt.relative with same | same
  · rw [same, spelt.named]
  · have first : ((Text.splitOn '/' step.text.toList).head? == some ['.']) = false := by
      have notHere : step.text.toList ≠ ['.'] := by
        intro here
        have reads := spelt.reads
        rw [here] at reads
        cases reads
      simpa [Text.splitOn_piece spelt.noSlash] using notHere
    rw [Path.steps, if_neg (by simp [spelt.relative]), first, ← Path.named, spelt.named]
    rfl

theorem join_empty {path : Path} (relative : path.isAbsolute = false) :
    (⟨""⟩ : Path).join path = path := by
  rw [join, if_neg (by simp [relative]), if_pos (by rfl), String.empty_append]

theorem ofSteps_snoc (steps : List Step) (step : Step) :
    ofSteps (steps ++ [step]) = (ofSteps steps).join ⟨step.text⟩ := by
  rw [ofSteps, List.foldl_append]
  rfl

/-- Steps that their texts spell are read back from the path that they make. -/
theorem steps_ofSteps (started : base = [] ∨ base = [.root]) (spelt : ∀ step ∈ rest, step.Spelt) :
    (ofSteps (base ++ rest)).steps = base ++ rest := by
  induction rest using List.reverseRecOn with
  | nil => rcases started with rfl | rfl <;> rfl
  | append_singleton front step ih =>
      have own := spelt step (by simp)
      have before := ih fun other member => spelt other (List.mem_append_left _ member)
      rw [← List.append_assoc, ofSteps_snoc]
      by_cases none' : (ofSteps (base ++ front)).text = ""
      · -- only no steps at all make the empty path
        have nothing : base ++ front = [] := by
          rw [← before, show ofSteps (base ++ front) = ⟨""⟩ from congrArg Path.mk none']
          rfl
        rw [nothing, show ofSteps [] = ⟨""⟩ from rfl, join_empty own.relative]
        exact own.steps
      · rw [steps_join none' own.relative, before, own.named]

end Written

section Normal

variable {path : Path} {name : String} {step : Step}

theorem into_of_steps {steps : List Step} {heading : Heading}
    (member : name ∈ (steps.foldl Heading.after heading).into) :
    name ∈ heading.into ∨ .name name ∈ steps := by
  induction steps generalizing heading with
  | nil => exact .inl member
  | cons step steps ih =>
      rcases ih member with early | late
      · cases step with
        | root => exact .inl early
        | here => exact .inl early
        | name spelt =>
            rcases List.mem_append.mp early with old | own
            · exact .inl old
            · rw [List.mem_singleton.mp own]
              exact .inr List.mem_cons_self
        | up =>
            rw [Heading.after] at early
            split at early
            · cases early
            · exact .inl (List.dropLast_subset _ early)
      · exact .inr (List.mem_cons_of_mem step late)

theorem spelt_into (member : name ∈ path.heading.into) : Step.Spelt (.name name) := by
  rw [heading_eq] at member
  exact spelt_named ((into_of_steps member).resolve_left List.not_mem_nil)

theorem spelt_kept (member : step ∈ kept [] path.heading) : step.Spelt := by
  rw [kept, List.nil_append] at member
  rcases List.mem_append.mp member with up | into
  · rw [List.eq_of_mem_replicate up]
    exact Step.spelt_up
  · obtain ⟨name, listed, rfl⟩ := List.mem_map.mp into
    exact spelt_into listed

theorem kept_start (path : Path) (heading : Heading) :
    kept path.start heading = path.start ++ kept [] heading := by
  simp [kept]

theorem steps_normalize (path : Path) : path.normalize.steps = path.start ++ kept [] path.heading := by
  rw [normalize, normalizedSteps_eq, kept_start]
  exact steps_ofSteps (start_cases path) fun _ member => spelt_kept member

theorem normalize_eq_iff {path other : Path} :
    path.normalize = other.normalize ↔ path.normalizedSteps = other.normalizedSteps := by
  constructor
  · intro same
    have steps := congrArg Path.steps same
    rwa [steps_normalize, steps_normalize, ← kept_start, ← kept_start, ← normalizedSteps_eq,
      ← normalizedSteps_eq] at steps
  · intro same
    rw [normalize, same, normalize]

theorem isAbsolute_iff_root (path : Path) : path.isAbsolute = true ↔ .root ∈ path.steps := by
  constructor
  · intro absolute
    rw [steps_absolute absolute]
    exact List.mem_cons_self
  · intro member
    by_contra other
    rcases steps_relative (by simpa using other) with same | same
    · exact root_not_named (same ▸ member)
    · rcases List.mem_cons.mp (same ▸ member) with here | inside
      · cases here
      · exact root_not_named inside

theorem isAbsolute_normalize (path : Path) : path.normalize.isAbsolute = path.isAbsolute := by
  rw [Bool.eq_iff_iff, isAbsolute_iff_root, steps_normalize, start]
  constructor
  · intro member
    rcases List.mem_append.mp member with first | inside
    · by_contra other
      rw [if_neg other] at first
      cases first
    · exact absurd (spelt_kept inside) not_spelt_root
  · intro absolute
    rw [if_pos absolute]
    exact List.mem_cons_self

theorem start_normalize (path : Path) : path.normalize.start = path.start := by
  rw [start, start, isAbsolute_normalize]

theorem foldl_after_ups (count : Nat) (heading : Heading) (none' : heading.into = []) :
    (List.replicate count .up).foldl Heading.after heading = ⟨heading.up + count, []⟩ := by
  induction count generalizing heading with
  | zero => rw [← none']; rfl
  | succ count ih =>
      have next : heading.after .up = ⟨heading.up + 1, []⟩ := by rw [Heading.after, if_pos none']
      rw [List.replicate_succ, List.foldl_cons, next, ih _ rfl, Nat.add_assoc, Nat.add_comm 1]

theorem foldl_after_names (names : List String) (heading : Heading) :
    (names.map .name).foldl Heading.after heading = ⟨heading.up, heading.into ++ names⟩ := by
  induction names generalizing heading with
  | nil => simp
  | cons name names ih => rw [List.map_cons, List.foldl_cons, ih]; simp [Heading.after]

theorem heading_normalize (path : Path) :
    path.normalize.heading = ⟨path.climbs % 2, path.heading.into⟩ := by
  rw [heading, steps_normalize, List.foldl_append, foldl_after_start, kept, List.nil_append,
    List.foldl_append, foldl_after_ups _ _ rfl, foldl_after_names]
  simp [climbs]

theorem normalize_normalize (path : Path) : path.normalize.normalize = path.normalize := by
  have steps : path.normalize.normalizedSteps = path.normalizedSteps := by
    rw [normalizedSteps_eq, normalizedSteps_eq, start_normalize, heading_normalize, kept, kept,
      Nat.mod_mod]
    rfl
  rw [normalize, steps, normalize]

end Normal

section Resolved

variable {path other directory : Path}

theorem steps_normalize_eq (path : Path) : path.normalize.steps = path.normalizedSteps := by
  rw [steps_normalize, ← kept_start, ← normalizedSteps_eq]

theorem resolved_normalize (absolute : path.isAbsolute = true) : path.normalize.Resolved :=
  ⟨(isAbsolute_normalize path).trans absolute, normalize_normalize path⟩

theorem Resolved.eq_iff_steps (resolved : path.Resolved) (otherResolved : other.Resolved) :
    path = other ↔ path.steps = other.steps := by
  constructor
  · exact congrArg steps
  · intro same
    rw [← resolved.normal, ← otherResolved.normal, normalize, normalize, normalizedSteps,
      normalizedSteps, same]

/-- The directory of a file that is named by a resolved path. -/
theorem Resolved.parent (resolved : path.Resolved) {name : String}
    (named : path.fileName? = some name) (above : path.parent? = some directory) :
    directory.Resolved := by
  obtain ⟨absolute, normal⟩ := resolved
  have last : path.steps.getLast? = some (.name name) := by
    rw [fileName?] at named
    split at named
    · rename_i spelt last
      rw [last, Option.some.inj named]
    · cases named
  obtain ⟨front, split'⟩ := List.getLast?_eq_some_iff.mp last
  have made : directory = ofSteps front := by
    rw [parent?, split', List.reverse_append, List.reverse_singleton, List.singleton_append] at above
    simpa using above.symm
  -- the path has a name after its root, so its front begins with the root
  obtain ⟨rest, began⟩ : ∃ rest, front = .root :: rest := by
    rw [steps_absolute absolute] at split'
    cases front with
    | nil => cases (List.cons.inj split').1
    | cons first rest => exact ⟨rest, congrArg (· :: rest) (List.cons.inj split').1.symm⟩
  have spelt : ∀ step ∈ rest, step.Spelt := by
    intro step member
    rw [steps_absolute absolute, began] at split'
    apply spelt_named
    rw [(List.cons.inj split').2]
    exact List.mem_append_left _ member
  have steps : directory.steps = front := by
    rw [made, began]
    exact @steps_ofSteps [.root] rest (.inr rfl) spelt
  -- resolving walks the front first, and a name is added to what has been walked
  have walked : front.foldl Step.resolve [] = front := by
    have again := congrArg Path.steps normal
    rw [steps_normalize_eq, normalizedSteps, split', List.foldl_append, List.foldl_cons,
      List.foldl_nil, Step.resolve] at again
    exact List.append_cancel_right again
  constructor
  · rw [isAbsolute_iff_root, steps, began]
    exact List.mem_cons_self
  · rw [normalize, normalizedSteps, steps, walked, made]

end Resolved

section Directory

variable {path directory : Path} {names : List String}

/-- The names that a heading leads to from a directory of these names. -/
def Heading.below (heading : Heading) (names : List String) : List String :=
  names.take (names.length - heading.up) ++ heading.into

/-- How many names stand in a path that never leads up. -/
def depth (path : Path) : Nat := path.heading.into.length

theorem up_foldl_after (steps : List Step) (heading : Heading) :
    heading.up ≤ (steps.foldl Heading.after heading).up := by
  induction steps generalizing heading with
  | nil => exact Nat.le_refl _
  | cons step steps ih =>
      refine Nat.le_trans ?_ (ih (heading.after step))
      cases step with
      | up =>
          rw [Heading.after]
          split
          · exact Nat.le_succ _
          · exact Nat.le_refl _
      | _ => exact Nat.le_refl _

theorem below_after {heading : Heading} (step : Step) (deep : (heading.after step).up ≤ names.length) :
    Heading.after ⟨0, heading.below names⟩ step = ⟨0, (heading.after step).below names⟩ := by
  obtain ⟨up, into⟩ := heading
  cases step with
  | root => rfl
  | here => rfl
  | name spelt => simp [Heading.after, Heading.below]
  | up =>
      rcases List.eq_nil_or_concat into with rfl | ⟨front, last, rfl⟩
      · have level : up + 1 ≤ names.length := deep
        have taken : (names.take (names.length - up)).dropLast
            = names.take (names.length - (up + 1)) := by
          rw [List.dropLast_eq_take, List.length_take, List.take_take]
          congr 1
          omega
        have some' : names.take (names.length - up) ≠ [] := by
          intro none'
          have length := congrArg List.length none'
          rw [List.length_take, List.length_nil] at length
          omega
        simp [Heading.after, Heading.below, some', taken]
      · simp [Heading.after, Heading.below, ← List.append_assoc]

/-- In a directory that is deep enough, steps lead where their heading says. -/
theorem foldl_after_below (steps : List Step) (heading : Heading)
    (deep : (steps.foldl Heading.after heading).up ≤ names.length) :
    steps.foldl Heading.after ⟨0, heading.below names⟩
      = ⟨0, (steps.foldl Heading.after heading).below names⟩ := by
  induction steps generalizing heading with
  | nil => rfl
  | cons step steps ih =>
      have here := Nat.le_trans (up_foldl_after steps (heading.after step)) deep
      rw [List.foldl_cons, below_after step here, ih _ deep, List.foldl_cons]

theorem named_subset_steps (path : Path) : path.named ⊆ path.steps := by
  intro step member
  cases absolute : path.isAbsolute with
  | true => rw [steps_absolute absolute]; exact List.mem_cons_of_mem _ member
  | false =>
      rcases steps_relative absolute with same | same
      · rwa [same]
      · rw [same]; exact List.mem_cons_of_mem _ member

/-- Steps that their texts spell are names, but for `..`. -/
theorem names_of_spelt {steps : List Step} (spelt : ∀ step ∈ steps, step.Spelt)
    (noUp : .up ∉ steps) : ∃ names : List String, steps = names.map .name := by
  induction steps with
  | nil => exact ⟨[], rfl⟩
  | cons step steps ih =>
      obtain ⟨names, rfl⟩ := ih (fun other member => spelt other (List.mem_cons_of_mem _ member))
        fun member => noUp (List.mem_cons_of_mem _ member)
      cases step with
      | root => exact absurd (spelt .root List.mem_cons_self) not_spelt_root
      | here => exact absurd (spelt .here List.mem_cons_self) not_spelt_here
      | up => exact absurd List.mem_cons_self noUp
      | name first => exact ⟨first :: names, rfl⟩

theorem named_straight (straight : .up ∉ directory.steps) :
    ∃ names : List String, directory.named = names.map .name :=
  names_of_spelt (fun _ member => spelt_named member)
    fun member => straight (named_subset_steps directory member)

theorem heading_straight (straight : .up ∉ directory.steps) :
    directory.heading = ⟨0, directory.heading.into⟩ := by
  obtain ⟨names, same⟩ := named_straight straight
  rw [heading_eq, same, foldl_after_names]

theorem heading_join (straight : .up ∉ directory.steps) (relative : path.isAbsolute = false)
    (deep : path.climbs ≤ directory.depth) :
    (directory.join path).heading = ⟨0, path.heading.below directory.heading.into⟩ := by
  have joined : (directory.join path).heading = path.named.foldl Heading.after directory.heading := by
    rw [heading_eq, named_join relative, List.foldl_append, ← heading_eq]
  have start : directory.heading = ⟨0, Heading.below ⟨0, []⟩ directory.heading.into⟩ := by
    rw [heading_straight straight]
    simp [Heading.below]
  rw [climbs, heading_eq] at deep
  rw [joined, start, foldl_after_below _ _ deep, ← heading_eq, ← start]

/-- What an absolute path means is told by the names that it leads to, if it never leads up. -/
theorem normalizedSteps_level {names : List String} (absolute : path.isAbsolute = true)
    (leads : path.heading = ⟨0, names⟩) : path.normalizedSteps = .root :: names.map .name := by
  rw [normalizedSteps_eq, leads, start, if_pos absolute]
  simp [kept]

theorem below_inj {up other : Nat} {into : List String} (deep : up ≤ names.length)
    (deepOther : other ≤ names.length) :
    Heading.below ⟨up, into⟩ names = Heading.below ⟨other, into⟩ names ↔ up = other := by
  constructor
  · intro same
    have taken := congrArg List.length (List.append_cancel_right same)
    simp only [List.length_take] at taken
    omega
  · rintro rfl
    rfl

/-- From a directory, the normal form of a relative path leads to where the path does, as long as
that is at most one level up on its way. -/
theorem normalize_join_iff (absolute : directory.isAbsolute = true)
    (straight : .up ∉ directory.steps) (relative : path.isAbsolute = false)
    (deep : path.climbs ≤ directory.depth) :
    (directory.join path.normalize).normalize = (directory.join path).normalize ↔
      path.climbs ≤ 1 := by
  have relativeForm := (isAbsolute_normalize path).trans relative
  have fewer : path.climbs % 2 ≤ path.climbs := Nat.mod_le _ _
  have deepForm : path.normalize.climbs ≤ directory.depth := by
    rw [climbs, heading_normalize]
    exact Nat.le_trans fewer deep
  have rooted (other : Path) (beside : other.isAbsolute = false) :
      (directory.join other).isAbsolute = true := (isAbsolute_join beside).trans absolute
  have here := heading_join straight relative deep
  have there := heading_join straight relativeForm deepForm
  rw [heading_normalize] at there
  rw [normalize_eq_iff,
    normalizedSteps_level (rooted _ relative) here,
    normalizedSteps_level (rooted _ relativeForm) there,
    List.cons.injEq, List.map_inj_right fun _ _ => Step.name.inj]
  have counts := @below_inj directory.heading.into _ _ path.heading.into
    (Nat.le_trans fewer deep) deep
  rw [climbs] at counts ⊢
  constructor
  · rintro ⟨-, same⟩
    have := counts.mp same
    omega
  · intro low
    exact ⟨rfl, counts.mpr (Nat.mod_eq_of_lt (by omega))⟩

end Directory

section Places

variable {path : Path}

theorem level_iff_staysBelow (steps : List FileTree.Walk) (into : List String) :
    ((steps.filterMap Step.ofWalk?).foldl Heading.after ⟨0, into⟩).up = 0 ↔
      staysBelow into.length steps = true := by
  induction steps generalizing into with
  | nil => exact ⟨fun _ => rfl, fun _ => rfl⟩
  | cons step steps ih =>
      cases step with
      | stay => exact ih into
      | into name =>
          have further := ih (into ++ [name])
          rw [List.length_append, List.length_singleton] at further
          exact further
      | up =>
          rw [List.filterMap_cons_some (show Step.ofWalk? .up = some .up from rfl), List.foldl_cons,
            Heading.after]
          rcases List.eq_nil_or_concat into with rfl | ⟨front, last, rfl⟩
          · have above := up_foldl_after (steps.filterMap Step.ofWalk?) ⟨0 + 1, []⟩
            rw [if_pos rfl]
            constructor
            · intro level
              rw [level] at above
              exact absurd above (by decide)
            · intro stays
              cases stays
          · rw [if_neg (by simp), List.concat_eq_append, List.dropLast_concat, ih,
              List.length_append, List.length_singleton]
            rfl

theorem climbs_eq_zero_iff (path : Path) :
    path.climbs = 0 ↔ staysBelow 0 (FileTree.walk path) = true := by
  rw [climbs, heading_eq, named, filterMap_ofPiece?]
  exact level_iff_staysBelow (FileTree.walk path) []

/-- The normal form of a path that stays below the root is the path of the place that it leads to. -/
theorem normalize_level (absolute : path.isAbsolute = true) (level : path.climbs = 0) :
    path.normalize = FileTree.pathOf (FileTree.placeOf [] path) :=
  normalize_eq absolute ((climbs_eq_zero_iff path).mp level)

theorem plainPlace_placeOf {here : Location} (plain : PlainPlace here) :
    PlainPlace (FileTree.placeOf here path) := by
  rw [FileTree.placeOf, FileTree.origin]
  split
  · exact plain_apply .nil fun name => plain_of_walk
  · exact plain_apply plain fun name => plain_of_walk

end Places

/-- A normal form has no `.`, and `..` only at its front: one if the path leads an odd number of
levels up, and none otherwise. Later it means what the path meant wherever the path starts at the
root or leads at most one level up, and nowhere else. -/
theorem normalize_keeps_meaning (path : Path) :
    .here ∉ path.normalize.steps ∧
    (path.isAbsolute = true → (.up ∈ path.normalize.steps ↔ path.climbs % 2 = 1)) ∧
    (path.isAbsolute = false → ∃ names : List String,
      path.normalize.steps = List.replicate (path.climbs % 2) .up ++ names.map .name) ∧
    ∀ directory : Path, directory.isAbsolute = true → .up ∉ directory.steps →
      path.climbs ≤ directory.depth →
      ((directory.join path.normalize).normalize = (directory.join path).normalize ↔
        path.isAbsolute = true ∨ path.climbs ≤ 1) := by
  have steps := steps_normalize path
  refine ⟨?_, ?_, ?_, ?_⟩
  · rw [steps]
    intro member
    rcases List.mem_append.mp member with first | inside
    · rcases start_cases path with same | same <;> simp [same] at first
    · exact not_spelt_here (spelt_kept inside)
  · intro absolute
    rw [steps, start, if_pos absolute, kept, ← climbs]
    rcases Nat.mod_two_eq_zero_or_one path.climbs with even | odd
    · simp [even]
    · simp [odd]
  · intro relative
    rw [steps, start, if_neg (by simp [relative]), kept]
    exact ⟨path.heading.into, by simp [climbs]⟩
  · intro directory absolute straight deep
    cases rooted : path.isAbsolute with
    | true =>
        have joined (other : Path) (alone : other.isAbsolute = true) : directory.join other = other := by
          rw [join, if_pos alone]
        rw [joined _ ((isAbsolute_normalize path).trans rooted), joined _ rooted, normalize_normalize]
        simp
    | false => simpa using normalize_join_iff absolute straight rooted deep

/-- A path that leads one level up on its way and starts anywhere. -/
theorem normalize_keeps_meaning_beside :
    (⟨"/work//repo/"⟩ : Path).isAbsolute = true ∧ .up ∉ (⟨"/work//repo/"⟩ : Path).steps
      ∧ (⟨"./a/../../b/./c"⟩ : Path).climbs = 1 ∧ (⟨"/work//repo/"⟩ : Path).depth = 2
      ∧ (⟨"./a/../../b/./c"⟩ : Path).normalize = ⟨"../b/c"⟩
      ∧ ((⟨"/work//repo/"⟩ : Path).join (⟨"./a/../../b/./c"⟩ : Path).normalize).normalize
        = ((⟨"/work//repo/"⟩ : Path).join ⟨"./a/../../b/./c"⟩).normalize := by
  have facts : (⟨"/work//repo/"⟩ : Path).isAbsolute = true ∧ .up ∉ (⟨"/work//repo/"⟩ : Path).steps
      ∧ (⟨"./a/../../b/./c"⟩ : Path).climbs = 1 ∧ (⟨"/work//repo/"⟩ : Path).depth = 2
      ∧ (⟨"./a/../../b/./c"⟩ : Path).normalize = ⟨"../b/c"⟩ := by decide +kernel
  obtain ⟨absolute, straight, level, deep, form⟩ := facts
  obtain ⟨-, -, -, later⟩ := normalize_keeps_meaning ⟨"./a/../../b/./c"⟩
  refine ⟨absolute, straight, level, deep, form, ?_⟩
  exact (later ⟨"/work//repo/"⟩ absolute straight (by omega)).mpr (.inr (by omega))

/-- Two levels up from a directory is above it, but the normal form of `../..` stays there; and
right after the root `..` is kept. -/
theorem normalize_loses_levels :
    (⟨"../.."⟩ : Path).normalize = ⟨""⟩
      ∧ (⟨"/work/repo"⟩ : Path).isAbsolute = true ∧ .up ∉ (⟨"/work/repo"⟩ : Path).steps
      ∧ (⟨"../.."⟩ : Path).climbs ≤ (⟨"/work/repo"⟩ : Path).depth
      ∧ ((⟨"/work/repo"⟩ : Path).join (⟨"../.."⟩ : Path).normalize).normalize = ⟨"/work/repo"⟩
      ∧ ((⟨"/work/repo"⟩ : Path).join ⟨"../.."⟩).normalize = ⟨"/"⟩
      ∧ (⟨"/.."⟩ : Path).isAbsolute = true ∧ .up ∈ (⟨"/.."⟩ : Path).normalize.steps := by
  decide +kernel

end MonorepoCheck.Path
