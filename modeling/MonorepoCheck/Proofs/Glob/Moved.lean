import Mathlib.Data.List.Forall2
import MonorepoCheck.Proofs.Files.Moved
import MonorepoCheck.Proofs.Glob.Literal

/-!
Expanding one pattern below two roots of one tree. The paths that are found below one root are found
below the other, in the same order. Both expansions have rounds enough, since a step goes down no
further than the tree does.
-/
namespace MonorepoCheck.Glob

open FileTree MonorepoCheck.Path List

mutual

/-- The pieces below the root that steps look at from a path. -/
inductive Looks (tree : FileTree) (root : Location) :
    List StepPattern → List String → List String → Prop where
  | here {steps pieces} : Looks tree root steps pieces pieces
  | literal {step rest name pieces seen} : literal? step = some name →
      Looks tree root rest (pieces ++ [String.ofList name]) seen →
      Looks tree root (step :: rest) pieces seen
  | point {step rest name pieces seen} : literal? step = none → name ∈ pointSteps step →
      Looks tree root rest (pieces ++ [name]) seen → Looks tree root (step :: rest) pieces seen
  | child {step rest place name pieces seen} : literal? step = none →
      tree.locate [] (under root pieces) = .ok place →
      name ∈ (tree.children place).map Prod.fst →
      Matches tree root (step :: rest) (pieces ++ [name]) seen →
      Looks tree root (step :: rest) pieces seen

/-- The pieces that steps look at when the first of them is matched with the last name. -/
inductive Matches (tree : FileTree) (root : Location) :
    List StepPattern → List String → List String → Prop where
  | beside {step rest pieces seen} : isRecursive step = true →
      Matches tree root (rest.dropWhile isRecursive) pieces seen →
      Matches tree root (step :: rest) pieces seen
  | deeper {step rest pieces seen} : isRecursive step = true →
      Looks tree root (step :: rest.dropWhile isRecursive) pieces seen →
      Matches tree root (step :: rest) pieces seen
  | named {step rest pieces seen} : isRecursive step = false →
      (nameOf? (under root pieces)).any (accepts step) = true →
      Looks tree root rest pieces seen → Matches tree root (step :: rest) pieces seen

end

/-- Two paths that the same pieces lead to below two roots. -/
def Shifted (root target : Location) (path other : Path) : Prop :=
  ∃ pieces, Fits root target pieces ∧ path = under root pieces ∧ other = under target pieces

section Rounds

/-- How far down a tree goes. -/
def deepest (tree : FileTree) : Nat := (tree.entries.map fun entry => entry.1.length).foldl max 0

/-- Rounds that suffice for so many steps from a place so deep. -/
def need (tree : FileTree) (steps depth : Nat) : Nat :=
  2 * steps * (deepest tree + 2) + 2 * (deepest tree - depth) + 1

variable {tree : FileTree} {place : Location}

theorem le_deepest (standing : tree.entry? place ≠ none) : place.length ≤ deepest tree := by
  have bounds (lengths : List Nat) (start : Nat) :
      start ≤ lengths.foldl max start ∧ ∀ length ∈ lengths, length ≤ lengths.foldl max start := by
    induction lengths generalizing start with
    | nil => simp
    | cons length lengths ih =>
        obtain ⟨grows, above⟩ := ih (max start length)
        simp only [List.foldl_cons, List.mem_cons, forall_eq_or_imp]
        exact ⟨by omega, by omega, above⟩
  by_cases root : place = []
  · subst root
    exact Nat.zero_le _
  · obtain ⟨entry, found⟩ := Option.ne_none_iff_exists'.mp standing
    exact (bounds _ 0).2 _ (List.mem_map_of_mem (mem_of_entry root found))

theorem need_step (tree : FileTree) (steps depth other : Nat) :
    need tree steps other + 1 ≤ need tree (steps + 1) depth := by
  rw [need, need, show 2 * (steps + 1) = 2 * steps + 2 by omega, Nat.add_mul]
  omega

theorem need_mono (tree : FileTree) {steps more : Nat} (fewer : steps ≤ more) (depth : Nat) :
    need tree steps depth ≤ need tree more depth := by
  have scaled : 2 * steps * (deepest tree + 2) ≤ 2 * more * (deepest tree + 2) :=
    Nat.mul_le_mul_right _ (by omega)
  rw [need, need]
  omega

theorem need_deeper {steps depth : Nat} (within : depth + 1 ≤ deepest tree) :
    need tree steps (depth + 1) + 2 = need tree steps depth := by
  rw [need, need]
  omega

theorem need_rounds (tree : FileTree) (root : Location) (steps : List StepPattern) :
    need tree steps.length 0 + root.length ≤ rounds tree (root.map literalStep ++ steps) := by
  have long : 2 * (root.length + steps.length + 1) * (deepest tree + 2)
      = 2 * steps.length * (deepest tree + 2) + 2 * (deepest tree + 2)
        + root.length * (2 * (deepest tree + 2)) := by
    rw [show 2 * (root.length + steps.length + 1) = 2 * steps.length + 2 + root.length * 2 by omega,
      Nat.add_mul, Nat.add_mul, Nat.mul_assoc root.length]
  have front : root.length * 1 ≤ root.length * (2 * (deepest tree + 2)) :=
    Nat.mul_le_mul_left _ (by omega)
  rw [rounds, List.length_append, List.length_map, need]
  change _ ≤ 2 * (root.length + steps.length + 1) * (deepest tree + 2)
  omega

end Rounds

theorem forall₂_flatMap {α β γ : Type} {R : β → γ → Prop} {list : List α} {f : α → List β}
    {g : α → List γ} (each : ∀ a ∈ list, Forall₂ R (f a) (g a)) :
    Forall₂ R (list.flatMap f) (list.flatMap g) := by
  induction list with
  | nil => exact .nil
  | cons a rest ih =>
      rw [List.flatMap_cons, List.flatMap_cons]
      exact List.rel_append (each a List.mem_cons_self)
        (ih fun other member => each other (List.mem_cons_of_mem _ member))

theorem forall₂_guard {β γ : Type} {R : β → γ → Prop} {guard : Bool} {list : List β}
    {others : List γ} (each : guard = true → Forall₂ R list others) :
    Forall₂ R (if guard then list else []) (if guard then others else []) := by
  cases guard with
  | true => exact each rfl
  | false => exact .nil

section Expanding

variable {tree other : FileTree} {root target : Location}

/-- A step without wildcards is looked up. -/
theorem inside_literal {step : StepPattern} {rest : List StepPattern} {path : Path} {name : List Char}
    (fuel : Nat) (literal : literal? step = some name) :
    inside tree (fuel + 1) (step :: rest) path
      = if (if name = ['.'] ∨ name = ['.', '.'] then tree.isDirectoryAt [] path
          else tree.existsAt [] (path.join ⟨String.ofList name⟩)) then
          inside tree fuel rest (path.join ⟨String.ofList name⟩)
        else [] := by
  rw [inside, literal]

/-- A step with wildcards goes through what is in a directory. -/
theorem inside_wild {step : StepPattern} {rest : List StepPattern} {path : Path} (fuel : Nat)
    (wild : literal? step = none) :
    inside tree (fuel + 1) (step :: rest) path
      = if tree.isDirectoryAt [] path then
          (pointSteps step).flatMap (fun name => inside tree fuel rest (path.join ⟨name⟩))
            ++ ((tree.children (placeOf [] path)).map Prod.fst).flatMap fun name =>
              matching tree fuel (step :: rest) (path.join ⟨name⟩)
        else [] := by
  rw [inside, wild, List.flatMap_map]
  dsimp only
  by_cases directory : tree.isDirectoryAt [] path = true
  · have found := isDirectoryAt_iff.mp directory
    rw [if_pos directory, found, (find_directory found).1]
  · rw [if_neg directory]
    split
    · rename_i found _
      exact absurd (isDirectoryAt_iff.mpr found) directory
    · rfl

theorem matching_recursive {step : StepPattern} {rest : List StepPattern} {path : Path}
    (fuel : Nat) (recursive : isRecursive step = true) :
    matching tree (fuel + 1) (step :: rest) path
      = (if (rest.dropWhile isRecursive).isEmpty then
          if tree.isDirectoryAt [] path then [path] else []
        else matching tree fuel (rest.dropWhile isRecursive) path)
        ++ inside tree fuel (step :: rest.dropWhile isRecursive) path := by
  rw [matching, if_pos recursive]

theorem matching_named {step : StepPattern} {rest : List StepPattern} {path : Path}
    (fuel : Nat) (single : isRecursive step = false) :
    matching tree (fuel + 1) (step :: rest) path
      = if (nameOf? path).any (accepts step) then inside tree fuel rest path else [] := by
  rw [matching, if_neg (by simp [single])]

theorem placeOf_under {pieces : List String} (rooted : Rooted tree root)
    (fits : Relative pieces) (stays : staysBelow 0 (stepsOf pieces) = true) :
    placeOf [] (under root pieces) = root ++ spot pieces := by
  have moved := @foldl_apply [] (stepsOf pieces) root stays
  rw [List.append_nil] at moved
  rw [placeOf, origin, if_pos (isAbsolute_under root fits), walk_under rooted.plain fits,
    List.foldl_append, foldl_into, List.nil_append, moved]
  rfl

section OneRound

variable {step : StepPattern} {rest : List StepPattern} {fuel more : Nat}

/-- A path leads to the same paths below both roots, as far as those after it do. -/
theorem inside_moved (moved : Moved tree other root target) {pieces : List String}
    (looks : ∀ seen, Looks tree root (step :: rest) pieces seen → Fits root target seen)
    (further : ∀ next,
      (∀ seen, Looks tree root rest next seen → Looks tree root (step :: rest) pieces seen) →
      Forall₂ (Shifted root target) (inside tree fuel rest (under root next))
        (inside other more rest (under target next)))
    (children : ∀ name, name ∈ (tree.children (root ++ spot pieces)).map Prod.fst →
      (∀ seen, Matches tree root (step :: rest) (pieces ++ [name]) seen →
        Looks tree root (step :: rest) pieces seen) →
      Forall₂ (Shifted root target)
        (matching tree fuel (step :: rest) (under root (pieces ++ [name])))
        (matching other more (step :: rest) (under target (pieces ++ [name])))) :
    Forall₂ (Shifted root target) (inside tree (fuel + 1) (step :: rest) (under root pieces))
      (inside other (more + 1) (step :: rest) (under target pieces)) := by
  have fits := looks pieces .here
  cases literal : literal? step with
  | some name =>
      have next := looks (pieces ++ [String.ofList name]) (.literal literal .here)
      rw [inside_literal fuel literal, inside_literal more literal, ← under_snoc, ← under_snoc,
        moved.isDirectoryAt_moved fits, moved.existsAt_moved next]
      apply forall₂_guard
      intro _
      exact further _ fun seen later => .literal literal later
  | none =>
      rw [inside_wild fuel literal, inside_wild more literal, moved.isDirectoryAt_moved fits]
      apply forall₂_guard
      intro directory
      rw [← moved.isDirectoryAt_moved fits] at directory
      have located := (find_directory (isDirectoryAt_iff.mp directory)).1
      rw [placeOf_under moved.here fits.relative fits.below] at located ⊢
      rw [placeOf_under moved.there fits.relative fits.below, ← moved.children_moved]
      apply List.rel_append
      · apply forall₂_flatMap
        intro name point
        rw [← under_snoc, ← under_snoc]
        exact further _ fun seen later => .point literal point later
      · apply forall₂_flatMap
        intro name child
        rw [← under_snoc, ← under_snoc]
        exact children name child fun seen later => .child literal located child later

/-- A name is matched alike below both roots, as far as what comes after it is. -/
theorem matching_moved (moved : Moved tree other root target) {front : List String} {name : String}
    (plain : PlainName name.toList)
    (matches' : ∀ seen, Matches tree root (step :: rest) (front ++ [name]) seen →
      Fits root target seen)
    (beside : isRecursive step = true → Forall₂ (Shifted root target)
      (matching tree fuel (rest.dropWhile isRecursive) (under root (front ++ [name])))
      (matching other more (rest.dropWhile isRecursive) (under target (front ++ [name]))))
    (deeper : isRecursive step = true → Forall₂ (Shifted root target)
      (inside tree fuel (step :: rest.dropWhile isRecursive) (under root (front ++ [name])))
      (inside other more (step :: rest.dropWhile isRecursive) (under target (front ++ [name]))))
    (further : isRecursive step = false →
      (nameOf? (under root (front ++ [name]))).any (accepts step) = true →
      Forall₂ (Shifted root target) (inside tree fuel rest (under root (front ++ [name])))
        (inside other more rest (under target (front ++ [name])))) :
    Forall₂ (Shifted root target)
      (matching tree (fuel + 1) (step :: rest) (under root (front ++ [name])))
      (matching other (more + 1) (step :: rest) (under target (front ++ [name]))) := by
  cases recursive : isRecursive step with
  | true =>
      have fits := matches' _ (.deeper recursive .here)
      rw [matching_recursive fuel recursive, matching_recursive more recursive,
        moved.isDirectoryAt_moved fits]
      refine List.rel_append ?_ (deeper recursive)
      split
      · apply forall₂_guard
        intro _
        exact .cons ⟨_, fits, rfl, rfl⟩ .nil
      · exact beside recursive
  | false =>
      have named : nameOf? (under target (front ++ [name])) = nameOf? (under root (front ++ [name])) := by
        rw [under_snoc, under_snoc, nameOf?, nameOf?, fileName?_join plain, fileName?_join plain]
      rw [matching_named fuel recursive, matching_named more recursive, named]
      apply forall₂_guard
      exact further recursive

end OneRound

/-- What an expansion finds below one root it finds below the other. -/
theorem expand_moved (moved : Moved tree other root target) (fuel : Nat) :
    (∀ more steps pieces, (∀ seen, Looks tree root steps pieces seen → Fits root target seen) →
      need tree steps.length (spot pieces).length ≤ fuel →
      need other steps.length (spot pieces).length ≤ more →
      Forall₂ (Shifted root target) (inside tree fuel steps (under root pieces))
        (inside other more steps (under target pieces)))
    ∧ ∀ more steps front name, PlainName name.toList →
      (∀ seen, Matches tree root steps (front ++ [name]) seen → Fits root target seen) →
      need tree steps.length (spot (front ++ [name])).length + 1 ≤ fuel →
      need other steps.length (spot (front ++ [name])).length + 1 ≤ more →
      Forall₂ (Shifted root target) (matching tree fuel steps (under root (front ++ [name])))
        (matching other more steps (under target (front ++ [name]))) := by
  induction fuel with
  | zero =>
      constructor
      · intro more steps pieces looks enough
        rw [need] at enough
        omega
      · intro more steps front name plain matches' enough
        omega
  | succ fuel ih =>
      obtain ⟨ihInside, ihMatching⟩ := ih
      constructor
      · intro more steps pieces looks enough enough'
        obtain ⟨more, rfl⟩ : ∃ k, more = k + 1 := ⟨more - 1, by rw [need] at enough'; omega⟩
        cases steps with
        | nil => exact .cons ⟨pieces, looks pieces .here, rfl, rfl⟩ .nil
        | cons step rest =>
            rw [List.length_cons] at enough enough'
            apply inside_moved moved looks
            · intro next later
              have here := need_step tree rest.length (spot pieces).length (spot next).length
              have there := need_step other rest.length (spot pieces).length (spot next).length
              exact ihInside more rest next (fun seen inside => looks seen (later seen inside))
                (by omega) (by omega)
            · intro name child later
              have childThere := child
              rw [moved.children_moved] at childThere
              have plain := moved.here.plain_child child
              have below : (spot (pieces ++ [name])).length = (spot pieces).length + 1 := by
                rw [spot_snoc_plain plain, List.length_append, List.length_singleton]
              -- what is in a directory is one step further down in either tree
              have depth := le_deepest (mem_children_iff.mp child)
              have depthThere := le_deepest (mem_children_iff.mp childThere)
              rw [List.length_append, List.length_append, List.length_singleton] at depth depthThere
              have here := @need_deeper tree (rest.length + 1) (spot pieces).length (by omega)
              have there := @need_deeper other (rest.length + 1) (spot pieces).length (by omega)
              exact ihMatching more (step :: rest) pieces name plain
                (fun seen inside => looks seen (later seen inside))
                (by rw [below, List.length_cons]; omega) (by rw [below, List.length_cons]; omega)
      · intro more steps front name plain matches' enough enough'
        obtain ⟨more, rfl⟩ : ∃ k, more = k + 1 := ⟨more - 1, by omega⟩
        cases steps with
        | nil => exact .nil
        | cons step rest =>
            rw [List.length_cons] at enough enough'
            have shorter := (List.dropWhile_suffix isRecursive (l := rest)).length_le
            have again : (step :: rest.dropWhile isRecursive).length ≤ rest.length + 1 := by
              rw [List.length_cons]
              omega
            have fewer (start : FileTree) :=
              need_step start rest.length (spot (front ++ [name])).length
                (spot (front ++ [name])).length
            have here := fewer tree
            have there := fewer other
            apply matching_moved moved plain matches'
            case beside =>
              intro recursive
              have dropped := need_mono tree shorter (spot (front ++ [name])).length
              have droppedThere := need_mono other shorter (spot (front ++ [name])).length
              exact ihMatching more _ front name plain
                (fun seen later => matches' seen (.beside recursive later)) (by omega) (by omega)
            case deeper =>
              intro recursive
              have dropped := need_mono tree again (spot (front ++ [name])).length
              have droppedThere := need_mono other again (spot (front ++ [name])).length
              exact ihInside more _ _ (fun seen later => matches' seen (.deeper recursive later))
                (by omega) (by omega)
            case further =>
              intro recursive accepted
              exact ihInside more rest _
                (fun seen later => matches' seen (.named recursive accepted later))
                (by omega) (by omega)

/-- The names of the root are followed one by one, each in a round of its own. -/
theorem inside_root (rooted : Rooted tree root) (fuel : Nat) (steps : List StepPattern) :
    inside tree (fuel + root.length) (root.map literalStep ++ steps) ⟨"/"⟩
      = inside tree fuel steps (pathOf root) := by
  induction root using List.reverseRecOn generalizing fuel steps with
  | nil => rfl
  | append_singleton names name ih =>
      have own : PlainName name.toList := rooted.plain name (by simp)
      have literal : literal? (literalStep name) = some name.toList := literal?_literals name.toList
      have next : pathOf (names ++ [name]) = (pathOf names).join ⟨name⟩ :=
        pathOf_snoc rooted.plain.left (relative_of_noSlash own.noSlash)
      have standing : tree.existsAt [] ((pathOf names).join ⟨name⟩) = true := by
        rw [← next, existsAt_eq, isDirectoryAt_iff.mp rooted.directory]
        rfl
      have parts : (names ++ [name]).map literalStep ++ steps
          = names.map literalStep ++ (literalStep name :: steps) := by simp
      have size : fuel + (names ++ [name]).length = fuel + 1 + names.length := by
        rw [List.length_append, List.length_singleton]
        omega
      have named : ¬(name.toList = ['.'] ∨ name.toList = ['.', '.']) := by
        rintro (here | up)
        · exact own.notHere here
        · exact own.notUp up
      simp only [parts, size, ih rooted.front, inside_literal fuel literal, String.ofList_toList,
        named, if_false, standing, if_true, next]

/-- A pattern that stays below two literal roots of one tree matches the same directories in both,
in the same order. -/
theorem directories_moved (moved : Moved tree other root target) (literal : LiteralPlace root)
    (literalThere : LiteralPlace target) {inner : List Char}
    (relative : isAbsolute ⟨String.ofList inner⟩ = false)
    (looks : ∀ steps, steps? ('/' :: inner) = some steps →
      ∀ seen, Looks tree root steps [] seen → Fits root target seen) :
    Forall₂ (Shifted root target) (directories tree ((pathOf root).join ⟨String.ofList inner⟩))
      (directories other ((pathOf target).join ⟨String.ofList inner⟩)) := by
  rw [directories, directories, steps?_root moved.here.plain literal inner relative,
    steps?_root moved.there.plain literalThere inner relative]
  cases read : steps? ('/' :: inner) with
  | none => exact .nil
  | some steps =>
      obtain ⟨fuel, here⟩ := Nat.exists_eq_add_of_le' (need_rounds tree root steps)
      obtain ⟨more, there⟩ := Nat.exists_eq_add_of_le' (need_rounds other target steps)
      rw [← Nat.add_assoc] at here there
      simp only [Option.map_some]
      rw [here, there, inside_root moved.here, inside_root moved.there]
      have found := (expand_moved moved _).1 _ steps [] (looks steps read)
        (Nat.le_add_left _ fuel) (Nat.le_add_left _ more)
      refine List.rel_filter ?_ found
      rintro path twin ⟨pieces, fits, rfl, rfl⟩
      simp only [moved.isDirectoryAt_moved fits]

end Expanding

end MonorepoCheck.Glob
