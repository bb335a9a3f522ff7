import Mathlib.Algebra.Ring.Nat
import Mathlib.Data.List.Induction
import MonorepoCheck.Path.Relative
import MonorepoCheck.Proofs.Path.Joining

/-!
Paths below a root. What such a path means depends on the root only as far as it starts there: its
steps, its normal form and its name as seen from the root are told by the pieces joined to the root.
-/
namespace MonorepoCheck

open FileTree

/-- A place that a path can name. -/
def PlainPlace (place : Location) : Prop := ∀ name ∈ place, PlainName name.toList

instance (place : Location) : Decidable (PlainPlace place) :=
  inferInstanceAs (Decidable (∀ name ∈ place, PlainName name.toList))

namespace PlainPlace

variable {place rest : Location} {name : String}

theorem nil : PlainPlace [] := fun _ member => absurd member List.not_mem_nil

theorem append (plain : PlainPlace place) (more : PlainPlace rest) : PlainPlace (place ++ rest) := by
  intro name member
  rcases List.mem_append.mp member with first | second
  · exact plain name first
  · exact more name second

theorem left (plain : PlainPlace (place ++ rest)) : PlainPlace place :=
  fun name member => plain name (List.mem_append_left _ member)

theorem singleton (plain : PlainName name.toList) : PlainPlace [name] :=
  fun _ member => List.mem_singleton.mp member ▸ plain

theorem whole (plain : PlainPlace place) : ∀ piece ∈ place.map String.toList, '/' ∉ piece := by
  intro piece member
  obtain ⟨name, listed, rfl⟩ := List.mem_map.mp member
  exact (plain name listed).noSlash

end PlainPlace

namespace Text

theorem join_snoc (separator : List Char) {pieces : List (List Char)} (some' : pieces ≠ [])
    (last : List Char) :
    join separator (pieces ++ [last]) = join separator pieces ++ (separator ++ last) := by
  induction pieces with
  | nil => exact absurd rfl some'
  | cons first rest ih =>
      cases rest with
      | nil => rw [List.cons_append, List.nil_append, join_cons_cons]; simp [join]
      | cons second rest =>
          rw [List.cons_append, List.cons_append, join_cons_cons, join_cons_cons,
            ← List.cons_append, ih (List.cons_ne_nil second rest)]
          simp

end Text

namespace Path

variable {path directory : Path} {name : String} {root place rest : Location}

theorem pathOf_text (place : Location) :
    (pathOf place).text.toList = '/' :: Text.join ['/'] (place.map String.toList) := by
  simp [pathOf, Text.joinText]

/-- No name of a place is cut short in its path. -/
theorem size_pathOf (place : Location) :
    (place.map String.utf8ByteSize).sum ≤ (pathOf place).text.utf8ByteSize := by
  have joined : (place.map String.utf8ByteSize).sum ≤ (Text.joinText "/" place).utf8ByteSize := by
    induction place with
    | nil => exact Nat.zero_le _
    | cons first rest ih =>
        cases rest with
        | nil => simp [Text.joinText, Text.join]
        | cons second rest =>
            have text : Text.joinText "/" (first :: second :: rest)
                = first ++ ("/" ++ Text.joinText "/" (second :: rest)) := by
              rw [← String.toList_inj]
              simp [Text.joinText, Text.join_cons_cons]
            rw [text, String.utf8ByteSize_append, String.utf8ByteSize_append, List.map_cons,
              List.sum_cons]
            omega
  rw [pathOf, String.utf8ByteSize_append]
  omega

theorem isAbsolute_pathOf (place : Location) : (pathOf place).isAbsolute = true := by
  rw [isAbsolute, pathOf_text]
  rfl

theorem front_pathOf (plain : PlainPlace place) :
    (pathOf place).front
      = if place = [] then ['/'] else (pathOf place).text.toList ++ ['/'] := by
  rcases List.eq_nil_or_concat place with rfl | ⟨before, last, rfl⟩
  · rfl
  · have ended : (pathOf (before ++ [last])).text.toList.getLast? ≠ some '/' := by
      have own := plain last (by simp)
      obtain ⟨c, inside⟩ : ∃ c, last.toList.getLast? = some c :=
        ⟨_, List.getLast?_eq_some_getLast own.nonempty⟩
      have other : c ≠ '/' := fun same => own.noSlash (same ▸ List.mem_of_getLast? inside)
      have ending : ∃ front, (pathOf (before ++ [last])).text.toList = front ++ last.toList := by
        rw [pathOf_text, List.map_append, List.map_cons, List.map_nil]
        by_cases none' : before = []
        · subst none'
          exact ⟨['/'], by simp [Text.join]⟩
        · rw [Text.join_snoc _ (by simpa using none')]
          exact ⟨'/' :: (Text.join ['/'] (before.map String.toList) ++ ['/']), by simp⟩
      obtain ⟨front, text⟩ := ending
      rw [text, List.getLast?_append, inside]
      simpa using other
    have some' : (pathOf (before ++ [last])).text ≠ "" := by
      intro none'
      have text := pathOf_text (before ++ [last])
      simp [none'] at text
    rw [front, if_neg (by simpa [some'] using ended), if_neg (by simp)]

theorem pathOf_snoc (plain : PlainPlace place) (relative : isAbsolute ⟨name⟩ = false) :
    pathOf (place ++ [name]) = (pathOf place).join ⟨name⟩ := by
  have texts : (pathOf (place ++ [name])).text = ((pathOf place).join ⟨name⟩).text := by
    rw [← String.toList_inj, join_text relative, front_pathOf plain, pathOf_text, List.map_append]
    split
    · rename_i none'
      subst none'
      simp [Text.join]
    · rename_i some'
      rw [List.map_cons, List.map_nil, Text.join_snoc _ (by simpa using some'), pathOf_text]
      simp
  exact congrArg Path.mk texts

theorem walk_pathOf (plain : PlainPlace place) : walk (pathOf place) = place.map .into := by
  induction place using List.reverseRecOn with
  | nil => rfl
  | append_singleton front name ih =>
      have own : PlainName name.toList := plain name (by simp)
      have relative := relative_of_noSlash own.noSlash
      rw [pathOf_snoc plain.left relative, walk_join relative, ih plain.left, walk_plain own,
        List.map_append]
      rfl

/-- The path that joining pieces to the path of a place makes. -/
def under (root : Location) (pieces : List String) : Path :=
  pieces.foldl (fun path piece => path.join ⟨piece⟩) (pathOf root)

/-- The steps that pieces lead through from wherever they are joined to. -/
def stepsOf (pieces : List String) : List Walk := pieces.flatMap fun piece => walk ⟨piece⟩

/-- Whether no piece starts at the root. -/
def Relative (pieces : List String) : Prop := ∀ piece ∈ pieces, isAbsolute ⟨piece⟩ = false

instance (pieces : List String) : Decidable (Relative pieces) :=
  inferInstanceAs (Decidable (∀ piece ∈ pieces, isAbsolute ⟨piece⟩ = false))

section Under

variable {pieces : List String} {piece : String}

theorem Relative.left {front : List String} (relative : Relative (front ++ pieces)) : Relative front :=
  fun other member => relative other (List.mem_append_left _ member)

theorem under_one (root : Location) (piece : String) :
    under root [piece] = (pathOf root).join ⟨piece⟩ := rfl

theorem under_snoc (root : Location) (pieces : List String) (piece : String) :
    under root (pieces ++ [piece]) = (under root pieces).join ⟨piece⟩ := by
  rw [under, List.foldl_append]
  rfl

theorem stepsOf_snoc (pieces : List String) (piece : String) :
    stepsOf (pieces ++ [piece]) = stepsOf pieces ++ walk ⟨piece⟩ := by
  rw [stepsOf, List.flatMap_append]
  simp [stepsOf]

theorem isAbsolute_under (root : Location) (relative : Relative pieces) :
    (under root pieces).isAbsolute = true := by
  induction pieces using List.reverseRecOn with
  | nil => exact isAbsolute_pathOf root
  | append_singleton front piece ih =>
      rw [under_snoc, isAbsolute_join (relative piece (by simp))]
      exact ih relative.left

theorem walk_under (plain : PlainPlace root) (relative : Relative pieces) :
    walk (under root pieces) = root.map .into ++ stepsOf pieces := by
  induction pieces using List.reverseRecOn with
  | nil => rw [under, List.foldl_nil, walk_pathOf plain]; simp [stepsOf]
  | append_singleton front piece ih =>
      rw [under_snoc, walk_join (relative piece (by simp)), stepsOf_snoc, ← List.append_assoc]
      rw [ih relative.left]

/-- Joining the names of a place one by one makes the path of the place below. -/
theorem pathOf_append (plain : PlainPlace (root ++ rest)) : pathOf (root ++ rest) = under root rest := by
  induction rest using List.reverseRecOn with
  | nil => rw [List.append_nil]; rfl
  | append_singleton front name ih =>
      rw [← List.append_assoc] at plain ⊢
      have own : PlainName name.toList := plain name (by simp)
      rw [pathOf_snoc plain.left (relative_of_noSlash own.noSlash), ih plain.left, under_snoc]

theorem endsInSeparator_join (absolute : directory.isAbsolute = true) (piece : String)
    (relative : isAbsolute ⟨piece⟩ = false) :
    endsInSeparator (directory.join ⟨piece⟩) = (piece.toList.getLast?.getD '/' == '/') := by
  rw [endsInSeparator, join_text relative, List.getLast?_append]
  cases last : piece.toList.getLast? with
  | some c => simp
  | none =>
      rw [Option.none_or, front]
      have some' : directory.text ≠ "" := by
        intro none'
        exact nonempty_of_absolute absolute (by simp [none'])
      by_cases closed : directory.text.toList.getLast? = some '/'
      · simp [closed]
      · rw [if_neg (by simpa [some'] using closed)]
        simp

/-- How a path ends is told by the last piece, if there is one. -/
theorem endsInSeparator_under (relative : Relative pieces) (some' : pieces ≠ [])
    (target : Location) :
    endsInSeparator (under root pieces) = endsInSeparator (under target pieces) := by
  rcases List.eq_nil_or_concat pieces with none' | ⟨before, piece, rfl⟩
  · exact absurd none' some'
  · rw [List.concat_eq_append] at relative ⊢
    have own := relative piece (by simp)
    rw [under_snoc, under_snoc, endsInSeparator_join (isAbsolute_under _ relative.left) _ own,
      endsInSeparator_join (isAbsolute_under _ relative.left) _ own]

theorem contains_join (directory : Path) (relative : isAbsolute ⟨piece⟩ = false) {c : Char}
    (other : c ≠ '/') :
    (directory.join ⟨piece⟩).text.toList.contains c
      = (directory.text.toList.contains c || piece.toList.contains c) := by
  rw [join_text relative, front]
  split
  · simp
  · simp [other]

theorem size_join (directory : Path) (relative : isAbsolute ⟨piece⟩ = false) :
    directory.text.utf8ByteSize ≤ (directory.join ⟨piece⟩).text.utf8ByteSize := by
  rw [join, if_neg (by simp [relative])]
  split
  · rw [String.utf8ByteSize_append]
    omega
  · rw [String.utf8ByteSize_append, String.utf8ByteSize_append]
    omega

end Under

/-- Whether steps from a place so deep never lead above the root. -/
def staysBelow : Nat → List Walk → Bool
  | _, [] => true
  | depth, .stay :: steps => staysBelow depth steps
  | 0, .up :: _ => false
  | depth + 1, .up :: steps => staysBelow depth steps
  | depth, .into _ :: steps => staysBelow (depth + 1) steps

section Resolving

variable {pieces : List String} {steps : List Walk}

theorem staysBelow_into (depth : Nat) (place : Location) (steps : List Walk) :
    staysBelow depth (place.map .into ++ steps) = staysBelow (depth + place.length) steps := by
  induction place generalizing depth with
  | nil => rfl
  | cons name rest ih =>
      rw [List.map_cons, List.cons_append, staysBelow, ih, List.length_cons]
      congr 1
      omega

theorem staysBelow_mono {depth deeper : Nat} (below : depth ≤ deeper)
    (stays : staysBelow depth steps = true) : staysBelow deeper steps = true := by
  induction steps generalizing depth deeper with
  | nil => rfl
  | cons step steps ih =>
      cases step with
      | stay => exact @ih depth deeper below stays
      | into name => exact @ih (depth + 1) (deeper + 1) (by omega) stays
      | up =>
          cases depth with
          | zero => cases stays
          | succ depth =>
              obtain ⟨more, rfl⟩ : ∃ more, deeper = more + 1 := ⟨deeper - 1, by omega⟩
              exact @ih depth more (by omega) stays

/-- Steps that stay below the root lead to the same place below it, whatever the root is. -/
theorem foldl_apply (root : Location) (stays : staysBelow place.length steps = true) :
    steps.foldl Walk.apply (root ++ place) = root ++ steps.foldl Walk.apply place := by
  induction steps generalizing place with
  | nil => rfl
  | cons step steps ih =>
      cases step with
      | stay => exact @ih place stays
      | into name =>
          have further : staysBelow (place ++ [name]).length steps = true := by
            rw [List.length_append]
            exact stays
          have moved := ih further
          rw [← List.append_assoc] at moved
          exact moved
      | up =>
          rcases List.eq_nil_or_concat place with rfl | ⟨front, last, rfl⟩
          · cases stays
          · rw [List.concat_eq_append] at stays ⊢
            have further : staysBelow front.length steps = true := by
              rw [List.length_append] at stays
              exact stays
            have moved := ih further
            rw [List.foldl_cons, List.foldl_cons, Walk.apply, Walk.apply, ← List.append_assoc,
              List.dropLast_concat, List.dropLast_concat]
            exact moved

theorem foldl_into (place start : Location) :
    (place.map Walk.into).foldl Walk.apply start = start ++ place := by
  induction place generalizing start with
  | nil => simp
  | cons name place ih => rw [List.map_cons, List.foldl_cons, ih]; simp [Walk.apply]

theorem plain_apply (plain : PlainPlace place)
    (names : ∀ name, .into name ∈ steps → PlainName name.toList) :
    PlainPlace (steps.foldl Walk.apply place) := by
  induction steps generalizing place with
  | nil => exact plain
  | cons step steps ih =>
      have later : ∀ name, .into name ∈ steps → PlainName name.toList :=
        fun name member => names name (List.mem_cons_of_mem _ member)
      cases step with
      | stay => exact ih plain later
      | up =>
          exact ih (fun name member => plain name ((List.dropLast_sublist place).subset member)) later
      | into name => exact ih (plain.append (.singleton (names name List.mem_cons_self))) later

/-- The names that a path leads into are plain. -/
theorem plain_of_walk (member : .into name ∈ walk path) : PlainName name.toList := by
  obtain ⟨piece, listed, reads⟩ := List.mem_filterMap.mp member
  rw [Walk.ofPiece?] at reads
  split at reads
  · cases reads
  · rename_i some'
    split at reads
    · cases reads
    · rename_i notHere
      split at reads
      · cases reads
      · rename_i notUp
        obtain rfl := Walk.into.inj (Option.some.inj reads)
        rw [String.toList_ofList]
        exact ⟨Text.noSeparator_of_splitOn listed, some', notHere, notUp⟩

/-- The step of a path that stands for a walked one; standing still is none. -/
def Step.ofWalk? : Walk → Option Step
  | .stay => none
  | .up => some .up
  | .into name => some (.name name)

theorem filterMap_ofPiece? (pieces : List (List Char)) :
    pieces.filterMap Step.ofPiece? = (pieces.filterMap Walk.ofPiece?).filterMap Step.ofWalk? := by
  have each (piece : List Char) :
      Step.ofPiece? piece = (Walk.ofPiece? piece).bind Step.ofWalk? := by
    rw [Step.ofPiece?, Walk.ofPiece?]
    by_cases empty : piece = []
    · simp [empty]
    · by_cases here : piece = ['.']
      · simp [here, Step.ofWalk?]
      · by_cases up : piece = ['.', '.']
        · simp [up, Step.ofWalk?]
        · simp [empty, here, up, Step.ofWalk?]
  rw [List.filterMap_filterMap, funext each]

/-- Lexical resolution goes the same way as the steps of a walk, as long as it stays below. -/
theorem foldl_resolve (steps : List Walk) (stays : staysBelow place.length steps = true) :
    (steps.filterMap Step.ofWalk?).foldl Step.resolve (.root :: place.map .name)
      = .root :: (steps.foldl Walk.apply place).map .name := by
  induction steps generalizing place with
  | nil => rfl
  | cons step steps ih =>
      cases step with
      | stay => exact ih stays
      | into name =>
          have further : staysBelow (place ++ [name]).length steps = true := by
            rw [List.length_append]
            exact stays
          have moved := ih further
          rw [List.map_append] at moved
          exact moved
      | up =>
          rcases List.eq_nil_or_concat place with rfl | ⟨front, last, rfl⟩
          · cases stays
          · rw [List.concat_eq_append] at stays ⊢
            have further : staysBelow front.length steps = true := by
              rw [List.length_append] at stays
              exact stays
            have back : Step.resolve (.root :: (front ++ [last]).map .name) .up
                = .root :: front.map .name := by
              have last' : (Step.root :: (front ++ [last]).map .name).getLast?
                  = some (.name last) := by
                simp [List.getLast?_cons]
              rw [Step.resolve, last', List.map_append, ← List.cons_append]
              exact List.dropLast_concat
            have moved := ih further
            rw [List.filterMap_cons_some (show Step.ofWalk? .up = some .up from rfl),
              List.foldl_cons, List.foldl_cons, back, Walk.apply, List.dropLast_concat]
            exact moved

theorem ofSteps_names (plain : PlainPlace place) :
    ofSteps (.root :: place.map .name) = pathOf place := by
  have parts := @pathOf_append [] place plain
  rw [List.nil_append] at parts
  rw [parts, ofSteps, List.foldl_cons, List.foldl_map]
  rfl

/-- Normalizing an absolute path names the place that its steps lead to. -/
theorem normalize_eq (absolute : path.isAbsolute = true) (stays : staysBelow 0 (walk path) = true) :
    path.normalize = pathOf (placeOf [] path) := by
  have start : placeOf [] path = (walk path).foldl Walk.apply [] := by
    rw [placeOf, origin, if_pos absolute]
  have plain : PlainPlace (placeOf [] path) := by
    rw [start]
    exact plain_apply .nil fun name => plain_of_walk
  have resolved : path.normalizedSteps = .root :: (placeOf [] path).map .name := by
    rw [normalizedSteps, Path.steps, if_pos absolute, List.foldl_cons, start, filterMap_ofPiece?]
    exact @foldl_resolve [] (walk path) stays
  rw [normalize, resolved, ofSteps_names plain]

theorem steps_pathOf (plain : PlainPlace place) :
    (pathOf place).steps = .root :: place.map .name := by
  have named (pieces : List (List Char)) (names : ∀ piece ∈ pieces, PlainName piece) :
      pieces.filterMap Step.ofPiece? = pieces.map fun piece => .name (String.ofList piece) := by
    induction pieces with
    | nil => rfl
    | cons piece pieces ih =>
        have own := names piece List.mem_cons_self
        have reads : Step.ofPiece? piece = some (.name (String.ofList piece)) := by
          simp [Step.ofPiece?, own.nonempty, own.notHere, own.notUp]
        rw [List.filterMap_cons_some reads, List.map_cons,
          ih fun other member => names other (List.mem_cons_of_mem _ member)]
  rw [Path.steps, if_pos (isAbsolute_pathOf place), pathOf_text]
  by_cases none' : place = []
  · subst none'
    rfl
  · have split' := Text.splitOn_join (by simpa using none') plain.whole
    have first := Text.splitOn_append '/' [] (Text.join ['/'] (place.map String.toList))
    rw [List.nil_append] at first
    have names : ∀ piece ∈ place.map String.toList, PlainName piece := by
      intro piece member
      obtain ⟨name, listed, rfl⟩ := List.mem_map.mp member
      exact plain name listed
    rw [first, split', List.filterMap_append, named _ names, List.map_map]
    simp [Text.splitOn, Step.ofPiece?, Function.comp_def]

theorem stepsBetween_front (front rest : List Step) :
    stepsBetween true (front ++ rest) front = some rest := by
  induction front with
  | nil => cases rest <;> rfl
  | cons step front ih =>
      rw [List.cons_append, stepsBetween]
      simpa using ih

/-- How a place below a root is called as seen from the root. -/
def nameBelow (rest : Location) : String :=
  let name := Text.joinText "/" rest
  if name.isEmpty then "." else name

theorem placeOf_pathOf (plain : PlainPlace place) : placeOf [] (pathOf place) = place := by
  rw [placeOf, origin, if_pos (isAbsolute_pathOf place), walk_pathOf plain, foldl_into,
    List.nil_append]

theorem normalize_pathOf (plain : PlainPlace place) : (pathOf place).normalize = pathOf place := by
  have stays : staysBelow 0 (walk (pathOf place)) = true := by
    have all := staysBelow_into 0 place []
    rw [List.append_nil] at all
    rw [walk_pathOf plain, all]
    rfl
  rw [normalize_eq (isAbsolute_pathOf place) stays, placeOf_pathOf plain]

theorem relativeTo_pathOf (plain : PlainPlace (root ++ rest)) :
    relativeTo (pathOf root) (pathOf (root ++ rest)) = nameBelow rest := by
  have between : stepsFrom (pathOf root) (pathOf (root ++ rest)) = rest.map .name := by
    have parts := stepsBetween_front (.root :: root.map .name) (rest.map .name)
    rw [List.cons_append, ← List.map_append] at parts
    rw [stepsFrom, normalize_pathOf plain, steps_pathOf plain, steps_pathOf plain.left, parts,
      isAbsolute_pathOf, isAbsolute_pathOf]
    rfl
  rw [relativeTo, between, List.map_map]
  simp [nameBelow, Function.comp_def, Step.text]

end Resolving

end Path

end MonorepoCheck
