import Mathlib.Data.List.Infix
import Mathlib.Data.List.Nodup
import MonorepoCheck.Proofs.Path.Below
import MonorepoCheck.Proofs.Text.Sorting

/-!
One tree at two places. Requests about paths below the two roots are answered alike, as long as the
paths do not lead above their roots and are not too long for either of them.
-/
namespace MonorepoCheck

open MonorepoCheck.Path

/-- What an entry is, but for the time of its last change. -/
def Entry.content? : Entry → Option ByteArray
  | .directory => none
  | .file content _ => some content

namespace FileTree

/-- A directory of a tree in which every name can be named and stands once. -/
structure Rooted (tree : FileTree) (root : Location) : Prop where
  plain : PlainPlace root
  directory : tree.isDirectoryAt [] (pathOf root) = true
  names : ∀ entry ∈ tree.entries, PlainPlace entry.1
  once : (tree.entries.map Prod.fst).Nodup

/-- Whether the same stands below two directories. -/
structure Moved (tree other : FileTree) (root target : Location) : Prop where
  here : Rooted tree root
  there : Rooted other target
  same : ∀ rest, rest ≠ [] → (tree.entry? (root ++ rest)).map Entry.content?
    = (other.entry? (target ++ rest)).map Entry.content?

/-- Whether pieces joined to either of two roots stay below it and make no path that is too long. -/
structure Fits (root target : Location) (pieces : List String) : Prop where
  relative : Relative pieces
  below : staysBelow 0 (stepsOf pieces) = true
  short : (under root pieces).text.utf8ByteSize < pathLimit
  shortThere : (under target pieces).text.utf8ByteSize < pathLimit

instance (root target : Location) (pieces : List String) : Decidable (Fits root target pieces) :=
  decidable_of_iff (Relative pieces ∧ staysBelow 0 (stepsOf pieces) = true
      ∧ (under root pieces).text.utf8ByteSize < pathLimit
      ∧ (under target pieces).text.utf8ByteSize < pathLimit)
    ⟨fun ⟨relative, below, short, shortThere⟩ => ⟨relative, below, short, shortThere⟩,
      fun ⟨relative, below, short, shortThere⟩ => ⟨relative, below, short, shortThere⟩⟩

/-- The place below the root that pieces lead to. -/
def spot (pieces : List String) : Location := (stepsOf pieces).foldl Walk.apply []

variable {tree other : FileTree} {root target place : Location} {pieces : List String}

theorem spot_snoc_plain {name : String} (plain : PlainName name.toList) :
    spot (pieces ++ [name]) = spot pieces ++ [name] := by
  rw [spot, stepsOf_snoc, walk_plain plain, List.foldl_append]
  rfl

theorem spot_plain (pieces : List String) : PlainPlace (spot pieces) := by
  apply plain_apply .nil
  intro name member
  obtain ⟨piece, _, inside⟩ := List.mem_flatMap.mp member
  exact plain_of_walk inside

section Requests

theorem locate_absolute {path : Path} (absolute : path.isAbsolute = true) (here : Location) :
    tree.locate here path = tree.locate [] path := by
  rw [locate, locate, origin, origin, if_pos absolute, if_pos absolute]

/-- Where one works matters only to paths that do not start at the root. -/
theorem find_absolute {path : Path} (absolute : path.isAbsolute = true) (here : Location) :
    tree.find here path = tree.find [] path := by
  rw [find, find, locate_absolute absolute here]

theorem isDirectoryAt_iff {here : Location} {path : Path} :
    tree.isDirectoryAt here path = true ↔ tree.find here path = .ok .directory := by
  rw [isDirectoryAt]
  split
  · rename_i found
    simp [found]
  · rename_i other
    simpa using fun found => other found

theorem find_directory {here : Location} {path : Path}
    (found : tree.find here path = .ok .directory) :
    tree.locate here path = .ok (placeOf here path)
      ∧ tree.entry? (placeOf here path) = some .directory := by
  obtain ⟨place, located, found⟩ := bind_ok found
  obtain rfl := locate_place located
  refine ⟨located, ?_⟩
  split at found
  · cases found
  · split at found <;> cases found
  · rename_i directory
    exact directory

theorem find_of_located {here : Location} {path : Path} (located : tree.locate here path = .ok place)
    (directory : tree.entry? place = some .directory) : tree.find here path = .ok .directory := by
  simp only [find, located, bind, Except.bind, directory]

theorem existsAt_eq {here : Location} {path : Path} :
    tree.existsAt here path = ((tree.find here path).toOption.map Entry.content?).isSome := by
  rw [existsAt]
  cases tree.find here path <;> rfl

theorem isFileAt_eq {here : Location} {path : Path} :
    tree.isFileAt here path
      = (((tree.find here path).toOption.map Entry.content?).any Option.isSome) := by
  rw [isFileAt]
  cases tree.find here path with
  | error cause => rfl
  | ok entry => cases entry <;> rfl

theorem isDirectoryAt_eq {here : Location} {path : Path} :
    tree.isDirectoryAt here path
      = (((tree.find here path).toOption.map Entry.content?).any Option.isNone) := by
  rw [isDirectoryAt]
  cases tree.find here path with
  | error cause => rfl
  | ok entry => cases entry <;> rfl

theorem readText_eq {here : Location} {path : Path} :
    (tree.readText here path).toOption
      = ((tree.find here path).toOption.map Entry.content?).bind
          fun content => content.bind String.fromUTF8? := by
  rw [readText]
  cases tree.find here path with
  | error cause => rfl
  | ok entry =>
      cases entry with
      | directory => rfl
      | file content time =>
          simp only [Except.toOption, Option.map_some, Option.bind_some, Entry.content?, bind,
            Except.bind]
          cases String.fromUTF8? content <;> rfl

namespace Rooted

theorem located (rooted : Rooted tree root) : tree.locate [] (pathOf root) = .ok root := by
  have located := (find_directory (isDirectoryAt_iff.mp rooted.directory)).1
  rwa [placeOf_pathOf rooted.plain] at located

theorem entry (rooted : Rooted tree root) : tree.entry? root = some .directory := by
  obtain ⟨located, directory⟩ := find_directory (isDirectoryAt_iff.mp rooted.directory)
  obtain same : root = _ := Except.ok.inj (rooted.located.symm.trans located)
  rwa [← same] at directory

theorem noZero (rooted : Rooted tree root) :
    (pathOf root).text.toList.contains (Char.ofNat 0) = false := by
  have zero := (locate_ok rooted.located).2.1
  simpa using zero

/-- Steps through directories can be left away in front of others. -/
theorem follow_append {steps : List Walk} {names start : Location}
    (followed : tree.follow (tree.subtree start) start (names.map .into) = .ok (start ++ names))
    (directory : tree.entry? (start ++ names) = some .directory) :
    tree.follow (tree.subtree start) start (names.map .into ++ steps)
      = tree.follow (tree.subtree (start ++ names)) (start ++ names) steps := by
  induction names generalizing start with
  | nil => rw [List.map_nil, List.nil_append, List.append_nil]
  | cons name rest ih =>
      rw [List.map_cons] at followed
      obtain ⟨short, ways⟩ := follow_into followed
      rw [List.map_cons, List.cons_append, follow, if_neg short]
      have parts : start ++ name :: rest = start ++ [name] ++ rest := by simp
      have inside : FileTree.entry? (tree.subtree start) [name] = some .directory := by
        rcases ways with ⟨last, _⟩ | ⟨_, inside, _⟩
        · rw [entry?_subtree start (List.cons_ne_nil _ _)]
          rw [List.map_eq_nil_iff.mp last] at directory
          exact directory
        · exact inside
      have further : tree.follow (tree.subtree (start ++ [name])) (start ++ [name]) (rest.map .into)
          = .ok (start ++ [name] ++ rest) := by
        rcases ways with ⟨last, _⟩ | ⟨_, _, further⟩
        · rw [List.map_eq_nil_iff.mp last, List.append_nil]
          rfl
        · rw [below_subtree] at further
          rw [further, parts]
      rw [parts] at directory ⊢
      split
      · rename_i last
        obtain ⟨none', steps'⟩ := List.append_eq_nil_iff.mp (List.isEmpty_iff.mp last)
        rw [List.map_eq_nil_iff.mp none', steps', List.append_nil]
        rfl
      · rw [inside, below_subtree]
        exact ih further directory

theorem follow_root (rooted : Rooted tree root) (steps : List Walk) :
    tree.follow (tree.subtree []) [] (root.map .into ++ steps)
      = tree.follow (tree.subtree root) root steps := by
  have followed := (locate_ok rooted.located).2.2.2.2
  rw [origin, if_pos (isAbsolute_pathOf root), walk_pathOf rooted.plain] at followed
  exact follow_append followed rooted.entry

theorem zero_under (rooted : Rooted tree root) (relative : Relative pieces) :
    (under root pieces).text.toList.contains (Char.ofNat 0)
      = pieces.any fun piece => piece.toList.contains (Char.ofNat 0) := by
  induction pieces using List.reverseRecOn with
  | nil => exact rooted.noZero
  | append_singleton front piece ih =>
      rw [under_snoc, contains_join _ (relative piece (by simp)) (by decide), ih relative.left,
        List.any_append]
      simp

theorem follow_front {names start : Location} {name : String}
    (directory : tree.entry? start = some .directory)
    (followed : tree.follow (tree.subtree start) start (names.map .into ++ [.into name]) = .ok place) :
    tree.follow (tree.subtree start) start (names.map .into) = .ok (start ++ names)
      ∧ tree.entry? (start ++ names) = some .directory := by
  induction names generalizing start with
  | nil => exact ⟨by rw [List.append_nil]; rfl, by rwa [List.append_nil]⟩
  | cons first rest ih =>
      rw [List.map_cons, List.cons_append] at followed
      obtain ⟨short, ways⟩ := follow_into followed
      obtain ⟨_, inside, further⟩ : _ ∧ _ ∧ _ := by
        rcases ways with ⟨last, _⟩ | more
        · simp at last
        · exact more
      rw [below_subtree] at further
      rw [entry?_subtree start (List.cons_ne_nil _ _)] at inside
      obtain ⟨front, there⟩ := ih inside further
      rw [← List.append_cons] at there
      refine ⟨?_, there⟩
      rw [List.map_cons, follow, if_neg short]
      split
      · rename_i last
        rw [List.map_eq_nil_iff.mp (List.isEmpty_iff.mp last)]
      · rw [entry?_subtree start (List.cons_ne_nil _ _), inside, below_subtree]
        dsimp only
        rw [front, ← List.append_cons]

/-- The directory around a directory is one as well. -/
theorem front {names : Location} {name : String} (rooted : Rooted tree (names ++ [name])) :
    Rooted tree names := by
  have own : PlainName name.toList := rooted.plain name (by simp)
  have relative := relative_of_noSlash own.noSlash
  obtain ⟨_, noZero, short, start, followed⟩ := locate_ok rooted.located
  rw [origin, if_pos (isAbsolute_pathOf _)] at start followed
  rw [walk_pathOf rooted.plain, List.map_append] at followed
  obtain ⟨front, there⟩ := follow_front start followed
  rw [List.nil_append] at front there
  rw [pathOf_snoc rooted.plain.left relative] at noZero short
  have noZero' : ¬(pathOf names).text.toList.contains (Char.ofNat 0) = true := by
    intro zero
    rw [contains_join _ relative (by decide), zero] at noZero
    exact noZero rfl
  have short' : ¬pathLimit ≤ (pathOf names).text.utf8ByteSize :=
    fun long => short (Nat.le_trans long (size_join (pathOf names) relative))
  have located : tree.locate [] (pathOf names) = .ok names := by
    rw [locate, if_neg (nonempty_of_absolute (isAbsolute_pathOf names)), if_neg noZero', if_neg short', origin, if_pos (isAbsolute_pathOf names),
      walk_pathOf rooted.plain.left]
    exact front
  constructor
  case plain => exact rooted.plain.left
  case directory => exact isDirectoryAt_iff.mpr (find_of_located located there)
  case names => exact rooted.names
  case once => exact rooted.once

theorem locate_under (rooted : Rooted tree root) (relative : Relative pieces)
    (short : (under root pieces).text.utf8ByteSize < pathLimit) :
    tree.locate [] (under root pieces)
      = if pieces.any fun piece => piece.toList.contains (Char.ofNat 0) then .error .zeroInPath
        else tree.follow (tree.subtree root) root (stepsOf pieces) := by
  have absolute := isAbsolute_under root relative
  rw [locate, if_neg (nonempty_of_absolute absolute), rooted.zero_under relative]
  split
  · rfl
  · rw [if_neg (Nat.not_le.mpr short), origin, if_pos absolute, walk_under rooted.plain relative]
    exact rooted.follow_root (stepsOf pieces)

end Rooted

namespace Moved

theorem standing (moved : Moved tree other root target) (rest : Location) :
    (tree.entry? (root ++ rest)).map Entry.content?
      = (other.entry? (target ++ rest)).map Entry.content? := by
  by_cases none' : rest = []
  · subst none'
    rw [List.append_nil, List.append_nil, moved.here.entry, moved.there.entry]
  · exact moved.same rest none'

/-- The same stands at two places in step: nothing, a directory or the same file. -/
theorem twins (moved : Moved tree other root target) (rest : Location) :
    tree.entry? (root ++ rest) = none ∧ other.entry? (target ++ rest) = none
      ∨ tree.entry? (root ++ rest) = some .directory
        ∧ other.entry? (target ++ rest) = some .directory
      ∨ ∃ content time later, tree.entry? (root ++ rest) = some (.file content time)
        ∧ other.entry? (target ++ rest) = some (.file content later) := by
  have standing := moved.standing rest
  cases found : tree.entry? (root ++ rest) with
  | none =>
      rw [found, Option.map_none] at standing
      exact .inl ⟨rfl, Option.map_eq_none_iff.mp standing.symm⟩
  | some entry =>
      rw [found, Option.map_some] at standing
      obtain ⟨twin, there, alike⟩ := Option.map_eq_some_iff.mp standing.symm
      cases entry with
      | directory =>
          cases twin with
          | directory => exact .inr (.inl ⟨rfl, there⟩)
          | file content time => cases alike
      | file content time =>
          cases twin with
          | directory => cases alike
          | file same later =>
              obtain rfl := Option.some.inj alike
              exact .inr (.inr ⟨_, _, _, rfl, there⟩)

theorem follow_moved (moved : Moved tree other root target) {steps : List Walk}
    (stays : staysBelow place.length steps = true) :
    (∃ cause, tree.follow (tree.subtree (root ++ place)) (root ++ place) steps = .error cause
        ∧ other.follow (other.subtree (target ++ place)) (target ++ place) steps = .error cause)
      ∨ tree.follow (tree.subtree (root ++ place)) (root ++ place) steps
          = .ok (root ++ steps.foldl Walk.apply place)
        ∧ other.follow (other.subtree (target ++ place)) (target ++ place) steps
          = .ok (target ++ steps.foldl Walk.apply place) := by
  induction steps generalizing place with
  | nil => exact .inr ⟨rfl, rfl⟩
  | cons step steps ih =>
      cases step with
      | stay => exact @ih place stays
      | up =>
          rcases List.eq_nil_or_concat place with rfl | ⟨front, last, rfl⟩
          · cases stays
          · rw [List.concat_eq_append] at stays ⊢
            have further : staysBelow front.length steps = true := by
              rw [List.length_append] at stays
              exact stays
            have back (start : Location) : (start ++ (front ++ [last])).dropLast = start ++ front := by
              rw [← List.append_assoc, List.dropLast_concat]
            rw [follow, follow, back, back, List.foldl_cons, Walk.apply, List.dropLast_concat]
            exact ih further
      | into name =>
          have further : staysBelow (place ++ [name]).length steps = true := by
            rw [List.length_append]
            exact stays
          rw [follow, follow, entry?_subtree _ (List.cons_ne_nil _ _),
            entry?_subtree _ (List.cons_ne_nil _ _), List.foldl_cons, Walk.apply]
          by_cases long : nameLimit < name.utf8ByteSize
          · rw [if_pos long, if_pos long]
            exact .inl ⟨_, rfl, rfl⟩
          · rw [if_neg long, if_neg long]
            by_cases last : steps.isEmpty = true
            · obtain rfl := List.isEmpty_iff.mp last
              exact .inr ⟨by simp, by simp⟩
            · have onward := ih further
              rw [← List.append_assoc, ← List.append_assoc, ← below_subtree, ← below_subtree]
                at onward
              have twins := moved.twins (place ++ [name])
              rw [← List.append_assoc, ← List.append_assoc] at twins
              rw [if_neg last, if_neg last]
              rcases twins with ⟨here, there⟩ | ⟨here, there⟩ | ⟨content, time, later, here, there⟩
              · rw [here, there]
                exact .inl ⟨_, rfl, rfl⟩
              · rw [here, there]
                exact onward
              · rw [here, there]
                exact .inl ⟨_, rfl, rfl⟩

theorem locate_moved (moved : Moved tree other root target) (fits : Fits root target pieces) :
    (∃ cause, tree.locate [] (under root pieces) = .error cause
        ∧ other.locate [] (under target pieces) = .error cause)
      ∨ tree.locate [] (under root pieces) = .ok (root ++ spot pieces)
        ∧ other.locate [] (under target pieces) = .ok (target ++ spot pieces) := by
  rw [moved.here.locate_under fits.relative fits.short,
    moved.there.locate_under fits.relative fits.shortThere]
  by_cases zeros : (pieces.any fun piece => piece.toList.contains (Char.ofNat 0)) = true
  · rw [if_pos zeros, if_pos zeros]
    exact .inl ⟨_, rfl, rfl⟩
  · rw [if_neg zeros, if_neg zeros]
    have followed := @follow_moved tree other root target [] moved (stepsOf pieces) fits.below
    rwa [List.append_nil, List.append_nil] at followed

theorem find_moved (moved : Moved tree other root target) (fits : Fits root target pieces) :
    (tree.find [] (under root pieces)).toOption.map Entry.content?
      = (other.find [] (under target pieces)).toOption.map Entry.content? := by
  rcases moved.locate_moved fits with ⟨cause, here, there⟩ | ⟨here, there⟩
  · simp [find, here, there, bind, Except.bind]
  · by_cases whole : pieces = []
    · -- only the root itself may be written with a separator at one place and without at the other
      subst whole
      have root' : tree.find [] (under root []) = .ok .directory :=
        isDirectoryAt_iff.mp moved.here.directory
      have target' : other.find [] (under target []) = .ok .directory :=
        isDirectoryAt_iff.mp moved.there.directory
      rw [root', target']
    · simp only [find, here, there, bind, Except.bind, endsInSeparator_under fits.relative whole target]
      rcases moved.twins (spot pieces) with ⟨found, twin⟩ | ⟨found, twin⟩
        | ⟨content, time, later, found, twin⟩
      · rw [found, twin]
      · rw [found, twin]
      · rw [found, twin]
        cases endsInSeparator (under target pieces) <;> rfl

theorem existsAt_moved (moved : Moved tree other root target) (fits : Fits root target pieces) :
    tree.existsAt [] (under root pieces) = other.existsAt [] (under target pieces) := by
  rw [existsAt_eq, existsAt_eq, moved.find_moved fits]

theorem isDirectoryAt_moved (moved : Moved tree other root target)
    (fits : Fits root target pieces) :
    tree.isDirectoryAt [] (under root pieces) = other.isDirectoryAt [] (under target pieces) := by
  rw [isDirectoryAt_eq, isDirectoryAt_eq, moved.find_moved fits]

end Moved

end Requests

section Children

/-- The name that an entry has in a directory, if it is right inside. -/
def childOf? (place child : Location) : Option String :=
  match child.getLast? with
  | some name => if child.dropLast == place then some name else none
  | none => none

theorem childOf?_iff {child : Location} {name : String} :
    childOf? place child = some name ↔ child = place ++ [name] := by
  rw [childOf?]
  rcases List.eq_nil_or_concat child with rfl | ⟨front, last, rfl⟩
  · simp
  · rw [List.concat_eq_append, List.getLast?_concat, List.dropLast_concat]
    by_cases here : front = place
    · simp [here]
    · simp [here]

/-- The names of what is right inside a directory, in order. -/
theorem children_names (tree : FileTree) (place : Location) :
    (tree.children place).map Prod.fst
      = ((tree.entries.map Prod.fst).filterMap (childOf? place)).mergeSort Text.before := by
  have named (inside : List (String × Entry)) :
      (inside.mergeSort fun a b => !decide (b.1 < a.1)).map Prod.fst
        = (inside.map Prod.fst).mergeSort Text.before := List.map_mergeSort fun a _ b _ => rfl
  rw [children, named, List.map_filterMap, List.filterMap_map]
  congr 2
  funext ⟨child, entry⟩
  simp only [Function.comp_apply, childOf?]
  cases child.getLast? with
  | none => rfl
  | some name =>
      by_cases here : child.dropLast = place
      · simp [here]
      · simp [here]

theorem mem_children_iff {name : String} :
    name ∈ (tree.children place).map Prod.fst ↔ tree.entry? (place ++ [name]) ≠ none := by
  have listed : tree.entry? (place ++ [name]) ≠ none
      ↔ place ++ [name] ∈ tree.entries.map Prod.fst := by
    rw [entry?_nonempty (by simp), ← Option.isSome_iff_ne_none, Option.isSome_map,
      List.find?_isSome, List.mem_map]
    simp
  rw [children_names, List.mem_mergeSort, listed, List.mem_filterMap]
  constructor
  · rintro ⟨child, member, named⟩
    exact childOf?_iff.mp named ▸ member
  · intro member
    exact ⟨_, member, childOf?_iff.mpr rfl⟩

theorem Rooted.plain_child (rooted : Rooted tree root) {name : String}
    (member : name ∈ (tree.children place).map Prod.fst) : PlainName name.toList := by
  obtain ⟨entry, standing⟩ := Option.ne_none_iff_exists'.mp (mem_children_iff.mp member)
  have listed := mem_of_entry (by simp) standing
  exact rooted.names _ listed name (by simp)

theorem Moved.children_moved (moved : Moved tree other root target) (place : Location) :
    (tree.children (root ++ place)).map Prod.fst = (other.children (target ++ place)).map Prod.fst := by
  have once {tree : FileTree} (nodup : (tree.entries.map Prod.fst).Nodup) (place : Location) :
      ((tree.entries.map Prod.fst).filterMap (childOf? place)).Nodup := by
    refine List.Nodup.filterMap (fun child twin name first second => ?_) nodup
    rw [childOf?_iff.mp first, childOf?_iff.mp second]
  have members (name : String) :
      name ∈ (tree.entries.map Prod.fst).filterMap (childOf? (root ++ place))
        ↔ name ∈ (other.entries.map Prod.fst).filterMap (childOf? (target ++ place)) := by
    have standing := moved.standing (place ++ [name])
    rw [← List.append_assoc, ← List.append_assoc] at standing
    have here := @mem_children_iff tree (root ++ place) name
    have there := @mem_children_iff other (target ++ place) name
    rw [children_names, List.mem_mergeSort] at here there
    rw [here, there, ← Option.isSome_iff_ne_none, ← Option.isSome_iff_ne_none,
      ← Option.isSome_map (f := Entry.content?), standing, Option.isSome_map]
  rw [children_names, children_names]
  exact Text.mergeSort_of_perm
    ((List.perm_ext_iff_of_nodup (once moved.here.once _) (once moved.there.once _)).mpr members)

end Children

section Placing

/-- A tree with another one below a place, and nothing else. -/
def placed (inner : FileTree) (root : Location) : FileTree where
  entries := (root.inits.tail.map fun place => (place, .directory))
    ++ inner.entries.map fun entry => (root ++ entry.1, entry.2)

theorem entry?_placed (inner : FileTree) (root : Location) {rest : Location} (some' : rest ≠ []) :
    FileTree.entry? (placed inner root) (root ++ rest) = inner.entry? rest := by
  have further : (root.inits.tail.map fun place => (place, Entry.directory)).find?
      (fun entry => entry.1 == root ++ rest) = none := by
    rw [List.find?_eq_none]
    intro entry member
    obtain ⟨place, listed, rfl⟩ := List.mem_map.mp member
    have short := ((List.mem_inits place root).mp (List.mem_of_mem_tail listed)).length_le
    have long := List.length_pos_iff.mpr some'
    rw [beq_iff_eq]
    rintro rfl
    rw [List.length_append] at short
    omega
  rw [entry?_nonempty some', entry?_nonempty (by simp [some']), placed, List.find?_append, further,
    Option.none_or, List.find?_map, Option.map_map]
  have same (entry : Location × Entry) : (root ++ entry.1 == root ++ rest) = (entry.1 == rest) := by
    rw [Bool.eq_iff_iff, beq_iff_eq, beq_iff_eq, List.append_cancel_left_eq]
  simp only [Function.comp_def, same]

/-- A tree that is placed twice is the same at both places. -/
theorem moved_placed (inner : FileTree) (here : Rooted (placed inner root) root)
    (there : Rooted (placed inner target) target) :
    Moved (placed inner root) (placed inner target) root target where
  here := here
  there := there
  same := fun rest some' => by rw [entry?_placed inner root some', entry?_placed inner target some']

end Placing

end FileTree

end MonorepoCheck
