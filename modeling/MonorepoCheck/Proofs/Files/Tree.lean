import MonorepoCheck.Files.Tree

/-!
What changes in a tree of files when something is done to it, and what does not: entries at other
places stay, and making directories leaves every file as it is.
-/
namespace MonorepoCheck.FileTree

variable {tree later : FileTree} {place other : Location}

section Entries

theorem entry?_nonempty (some' : place ≠ []) :
    tree.entry? place = (tree.entries.find? fun entry => entry.1 == place).map Prod.snd := by
  rw [ FileTree.entry?, if_neg (by simpa using some')]

theorem entry?_root : tree.entry? [] = some .directory := rfl

/-- At the place of a new entry stands that entry, at every other one what stood there. -/
theorem entry?_put (entry : Entry) (some' : place ≠ []) :
    FileTree.entry? (tree.put place entry) other =
      if other = place then some entry else tree.entry? other := by
  by_cases root : other = []
  · subst root
    rw [if_neg (Ne.symm some'), entry?_root, entry?_root]
  · rw [entry?_nonempty root, entry?_nonempty root, put]
    split
    · rename_i known
      obtain ⟨old, oldMember, oldPlace⟩ := List.any_eq_true.mp known
      -- replacing an entry keeps its place, so the search finds the same one
      have named : (fun entry : Location × Entry => entry.1 == other)
          ∘ (fun old => if old.1 == place then (place, entry) else old)
            = fun entry => entry.1 == other := by
        funext old
        by_cases here : old.1 = place <;> simp [here]
      rw [List.find?_map, named]
      cases found : tree.entries.find? fun entry => entry.1 == other with
      | none =>
          have absent := List.find?_eq_none.mp found old oldMember
          have different : other ≠ place := by
            rintro rfl
            exact absent oldPlace
          simp [different]
      | some first =>
          have firstPlace : first.1 = other := by simpa using List.find?_some found
          by_cases same : other = place <;> simp [firstPlace, same]
    · rename_i unknown
      have absent : tree.entries.find? (fun entry => entry.1 == place) = none := by
        rw [List.find?_eq_none]
        exact fun old member here => unknown (List.any_eq_true.mpr ⟨old, member, here⟩)
      rw [List.find?_append]
      by_cases same : other = place
      · subst same
        simp [absent]
      · simp [same, Ne.symm same]

theorem entry?_erase (some' : place ≠ []) :
    FileTree.entry? (tree.erase place) other = if other = place then none else tree.entry? other := by
  by_cases root : other = []
  · subst root
    rw [if_neg (Ne.symm some')]
    rfl
  · rw [entry?_nonempty root, entry?_nonempty root, erase, List.find?_filter]
    by_cases same : other = place
    · subst same
      rw [if_pos rfl]
      simp
    · rw [if_neg same]
      congr 2
      funext entry
      by_cases here : entry.1 = other
      · simp [here, same]
      · simp [here]

end Entries

/-- The bytes of the file that stands at a place. -/
def fileAt (tree : FileTree) (place : Location) : Option ByteArray :=
  match tree.entry? place with
  | some (.file content _) => some content
  | _ => none

section FileAt

variable {content : ByteArray} {time : Instant}

theorem nonempty_of_entry (found : tree.entry? place ≠ some .directory) : place ≠ [] := by
  rintro rfl
  exact found rfl

/-- What stands at a place other than the root is listed there. -/
theorem mem_of_entry {entry : Entry} (some' : place ≠ []) (standing : tree.entry? place = some entry) :
    (place, entry) ∈ tree.entries := by
  rw [entry?_nonempty some'] at standing
  obtain ⟨listed, first, rfl⟩ := Option.map_eq_some_iff.mp standing
  obtain rfl : listed.1 = place := by simpa using List.find?_some first
  exact List.mem_of_find?_eq_some first

theorem mem_of_fileAt {content : ByteArray} (found : tree.fileAt place = some content) :
    ∃ time, (place, .file content time) ∈ tree.entries := by
  rw [fileAt] at found
  split at found
  · rename_i other time standing
    obtain rfl := Option.some.inj found
    have free : tree.entry? place ≠ some .directory := by simp [standing]
    exact ⟨time, mem_of_entry (nonempty_of_entry free) standing⟩
  · cases found

theorem fileAt_put_file (some' : place ≠ []) :
    (tree.put place (.file content time)).fileAt other =
      if other = place then some content else tree.fileAt other := by
  rw [fileAt, entry?_put _ some']
  by_cases same : other = place
  · rw [if_pos same, if_pos same]
  · rw [if_neg same, if_neg same, fileAt]

theorem fileAt_erase (some' : place ≠ []) :
    (tree.erase place).fileAt other = if other = place then none else tree.fileAt other := by
  rw [fileAt, entry?_erase some']
  by_cases same : other = place
  · rw [if_pos same, if_pos same]
  · rw [if_neg same, if_neg same, fileAt]

end FileAt

/-- Whether every directory of a tree is one in the other. -/
def KeepsDirectories (tree later : FileTree) : Prop :=
  ∀ place, tree.entry? place = some .directory → later.entry? place = some .directory

theorem KeepsDirectories.trans {last : FileTree} (first : KeepsDirectories tree later)
    (second : KeepsDirectories later last) : KeepsDirectories tree last :=
  fun place here => second place (first place here)

theorem keepsDirectories_put (entry : Entry) (some' : place ≠ [])
    (free : tree.entry? place = some .directory → entry = .directory) :
    KeepsDirectories tree (tree.put place entry) := by
  intro other here
  rw [entry?_put _ some']
  split
  · rename_i same
    exact congrArg some (free (same ▸ here))
  · exact here

theorem keepsDirectories_erase (noDirectory : tree.entry? place ≠ some .directory) :
    KeepsDirectories tree (tree.erase place) := by
  intro other here
  have different : other ≠ place := by
    rintro rfl
    exact noDirectory here
  rw [entry?_erase (nonempty_of_entry noDirectory), if_neg different]
  exact here

/-- Whether nothing was done to a tree but that directories were added at its end. -/
def GainsDirectories (tree later : FileTree) : Prop :=
  ∃ added : List Location, later.entries = tree.entries ++ added.map fun place => (place, .directory)

namespace GainsDirectories

theorem refl (tree : FileTree) : GainsDirectories tree tree := ⟨[], by simp⟩

theorem trans {last : FileTree} (first : GainsDirectories tree later)
    (second : GainsDirectories later last) : GainsDirectories tree last := by
  obtain ⟨added, grown⟩ := first
  obtain ⟨more, grownMore⟩ := second
  exact ⟨added ++ more, by rw [grownMore, grown]; simp⟩

theorem put_directory (free : tree.entry? place = none) :
    GainsDirectories tree (tree.put place .directory) := by
  have noDirectory : tree.entry? place ≠ some .directory := by simp [free]
  have some' : place ≠ [] := nonempty_of_entry noDirectory
  have absent : ¬(tree.entries.any fun old => old.1 == place) = true := by
    rw [entry?_nonempty some', Option.map_eq_none_iff, List.find?_eq_none] at free
    rintro known
    obtain ⟨old, member, here⟩ := List.any_eq_true.mp known
    exact free old member here
  exact ⟨[place], by rw [put, if_neg absent]; rfl⟩

/-- What stood in the tree still stands there, and what is new is a directory. -/
theorem entry?_eq (gains : GainsDirectories tree later) (place : Location) :
    later.entry? place = tree.entry? place
      ∨ tree.entry? place = none ∧ later.entry? place = some .directory := by
  obtain ⟨added, grown⟩ := gains
  by_cases root : place = []
  · subst root
    exact .inl rfl
  · rw [entry?_nonempty root, entry?_nonempty root, grown, List.find?_append]
    cases found : tree.entries.find? fun entry => entry.1 == place with
    | some entry => exact .inl rfl
    | none =>
        rw [Option.none_or, List.find?_map]
        cases new : added.find? ((fun entry : Location × Entry => entry.1 == place)
          ∘ fun place => (place, .directory)) with
        | none => exact .inl rfl
        | some place => exact .inr ⟨rfl, rfl⟩

theorem fileAt_eq (gains : GainsDirectories tree later) (place : Location) :
    later.fileAt place = tree.fileAt place := by
  rcases gains.entry?_eq place with same | ⟨absent, directory⟩
  · rw [fileAt, fileAt, same]
  · rw [fileAt, fileAt, absent, directory]

theorem keepsDirectories (gains : GainsDirectories tree later) : KeepsDirectories tree later := by
  intro place here
  rcases gains.entry?_eq place with same | ⟨_, directory⟩
  · rw [same, here]
  · exact directory

end GainsDirectories

section Below

theorem entry?_below (name : String) {rest : Location} (some' : rest ≠ []) :
    FileTree.entry? (tree.below name) rest = tree.entry? (name :: rest) := by
  rw [entry?_nonempty some', entry?_nonempty (List.cons_ne_nil _ _), below]
  induction tree.entries with
  | nil => rfl
  | cons entry entries ih =>
      obtain ⟨place, entry⟩ := entry
      cases place with
      | nil => simpa using ih
      | cons first others =>
          by_cases inside : first = name
          · by_cases here : others = rest
            · simp [inside, here]
            · simpa [inside, here] using ih
          · simpa [inside] using ih

theorem entry?_subtree (place : Location) {rest : Location} (some' : rest ≠ []) :
    FileTree.entry? (tree.subtree place) rest = tree.entry? (place ++ rest) := by
  induction place generalizing tree with
  | nil => rfl
  | cons name place ih =>
      rw [show tree.subtree (name :: place) = (tree.below name).subtree place from rfl, ih,
        entry?_below name (by simp [some'])]
      rfl

theorem below_subtree (place : Location) (name : String) :
    (tree.subtree place).below name = tree.subtree (place ++ [name]) := by
  simp [subtree, List.foldl_append]

end Below

end MonorepoCheck.FileTree
