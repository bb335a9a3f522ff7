import Mathlib.Data.List.Induction
import Mathlib.Data.List.Nodup
import MonorepoCheck.Proofs.Path.Below

/-!
Trees as they are found on a disk, and the walks through them that keep out of directories with
certain names.
-/
namespace MonorepoCheck.FileTree

/-- A tree as it is found on a disk: every name can be named, every place is listed once, and what is
listed stands in a directory. -/
structure OnDisk (tree : FileTree) : Prop where
  names : ∀ entry ∈ tree.entries, entry.1 ≠ [] ∧ PlainPlace entry.1
  once : (tree.entries.map Prod.fst).Nodup
  inside : ∀ entry ∈ tree.entries, tree.entry? entry.1.dropLast = some .directory

/-- The directories that a walk comes into. It asks for the names of those below its start only. -/
inductive Enters (tree : FileTree) (ignored : List String) (start : Location) : Location → Prop where
  | start : Enters tree ignored start start
  | into {place : Location} {name : String} (above : Enters tree ignored start place)
      (directory : tree.entry? (place ++ [name]) = some .directory) (open' : name ∉ ignored) :
      Enters tree ignored start (place ++ [name])

variable {tree : FileTree} {ignored : List String} {start place between : Location} {name : String}
  {entry : Entry}

theorem OnDisk.entry?_iff (disk : OnDisk tree) (some' : place ≠ []) :
    tree.entry? place = some entry ↔ (place, entry) ∈ tree.entries := by
  constructor
  · exact mem_of_entry some'
  · intro member
    rw [entry?_nonempty some']
    cases found : tree.entries.find? fun entry => entry.1 == place with
    | none => exact absurd (List.find?_eq_none.mp found _ member) (by simp)
    | some first =>
        have same : first.1 = place := by simpa using List.find?_some found
        have only := List.inj_on_of_nodup_map disk.once (List.mem_of_find?_eq_some found) member same
        rw [only, Option.map_some]

theorem OnDisk.parent (disk : OnDisk tree) (standing : tree.entry? (place ++ [name]) = some entry) :
    tree.entry? place = some .directory := by
  have above := disk.inside _ (mem_of_entry (by simp) standing)
  rwa [List.dropLast_concat] at above

/-- A tree stays as a disk has it when one of its files is written again. -/
theorem OnDisk.put {content old : ByteArray} {time before : Instant} (disk : OnDisk tree)
    (standing : tree.entry? place = some (.file old before)) :
    OnDisk (tree.put place (.file content time)) := by
  have free : tree.entry? place ≠ some .directory := by simp [standing]
  have some' := nonempty_of_entry free
  have known : tree.entries.any (fun entry => entry.1 == place) = true :=
    List.any_eq_true.mpr ⟨_, mem_of_entry some' standing, beq_self_eq_true place⟩
  have same : (tree.put place (.file content time)).entries.map Prod.fst
      = tree.entries.map Prod.fst := by
    rw [FileTree.put, if_pos known, List.map_map]
    refine List.map_congr_left fun entry _ => ?_
    by_cases here : entry.1 = place <;> simp [here]
  have listed : ∀ entry ∈ (tree.put place (.file content time)).entries,
      ∃ kept ∈ tree.entries, kept.1 = entry.1 := by
    intro entry member
    rw [← List.mem_map, ← same]
    exact List.mem_map_of_mem member
  constructor
  case names =>
      intro entry member
      obtain ⟨kept, there, named⟩ := listed entry member
      exact named ▸ disk.names kept there
  case once => rw [same]; exact disk.once
  case inside =>
      intro entry member
      obtain ⟨kept, there, named⟩ := listed entry member
      exact keepsDirectories_put _ some' (absurd · free) _ (named ▸ disk.inside kept there)

/-- A walk comes into the directories that have no ignored name on the way from its start. -/
theorem OnDisk.enters_iff (disk : OnDisk tree)
    (directory : tree.entry? (start ++ between) = some .directory) :
    Enters tree ignored start (start ++ between) ↔ ∀ step ∈ between, step ∉ ignored := by
  constructor
  · intro enters
    generalize led : start ++ between = place at enters
    induction enters generalizing between with
    | start =>
        obtain rfl := List.append_right_eq_self.mp led
        simp
    | @into above name _ inside open' ih =>
        rcases List.eq_nil_or_concat' between with rfl | ⟨front, last, rfl⟩
        · simp
        · rw [← List.append_assoc] at led directory
          obtain ⟨rfl, same⟩ := List.append_inj' led rfl
          obtain rfl := List.head_eq_of_cons_eq same
          have passed := ih (disk.parent directory) rfl
          simpa [or_imp, forall_and] using ⟨passed, open'⟩
  · intro passed
    induction between using List.reverseRecOn with
    | nil => simpa using Enters.start
    | append_singleton between name ih =>
        rw [← List.append_assoc] at directory ⊢
        have above := ih (disk.parent directory) fun step member => passed step (by simp [member])
        exact .into above directory (passed name (by simp))

end MonorepoCheck.FileTree
