import MonorepoCheck.Proofs.Files.Tree

/-!
Where paths lead. Steps that can be followed lead to the place that their names spell, and they can
still be followed wherever no directory is lost.
-/
namespace MonorepoCheck.FileTree

/-- The place after one more step, whatever stands on disk. -/
def Walk.apply : Location → Walk → Location
  | place, .stay => place
  | place, .up => place.dropLast
  | place, .into name => place ++ [name]

/-- The place that a path spells from a working directory. -/
def placeOf (here : Location) (path : Path) : Location :=
  (walk path).foldl Walk.apply (origin here path)

/-- A request in two parts is met when both of them are. -/
theorem bind_ok {ε α β : Type} {first : Except ε α} {second : α → Except ε β}
    {result : β} (done : (do second (← first)) = .ok result) :
    ∃ value, first = .ok value ∧ second value = .ok result := by
  cases first with
  | error cause => cases done
  | ok value => exact ⟨value, rfl, done⟩

theorem ok_of_toOption {ε α : Type} {result : Except ε α} {value : α}
    (found : result.toOption = some value) : result = .ok value := by
  cases result with
  | error cause => cases found
  | ok value => exact congrArg Except.ok (Option.some.inj found)

variable {tree later : FileTree} {here place target : Location} {path : Path}

/-- One more name of a path can be followed into when a directory stands there. -/
theorem follow_into {inside : FileTree} {name : String} {rest : List Walk}
    (followed : follow tree inside place (.into name :: rest) = .ok target) :
    ¬nameLimit < name.utf8ByteSize
      ∧ (rest = [] ∧ target = place ++ [name]
        ∨ rest ≠ [] ∧ inside.entry? [name] = some .directory
          ∧ follow tree (inside.below name) (place ++ [name]) rest = .ok target) := by
  rw [follow] at followed
  split at followed
  · cases followed
  · rename_i short
    refine ⟨short, ?_⟩
    split at followed
    · rename_i last
      exact .inl ⟨List.isEmpty_iff.mp last, (Except.ok.inj followed).symm⟩
    · rename_i more
      split at followed
      · rename_i directory
        exact .inr ⟨fun last => more (by simp [last]), directory, followed⟩
      · cases followed
      · cases followed

theorem follow_place {inside : FileTree} {steps : List Walk}
    (followed : follow tree inside place steps = .ok target) :
    target = steps.foldl Walk.apply place := by
  induction steps generalizing inside place with
  | nil => exact (Except.ok.inj followed).symm
  | cons step rest ih =>
      cases step with
      | stay => exact ih followed
      | up => exact ih followed
      | into name =>
          rcases (follow_into followed).2 with ⟨rfl, rfl⟩ | ⟨_, _, further⟩
          · rfl
          · exact ih further

theorem follow_later (kept : KeepsDirectories tree later) {steps : List Walk}
    (followed : follow tree (tree.subtree place) place steps = .ok target) :
    follow later (later.subtree place) place steps = .ok target := by
  induction steps generalizing place with
  | nil => exact followed
  | cons step rest ih =>
      cases step with
      | stay => exact ih followed
      | up => exact ih followed
      | into name =>
          obtain ⟨short, ways⟩ := follow_into followed
          rw [follow, if_neg short]
          rcases ways with ⟨rfl, rfl⟩ | ⟨more, directory, further⟩
          · rfl
          · rw [entry?_subtree place (List.cons_ne_nil _ _)] at directory
            have still : FileTree.entry? (later.subtree place) [name] = some .directory := by
              rw [entry?_subtree place (List.cons_ne_nil _ _)]
              exact kept _ directory
            rw [below_subtree] at further ⊢
            rw [if_neg (by simpa using more), still]
            exact ih further

/-- What a path that leads somewhere satisfies. -/
theorem locate_ok (located : tree.locate here path = .ok place) :
    ¬path.text.isEmpty ∧ ¬path.text.toList.contains (Char.ofNat 0)
      ∧ ¬pathLimit ≤ path.text.utf8ByteSize
      ∧ tree.entry? (origin here path) = some .directory
      ∧ tree.follow (tree.subtree (origin here path)) (origin here path) (walk path)
        = .ok place := by
  rw [locate] at located
  split at located
  · cases located
  · rename_i some'
    split at located
    · cases located
    · rename_i noZero
      split at located
      · cases located
      · rename_i short
        dsimp only at located
        split at located
        · rename_i start
          exact ⟨some', noZero, short, start, located⟩
        · cases located
        · cases located

theorem locate_place (located : tree.locate here path = .ok place) :
    place = placeOf here path :=
  follow_place (locate_ok located).2.2.2.2

theorem locate_later (kept : KeepsDirectories tree later)
    (located : tree.locate here path = .ok place) : later.locate here path = .ok place := by
  obtain ⟨some', noZero, short, start, followed⟩ := locate_ok located
  rw [locate, if_neg some', if_neg noZero, if_neg short]
  simp only [kept _ start]
  exact follow_later kept followed

section MakingDirectories

theorem gains_makeAlong {steps : List Walk} {inside : FileTree}
    (made : makeAlong tree inside place steps = .ok later) : GainsDirectories tree later := by
  induction steps generalizing tree inside place with
  | nil =>
      obtain rfl := Except.ok.inj made
      exact .refl tree
  | cons step rest ih =>
      cases step with
      | stay => exact ih made
      | up => exact ih made
      | into name =>
          rw [makeAlong] at made
          split at made
          · cases made
          · split at made
            · exact ih made
            · cases made
            · exact .trans ⟨[place ++ [name]], rfl⟩ (ih made)

theorem gains_makeDirectory (made : tree.makeDirectory here path = .ok later) :
    GainsDirectories tree later := by
  obtain ⟨place, _, made⟩ := bind_ok made
  split at made
  · cases made
  · rename_i free
    split at made
    · obtain rfl := Except.ok.inj made
      exact .put_directory free
    · cases made
    · cases made

theorem gains_makeDirectories (made : tree.makeDirectories here path = .ok later) :
    GainsDirectories tree later := by
  rw [makeDirectories] at made
  split at made
  · obtain rfl := Except.ok.inj made
    exact .refl tree
  · split at made
    · rename_i first
      obtain rfl := Except.ok.inj made
      exact gains_makeDirectory first
    · split at made
      · cases made
      · obtain ⟨between, along, made⟩ := bind_ok made
        have grown := gains_makeAlong along
        split at made
        · obtain rfl := Except.ok.inj made
          exact grown
        · exact grown.trans (gains_makeDirectory made)
    · split at made
      · obtain rfl := Except.ok.inj made
        exact .refl tree
      · cases made

end MakingDirectories

/-- A file that was written stands at the place that its path spells, and all else is as it was. -/
theorem writeBytes_ok {content : ByteArray} {time : Instant}
    (wrote : tree.writeBytes here path content time = .ok later) :
    tree.locate here path = .ok (placeOf here path)
      ∧ tree.entry? (placeOf here path) ≠ some .directory
      ∧ later = tree.put (placeOf here path) (.file content time) := by
  obtain ⟨place, located, wrote⟩ := bind_ok wrote
  obtain rfl := locate_place located
  refine ⟨located, ?_⟩
  split at wrote
  · cases wrote
  · rename_i found
    split at wrote
    · cases wrote
    · exact ⟨by simp [found], (Except.ok.inj wrote).symm⟩
  · rename_i free
    split at wrote
    · split at wrote
      · cases wrote
      · exact ⟨by simp [free], (Except.ok.inj wrote).symm⟩
    · cases wrote
    · cases wrote

/-- A file that was moved stands at its new place and nowhere else. -/
theorem renameFile_ok {new : Path} (moved : tree.renameFile here path new = .ok later) :
    ∃ content time, tree.entry? (placeOf here path) = some (.file content time)
      ∧ tree.locate here new = .ok (placeOf here new)
      ∧ tree.entry? (placeOf here new) ≠ some .directory
      ∧ later = (tree.erase (placeOf here path)).put (placeOf here new) (.file content time) := by
  obtain ⟨source, from', moved⟩ := bind_ok moved
  obtain ⟨target, leads, moved⟩ := bind_ok moved
  obtain rfl := locate_place from'
  obtain rfl := locate_place leads
  split at moved
  · cases moved
  · cases moved
  · rename_i entry noDirectory found
    split at moved
    · cases moved
    · rename_i free
      split at moved
      · cases entry with
        | directory => exact absurd rfl noDirectory
        | file content time =>
            exact ⟨content, time, found, leads, fun directory => free directory,
              (Except.ok.inj moved).symm⟩
      · cases moved
      · cases moved

section Reading

/-- What is read at the end of a path is the text of the file that stands there. -/
theorem readText_located (located : tree.locate here path = .ok place)
    (open' : endsInSeparator path = false) :
    (tree.readText here path).toOption = (tree.fileAt place).bind String.fromUTF8? := by
  simp only [readText, find, located, fileAt, bind, Except.bind]
  cases tree.entry? place with
  | none => rfl
  | some entry =>
      cases entry with
      | directory => rfl
      | file content time =>
          simp only [open', Option.bind_some, Bool.false_eq_true, if_false]
          cases decoded : String.fromUTF8? content <;> simp [Except.toOption]

theorem locate_of_readText {text : String} (read : tree.readText here path = .ok text) :
    ∃ place, tree.locate here path = .ok place := by
  obtain ⟨_, found, _⟩ := bind_ok read
  obtain ⟨place, located, _⟩ := bind_ok found
  exact ⟨place, located⟩

theorem locate_of_realPath {real : Path} (leads : tree.realPath here path = .ok real) :
    ∃ place, tree.locate here path = .ok place ∧ real = pathOf place := by
  obtain ⟨place, located, made⟩ := bind_ok leads
  split at made
  · cases made
  · split at made
    · cases made
    · exact ⟨place, located, (Except.ok.inj made).symm⟩

end Reading

end MonorepoCheck.FileTree
