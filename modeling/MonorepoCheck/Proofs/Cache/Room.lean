import MonorepoCheck.Proofs.Cache.Store
import MonorepoCheck.Proofs.Files.Moved

/-!
When a save goes well. The directory of the store has to be there once its path is made, and only a
directory where one of the two files belongs, or a path that is too long, keeps them out.
-/
namespace MonorepoCheck

namespace FileTree

variable {tree : FileTree} {here place target : Location} {directory path new : Path} {name : String}

/-- A directory that steps lead to can be followed into. -/
theorem follow_snoc {steps : List Walk}
    (followed : follow tree (tree.subtree place) place steps = .ok target)
    (stands : tree.entry? target = some .directory) (short : name.utf8ByteSize ≤ nameLimit) :
    follow tree (tree.subtree place) place (steps ++ [.into name]) = .ok (target ++ [name]) := by
  induction steps generalizing place with
  | nil =>
      obtain rfl := Except.ok.inj followed
      rw [List.nil_append, follow, if_neg (Nat.not_lt.mpr short)]
      rfl
  | cons step rest ih =>
      cases step with
      | stay => exact ih followed
      | up => exact ih followed
      | into first =>
          obtain ⟨shortFirst, ways⟩ := follow_into followed
          have inside : FileTree.entry? (tree.subtree place) [first] = some .directory
              ∧ follow tree (tree.subtree (place ++ [first])) (place ++ [first]) rest = .ok target := by
            rcases ways with ⟨rfl, rfl⟩ | ⟨_, inside, further⟩
            · rw [entry?_subtree place (List.cons_ne_nil _ _)]
              exact ⟨stands, rfl⟩
            · exact ⟨inside, below_subtree place first ▸ further⟩
          rw [List.cons_append, follow, if_neg shortFirst, if_neg (by simp), inside.1]
          simp only [below_subtree]
          exact ih inside.2

/-- What a name in a directory leads to. -/
theorem locate_join (found : tree.isDirectoryAt here directory = true) (plain : PlainName name.toList)
    (noZero : name.toList.contains (Char.ofNat 0) = false) (short : name.utf8ByteSize ≤ nameLimit)
    (whole : directory.text.utf8ByteSize + 1 + name.utf8ByteSize < pathLimit) :
    tree.locate here (directory.join ⟨name⟩) = .ok (placeOf here directory ++ [name]) := by
  obtain ⟨located, stands⟩ := find_directory (isDirectoryAt_iff.mp found)
  obtain ⟨_, noZero', _, start, followed⟩ := locate_ok located
  have relative := Path.relative_of_noSlash plain.noSlash
  have some' : ¬(directory.join ⟨name⟩).text.isEmpty = true := by
    rw [String.isEmpty_iff, ← String.toList_inj, Path.join_text relative]
    simp [plain.nonempty]
  have zero : ¬(directory.join ⟨name⟩).text.toList.contains (Char.ofNat 0) = true := by
    rw [Path.contains_join directory relative (by decide), noZero]
    simpa using noZero'
  have size : (directory.join ⟨name⟩).text.utf8ByteSize < pathLimit := by
    have point : "/".utf8ByteSize = 1 := rfl
    rw [Path.join, if_neg (by simp [relative])]
    split
    · simp only [String.utf8ByteSize_append]
      omega
    · simp only [String.utf8ByteSize_append]
      omega
  rw [locate, if_neg some', if_neg zero, if_neg (Nat.not_le.mpr size)]
  have origin_eq : origin here (directory.join ⟨name⟩) = origin here directory := by
    rw [origin, origin, Path.isAbsolute_join relative]
  simp only [origin_eq, start]
  rw [Path.walk_join relative, Path.walk_plain plain]
  exact follow_snoc followed stands short

/-- A directory that is there already is not made again. -/
theorem makeDirectories_stands (stands : tree.isDirectoryAt here path = true) : tree.makeDirectories here path = .ok tree := by
  obtain ⟨located, directory⟩ := find_directory (isDirectoryAt_iff.mp stands)
  have exists' : tree.makeDirectory here path = .error .alreadyExists := by
    simp only [makeDirectory, located, bind, Except.bind, directory]
  rw [makeDirectories, if_neg (locate_ok located).1, exists']
  exact if_pos stands

/-- What is put where nothing stands can be taken away again. -/
theorem erase_put {entry : Entry} (free : tree.entry? place = none) (some' : place ≠ []) :
    FileTree.erase (tree.put place entry) place = tree := by
  rw [entry?_nonempty some', Option.map_eq_none_iff, List.find?_eq_none] at free
  have absent : ¬(tree.entries.any fun old => old.1 == place) = true := by
    rintro known
    obtain ⟨old, member, here⟩ := List.any_eq_true.mp known
    exact free old member here
  have whole : tree.entries.filter (fun old => old.1 != place) = tree.entries :=
    List.filter_eq_self.mpr fun old member => by simpa using free old member
  rw [put, if_neg absent, erase, List.filter_append, whole]
  simp

section Requests

variable {content : ByteArray} {time : Instant} (above : tree.entry? place = some .directory)
include above

theorem writeBytes_inside (located : tree.locate here path = .ok (place ++ [name]))
    (free : tree.entry? (place ++ [name]) ≠ some .directory) (open' : endsInSeparator path = false) :
    tree.writeBytes here path content time = .ok (tree.put (place ++ [name]) (.file content time)) := by
  rw [writeBytes, located]
  simp only [bind, Except.bind]
  split
  · rename_i directory
    exact absurd directory free
  · rw [if_neg (by simp [open'])]
  · rw [List.dropLast_concat, above]
    exact if_neg (by simp [open'])

theorem renameFile_inside (source : tree.locate here path = .ok target)
    (file : tree.entry? target = some (.file content time))
    (leads : tree.locate here new = .ok (place ++ [name]))
    (free : tree.entry? (place ++ [name]) ≠ some .directory) :
    tree.renameFile here path new
      = .ok ((tree.erase target).put (place ++ [name]) (.file content time)) := by
  rw [renameFile, source, leads]
  simp only [bind, Except.bind, file, List.dropLast_concat, above]

/-- A file can be written in a directory under one name and moved to another one. Nothing is left of it
under the first name. -/
theorem write_move_inside {other : String}
    (source : tree.locate here path = .ok (place ++ [name]))
    (leads : tree.locate here new = .ok (place ++ [other])) (free : tree.entry? (place ++ [name]) = none)
    (freeOther : tree.entry? (place ++ [other]) ≠ some .directory)
    (open' : endsInSeparator path = false) :
    ∃ written, tree.writeBytes here path content time = .ok written
      ∧ written.renameFile here path new = .ok (tree.put (place ++ [other]) (.file content time)) := by
  have noDirectory : tree.entry? (place ++ [name]) ≠ some .directory := by simp [free]
  have some' := nonempty_of_entry noDirectory
  -- the directory is still there when the file is moved
  have kept : KeepsDirectories tree (tree.put (place ++ [name]) (.file content time)) :=
    keepsDirectories_put _ some' fun directory => absurd directory noDirectory
  have stillFree : FileTree.entry? (tree.put (place ++ [name]) (.file content time))
      (place ++ [other]) ≠ some .directory := by
    rw [entry?_put _ some']
    split
    · exact fun same => by cases same
    · exact freeOther
  have moved := renameFile_inside (kept _ above) (locate_later kept source)
    ((entry?_put _ some').trans (if_pos rfl)) (locate_later kept leads) stillFree
  rw [erase_put free some'] at moved
  exact ⟨_, writeBytes_inside above source noDirectory open', moved⟩

end Requests

end FileTree

namespace CacheStore

open FileTree

variable {store : CacheStore} {host : Host} {files : FileTree} {here : Location} {key token : String}
  {entry : CacheEntry}

/-- Whether files in which the directory of the store was made have room for an entry. -/
structure Fits (store : CacheStore) (files : FileTree) (here : Location) (key token : String) : Prop where
  stands : files.isDirectoryAt here store.directory = true
  noZero : (temporaryName key token).toList.contains (Char.ofNat 0) = false
  shortName : (temporaryName key token).utf8ByteSize ≤ nameLimit
  shortPath : store.directory.text.utf8ByteSize + 1 + (temporaryName key token).utf8ByteSize
    < pathLimit
  fresh : files.entry? (placeOf here store.directory ++ [temporaryName key token]) = none
  free : files.entry? (placeOf here store.directory ++ [key ++ ".json"]) ≠ some .directory

instance (standing : Option Entry) : Decidable (standing = some .directory) :=
  match standing with
  | some .directory => .isTrue rfl
  | some (.file ..) | none => .isFalse (by simp)

instance : Decidable (Fits store files here key token) :=
  decidable_of_iff (_ ∧ _ ∧ _ ∧ _ ∧ _ ∧ _)
    ⟨fun ⟨stands, noZero, shortName, shortPath, fresh, free⟩ =>
        ⟨stands, noZero, shortName, shortPath, fresh, free⟩,
      fun ⟨stands, noZero, shortName, shortPath, fresh, free⟩ =>
        ⟨stands, noZero, shortName, shortPath, fresh, free⟩⟩

/-- Whether the directory of a store can be made, and has room for an entry. -/
def Room (store : CacheStore) (host : Host) (key token : String) : Prop :=
  ∃ files, host.files.makeDirectories host.here store.directory = .ok files
    ∧ Fits store files host.here key token

instance : Decidable (Room store host key token) :=
  match makes : host.files.makeDirectories host.here store.directory with
  | .error _ => .isFalse fun ⟨_, made, _⟩ => by rw [makes] at made; cases made
  | .ok files => decidable_of_iff (Fits store files host.here key token)
      ⟨fun fits => ⟨files, makes, fits⟩,
        fun ⟨_, same, fits⟩ => by obtain rfl := Except.ok.inj (makes.symm.trans same); exact fits⟩

/-- The files of a machine once an entry is among those of its store. -/
def filled (store : CacheStore) (host : Host) (entry : CacheEntry) : FileTree :=
  ((host.files.makeDirectories host.here store.directory).toOption.getD host.files).put
    (placeOf host.here store.directory ++ [entry.key ++ ".json"])
    (.file entry.toJson.prettyText.toUTF8 host.now)

/-- Whether the names of the two files of an entry can be looked up in the directory of a store. -/
structure Admits (store : CacheStore) (files : FileTree) (here : Location) (key token : String) :
    Prop where
  stands : files.isDirectoryAt here store.directory = true
  noZero : (temporaryName key token).toList.contains (Char.ofNat 0) = false
  shortName : (temporaryName key token).utf8ByteSize ≤ nameLimit
  shortPath : store.directory.text.utf8ByteSize + 1 + (temporaryName key token).utf8ByteSize
    < pathLimit

instance : Decidable (Admits store files here key token) :=
  decidable_of_iff (_ ∧ _ ∧ _ ∧ _)
    ⟨fun ⟨stands, noZero, shortName, shortPath⟩ => ⟨stands, noZero, shortName, shortPath⟩,
      fun ⟨stands, noZero, shortName, shortPath⟩ => ⟨stands, noZero, shortName, shortPath⟩⟩

theorem Fits.admits (fits : Fits store files here key token) : Admits store files here key token :=
  ⟨fits.stands, fits.noZero, fits.shortName, fits.shortPath⟩

namespace Admits

variable (admits : Admits store files here key token)
include admits

theorem locate_temporary (plain : PlainKey key) (plainToken : PlainToken token) :
    files.locate here (store.temporaryPath key token)
      = .ok (placeOf here store.directory ++ [temporaryName key token]) := by
  rw [temporaryPath_join plain plainToken]
  exact locate_join admits.stands (temporaryName_plain plain plainToken) admits.noZero
    admits.shortName admits.shortPath

/-- The name of an entry is shorter than the one of its temporary file. -/
theorem locate_entry (plain : PlainKey key) :
    files.locate here (store.entryPath key)
      = .ok (placeOf here store.directory ++ [key ++ ".json"]) := by
  obtain ⟨stands, noZero, shortName, shortPath⟩ := admits
  have longer : (key ++ ".json").utf8ByteSize ≤ (temporaryName key token).utf8ByteSize := by
    have ending : ".json".utf8ByteSize ≤ ".json.".utf8ByteSize := by decide
    simp only [temporaryName, String.utf8ByteSize_append]
    omega
  have zero : (key ++ ".json").toList.contains (Char.ofNat 0) = false := by
    simp only [temporaryName, String.toList_append, List.contains_append, Bool.or_eq_false_iff]
      at noZero ⊢
    exact ⟨noZero.1.1.1, by decide⟩
  exact locate_join stands plain.withJson zero (longer.trans shortName) (by omega)

end Admits

/-- A save goes well where there is room for the entry. -/
theorem save_of_room (plain : PlainKey entry.key) (plainToken : PlainToken token)
    (room : store.Room host entry.key token) :
    store.save host token entry = ({ host with files := store.filled host entry }, .ok ()) := by
  obtain ⟨files, makes, fits⟩ := room
  obtain ⟨-, above⟩ := find_directory (isDirectoryAt_iff.mp fits.stands)
  obtain ⟨written, writes, moves⟩ := @write_move_inside files host.here _ _ _ _
    entry.toJson.prettyText.toUTF8 host.now above _
    (fits.admits.locate_temporary plain plainToken) (fits.admits.locate_entry plain) fits.fresh fits.free
    (temporaryPath_open plain)
  have made : host.makeDirectories store.directory = .ok { host with files := files } := by
    rw [Host.makeDirectories, makes]
    rfl
  have wrote : Host.writeText { host with files := files } (store.temporaryPath entry.key token)
      entry.toJson.prettyText = .ok { host with files := written } := by
    rw [Host.writeText, writeText, writes]
    rfl
  rw [save_eq, made]
  simp only [wrote, moves, filled, makes]
  rfl

end CacheStore
end MonorepoCheck
