import Mathlib.Data.Set.Insert
import MonorepoCheck.Proofs.Cache.Room
import MonorepoCheck.Proofs.Cache.Sharing

/-!
What a save leaves behind where it fails. Nothing, as long as it has not begun to write; from then on
the temporary file stays with what was written, and nobody takes it away. The move to a place where a
directory stands fails every time, so that each try leaves one more file.
-/
namespace MonorepoCheck.CacheStore

open FileTree

/-- The names of the files right inside a directory. -/
def namesIn (tree : FileTree) (directory : Location) : Set String :=
  {name | (tree.fileAt (directory ++ [name])).isSome = true}

theorem mem_namesIn {tree : FileTree} {directory : Location} {name : String} :
    name ∈ namesIn tree directory ↔ (tree.fileAt (directory ++ [name])).isSome = true := Iff.rfl

/-- How many bytes a step tells to stand in the temporary file. -/
def Event.written? : Event → Option Nat
  | .advanced _ (.writing count) => some count
  | _ => none

/-- How many bytes the last step that wrote left in the temporary file. -/
def written? (events : List Event) : Option Nat := (events.filterMap Event.written?).getLast?

theorem written?_snoc (events : List Event) (event : Event) :
    written? (events ++ [event]) = event.written?.or (written? events) := by
  rw [written?, List.filterMap_append, List.getLast?_append, written?]
  cases told : event.written? with
  | none => simp [told]
  | some count => simp [told]

/-- What a save leaves that stops when so many bytes of its temporary file are written, if it came to
write any. -/
structure Leaves (store : CacheStore) (host : Host) (entry : CacheEntry) (token : String)
    (written : Option Nat) (later : Host) : Prop where
  only : OnlyFiles host later
  elsewhere : ∀ place, place ≠ placeOf host.here (store.temporaryPath entry.key token) →
    later.files.fileAt place = host.files.fileAt place
  temporary : later.files.fileAt (placeOf host.here (store.temporaryPath entry.key token))
    = (written.map (entry.toJson.prettyText.toUTF8.extract 0)).or
        (host.files.fileAt (placeOf host.here (store.temporaryPath entry.key token)))

section General

variable {store : CacheStore} {host later : Host} {entry : CacheEntry} {token : String}
  {events : List Event} {written : Option Nat} {finish : Traffic} {next : Progress}

theorem Leaves.of_same (only : OnlyFiles host later)
    (files : ∀ place, later.files.fileAt place = host.files.fileAt place) :
    Leaves store host entry token none later where
  only := only
  elsewhere := fun place _ => files place
  temporary := by rw [files, Option.map_none, Option.none_or]

section Steps

variable {call : Call} {middle : Host} {progress : Progress}

/-- A step that moves nothing leaves what stood there, but for what it writes of its temporary file. -/
theorem Leaves.advance (left : Leaves store host entry token written middle)
    (advance : Advance store ⟨entry, token, progress⟩ middle later next)
    (unmoved : next ≠ .moved) :
    Leaves store host entry token ((Event.advanced entry next).written?.or written) later := by
  have here := left.only.here
  have place_eq : (Call.mk entry token progress).temporary store middle.here
      = placeOf host.here (store.temporaryPath entry.key token) := by
    rw [here]
    rfl
  constructor
  case only => exact left.only.trans advance.only
  case elsewhere =>
      intro place away
      rw [advance.fileAt place, ← left.elsewhere place away]
      cases next with
      | writing count => rw [fileAfter, place_eq, if_neg away]
      | moved => exact absurd rfl unmoved
      | begun | ready | failed => rfl
  case temporary =>
      rw [advance.fileAt]
      cases next with
      | writing count =>
          rw [fileAfter, place_eq, if_pos rfl]
          rfl
      | moved => exact absurd rfl unmoved
      | begun | ready | failed => exact left.temporary

/-- A save on its own, after any of its steps. -/
theorem run_leaves (run : Run store (alone host entry token .begun) events finish) :
    ∃ later progress, finish = alone later entry token progress
      ∧ (progress ≠ .moved → Leaves store host entry token (written? events) later) := by
  induction run with
  | nil => exact ⟨host, .begun, rfl, fun _ => .of_same rfl fun _ => rfl⟩
  | step _ step ih =>
      obtain ⟨middle, progress, rfl, left⟩ := ih
      cases step with
      | load key =>
          refine ⟨middle, progress, rfl, fun unmoved => ?_⟩
          rw [written?_snoc]
          exact left unmoved
      | @advance index call later next found advance =>
          obtain ⟨rfl, rfl⟩ : index = 0 ∧ call = ⟨entry, token, progress⟩ := by
            cases index with
            | zero => exact ⟨rfl, (Option.some.inj found).symm⟩
            | succ index => simp [alone] at found
          refine ⟨later, next, rfl, fun unmoved => ?_⟩
          -- a save whose file is moved takes no further step
          rw [written?_snoc]
          exact (left advance.unfinished).advance advance unmoved

end Steps

/-- What a failed save left is nothing, but for the whole temporary file where it is the move that
failed. -/
theorem failed_save {failure : Failure}
    (saved : store.save host token entry = (later, .error failure)) :
    ∃ written, Leaves store host entry token written later
      ∧ (written = none
        ↔ ∀ cause, failure ≠ .cacheNotReplaced (store.entryPath entry.key) cause) := by
  rw [save_eq] at saved
  split at saved
  · obtain ⟨rfl, same⟩ := Prod.mk.inj saved
    obtain rfl := Except.error.inj same
    exact ⟨none, .of_same rfl fun _ => rfl, by simp⟩
  · rename_i first made
    obtain ⟨onlyFirst, gains⟩ := makeDirectories_ok made
    split at saved
    · obtain ⟨rfl, same⟩ := Prod.mk.inj saved
      obtain rfl := Except.error.inj same
      exact ⟨none, .of_same onlyFirst gains.fileAt_eq, by simp⟩
    · rename_i second wrote
      obtain ⟨onlySecond, free, files⟩ := writeText_ok wrote
      rw [onlyFirst.here] at free files
      have some' := nonempty_of_entry free
      split at saved
      · obtain ⟨rfl, same⟩ := Prod.mk.inj saved
        obtain rfl := Except.error.inj same
        refine ⟨some entry.toJson.prettyText.toUTF8.size, ?_, by simp⟩
        constructor
        case only => exact onlyFirst.trans onlySecond
        case elsewhere =>
            intro place away
            rw [files, fileAt_put_file some', if_neg away, gains.fileAt_eq]
        case temporary =>
            rw [files, fileAt_put_file some', if_pos rfl, Option.map_some, Option.some_or,
              ByteArray.extract_zero_size]
      · cases (Prod.mk.inj saved).2

namespace Leaves

theorem names_unwritten (left : Leaves store host entry token none later) (directory : Location) :
    namesIn later.files directory = namesIn host.files directory := by
  ext name
  by_cases here : directory ++ [name] = placeOf host.here (store.temporaryPath entry.key token)
  · rw [mem_namesIn, mem_namesIn, here, left.temporary, Option.map_none, Option.none_or]
  · rw [mem_namesIn, mem_namesIn, left.elsewhere _ here]

theorem names_written {count : Nat} (left : Leaves store host entry token (some count) later)
    (plain : PlainKey entry.key) (plainToken : PlainToken token) :
    namesIn later.files (placeOf host.here store.directory)
      = insert (temporaryName entry.key token)
          (namesIn host.files (placeOf host.here store.directory)) := by
  have temporary : placeOf host.here (store.temporaryPath entry.key token)
      = placeOf host.here store.directory ++ [temporaryName entry.key token] :=
    temporary_place_eq host.here plain plainToken
  ext name
  rw [Set.mem_insert_iff, mem_namesIn, mem_namesIn]
  by_cases own : name = temporaryName entry.key token
  · rw [own, ← temporary, left.temporary]
    simp
  · rw [left.elsewhere _ fun same => own ?_]
    · simp [own]
    · simpa [temporary] using same

end Leaves

/-- A save that fails leaves what it had written of its temporary file, and otherwise the files as they
were. It had written nothing where the directories or the file could not be made, and all where the file
could not be moved. -/
theorem failed_save_leaves (plain : PlainKey entry.key) (plainToken : PlainToken token)
    (host : Host) :
    (∀ later failure, store.save host token entry = (later, .error failure) →
      ∃ written, Leaves store host entry token written later
        ∧ (written = none
          ↔ ∀ cause, failure ≠ .cacheNotReplaced (store.entryPath entry.key) cause))
    ∧ (∀ events later,
      Run store (alone host entry token .begun) events (alone later entry token .failed) →
        Leaves store host entry token (written? events) later)
    ∧ ∀ written later, Leaves store host entry token written later →
      namesIn later.files (placeOf host.here store.directory)
        = if written.isSome then insert (temporaryName entry.key token)
              (namesIn host.files (placeOf host.here store.directory))
            else namesIn host.files (placeOf host.here store.directory) := by
  refine ⟨fun later failure saved => failed_save saved, ?_, ?_⟩
  · intro events later run
    obtain ⟨other, progress, same, left⟩ := run_leaves run
    obtain ⟨rfl, calls⟩ := Traffic.mk.inj same
    obtain rfl : Progress.failed = progress := (Call.mk.inj (List.cons.inj calls).1).2.2
    exact left (by decide)
  · intro written later left
    cases written with
    | none => exact left.names_unwritten _
    | some count => exact left.names_written plain plainToken

section Blocked

/-- Whether a directory stands where an entry belongs, in a directory in which its temporary file can be
written. -/
structure Blocked (store : CacheStore) (host : Host) (key token : String) : Prop where
  admits : Admits store host.files host.here key token
  writable : host.files.entry? (placeOf host.here store.directory ++ [temporaryName key token])
    ≠ some .directory
  blocks : host.files.entry? (placeOf host.here store.directory ++ [key ++ ".json"])
    = some .directory

instance {key : String} : Decidable (Blocked store host key token) :=
  decidable_of_iff (_ ∧ _ ∧ _) ⟨fun ⟨admits, writable, blocks⟩ => ⟨admits, writable, blocks⟩,
    fun ⟨admits, writable, blocks⟩ => ⟨admits, writable, blocks⟩⟩

/-- The files of a machine once the temporary file of an entry stands there. -/
def withTemporary (store : CacheStore) (host : Host) (entry : CacheEntry) (token : String) : FileTree :=
  host.files.put (placeOf host.here store.directory ++ [temporaryName entry.key token])
    (.file entry.toJson.prettyText.toUTF8 host.now)

namespace Blocked

variable (blocked : Blocked store host entry.key token)
include blocked

theorem keepsDirectories : KeepsDirectories host.files (store.withTemporary host entry token) :=
  keepsDirectories_put _ (nonempty_of_entry blocked.writable)
    fun directory => absurd directory blocked.writable

/-- No file can be moved to where a directory stands. -/
theorem save_eq (plain : PlainKey entry.key) (plainToken : PlainToken token) :
    store.save host token entry = ({ host with files := store.withTemporary host entry token },
      .error (.cacheNotReplaced (store.entryPath entry.key) .isDirectory)) := by
  obtain ⟨located, above⟩ := find_directory (isDirectoryAt_iff.mp blocked.admits.stands)
  have made : host.makeDirectories store.directory = .ok host := by
    rw [Host.makeDirectories, makeDirectories_stands blocked.admits.stands]
    rfl
  have source := blocked.admits.locate_temporary plain plainToken
  have wrote : host.writeText (store.temporaryPath entry.key token) entry.toJson.prettyText
      = .ok { host with files := store.withTemporary host entry token } := by
    rw [Host.writeText, writeText,
      writeBytes_inside above source blocked.writable (temporaryPath_open plain)]
    rfl
  have kept := blocked.keepsDirectories
  have moves : (store.withTemporary host entry token).renameFile host.here
      (store.temporaryPath entry.key token) (store.entryPath entry.key) = .error .isDirectory := by
    have standing : FileTree.entry? (store.withTemporary host entry token)
        (placeOf host.here store.directory ++ [temporaryName entry.key token])
          = some (.file entry.toJson.prettyText.toUTF8 host.now) :=
      (entry?_put _ (nonempty_of_entry blocked.writable)).trans (if_pos rfl)
    rw [renameFile, locate_later kept source,
      locate_later kept (blocked.admits.locate_entry plain)]
    simp only [bind, Except.bind, standing, kept _ blocked.blocks]
  rw [CacheStore.save_eq, made]
  simp only [wrote, moves]

/-- The file that was not moved is one more file. -/
theorem names (plain : PlainKey entry.key) (plainToken : PlainToken token) :
    namesIn (store.withTemporary host entry token) (placeOf host.here store.directory)
      = insert (temporaryName entry.key token)
          (namesIn host.files (placeOf host.here store.directory)) := by
  obtain ⟨written, left, silent⟩ := failed_save (blocked.save_eq plain plainToken)
  cases written with
  | none => exact absurd rfl (silent.mp rfl .isDirectory)
  | some count => exact left.names_written plain plainToken

/-- The next try fails as well. -/
theorem again {mark : String} (next : Blocked store host entry.key mark) :
    Blocked store { host with files := store.withTemporary host entry token } entry.key mark := by
  have kept := blocked.keepsDirectories
  obtain ⟨located, above⟩ := find_directory (isDirectoryAt_iff.mp blocked.admits.stands)
  constructor
  case admits =>
      obtain ⟨_, noZero, shortName, shortPath⟩ := next.admits
      refine ⟨?_, noZero, shortName, shortPath⟩
      exact isDirectoryAt_iff.mpr (find_of_located (locate_later kept located) (kept _ above))
  case writable =>
      change FileTree.entry? (store.withTemporary host entry token) _ ≠ _
      rw [withTemporary, entry?_put _ (nonempty_of_entry blocked.writable)]
      split
      · exact fun same => by cases same
      · exact next.writable
  case blocks => exact kept _ blocked.blocks

end Blocked

/-- The machine after saves of an entry that are tried one after another, each with its token. -/
def tries (store : CacheStore) (entry : CacheEntry) (host : Host) (tokens : List String) : Host :=
  tokens.foldl (fun host token => (store.save host token entry).1) host

/-- Where a directory stands in the way of an entry, every try to save it leaves its temporary file. -/
theorem tries_leave {tokens : List String} (plain : PlainKey entry.key)
    (plainTokens : ∀ token ∈ tokens, PlainToken token)
    (blocked : ∀ token ∈ tokens, Blocked store host entry.key token) (name : String) :
    name ∈ namesIn (store.tries entry host tokens).files (placeOf host.here store.directory)
      ↔ (∃ token ∈ tokens, name = temporaryName entry.key token)
        ∨ name ∈ namesIn host.files (placeOf host.here store.directory) := by
  induction tokens generalizing host with
  | nil => simp [tries]
  | cons token rest ih =>
      obtain ⟨plainToken, plainRest⟩ := List.forall_mem_cons.mp plainTokens
      obtain ⟨here, later⟩ := List.forall_mem_cons.mp blocked
      have tried : (store.save host token entry).1
          = { host with files := store.withTemporary host entry token } :=
        congrArg Prod.fst (here.save_eq plain plainToken)
      rw [tries, List.foldl_cons, tried, ← tries,
        ih plainRest fun mark member => here.again (later mark member),
        here.names plain plainToken, Set.mem_insert_iff, List.exists_mem_cons_iff,
        or_left_comm, or_assoc]

end Blocked

end General

/-! A directory that has the name of an entry. -/
namespace InTheWay

def store : CacheStore := ⟨⟨"/c"⟩⟩

def entry : CacheEntry :=
  ⟨"0123456789abcdef0123456789abcdef", "a", "", .ofDiagnostics "a" [], ⟨10, 0⟩⟩

def host : Host where
  files := ⟨[(["c"], .directory), (["c", "0123456789abcdef0123456789abcdef.json"], .directory)]⟩
  now := ⟨20, 0⟩

theorem entry_plain : PlainKey entry.key := .of_digits (by decide) (by decide)

theorem token_plain : PlainToken "a1" := ⟨by decide, by decide⟩

theorem blocked : Blocked store host entry.key "a1" := by decide +kernel

theorem no_file (name : String) : name ∉ namesIn host.files ["c"] := by
  intro listed
  obtain ⟨content, found⟩ := Option.isSome_iff_exists.mp listed
  obtain ⟨time, member⟩ := mem_of_fileAt found
  simp [host] at member

end InTheWay

open InTheWay in
theorem failed_save_leaves_file :
    PlainKey entry.key ∧ PlainToken "a1"
      ∧ (store.save host "a1" entry).2
        = .error (.cacheNotReplaced ⟨"/c/0123456789abcdef0123456789abcdef.json"⟩ .isDirectory)
      ∧ namesIn (store.save host "a1" entry).1.files ["c"]
        = {"0123456789abcdef0123456789abcdef.json.a1.tmp"} := by
  have failed := blocked.save_eq entry_plain token_plain
  obtain ⟨told, _, names⟩ := failed_save_leaves entry_plain token_plain host
  obtain ⟨written, left, silent⟩ := told _ _ failed
  have wrote : written.isSome = true := by
    rw [Option.isSome_iff_ne_none]
    exact fun none' => silent.mp none' .isDirectory rfl
  have listed := names written _ left
  rw [if_pos wrote] at listed
  refine ⟨entry_plain, token_plain, by rw [failed]; rfl, ?_⟩
  have none' : namesIn host.files (placeOf host.here store.directory) = ∅ :=
    Set.eq_empty_iff_forall_notMem.mpr no_file
  rw [none', insert_empty_eq] at listed
  rw [failed]
  exact listed

open InTheWay in
/-- A save that fails although its directory is there may leave a file behind. -/
theorem failed_save_leaves_trace : ¬ ∀ (store : CacheStore) (host later : Host) (token : String)
    (entry : CacheEntry) (failure : Failure), host.isDirectoryAt store.directory = true →
    store.save host token entry = (later, .error failure) →
    namesIn later.files (placeOf host.here store.directory)
      = namesIn host.files (placeOf host.here store.directory) := by
  intro claim
  have same := claim store host _ "a1" entry _ blocked.admits.stands
    (blocked.save_eq entry_plain token_plain)
  rw [blocked.names entry_plain token_plain] at same
  exact no_file _ (same ▸ Set.mem_insert _ _)

end MonorepoCheck.CacheStore
