import MonorepoCheck.Proofs.Cache.Entry
import MonorepoCheck.Proofs.Cache.Places

/-!
What a store keeps. Saving puts an entry at its place or, where that fails, leaves every entry as it
was; the entries of other keys stay in either case.
-/
namespace MonorepoCheck.CacheStore

open FileTree

/-- The entry of a key that the bytes of a file spell. -/
def decoded? (key : String) (content : ByteArray) : Option CacheEntry := do
  let text ← String.fromUTF8? content
  let entry ← (Json.parseText? text).bind CacheEntry.ofJson?
  if entry.key = key then pure entry else none

/-- The entry that stands at the place of a key, whether or not its path can be followed. -/
def kept? (store : CacheStore) (host : Host) (key : String) : Option CacheEntry :=
  (host.files.fileAt (store.place host.here key)).bind (decoded? key)

variable {store : CacheStore} {host later : Host} {key other token : String} {entry : CacheEntry}

section Decoding

theorem fromUTF8?_toUTF8 (text : String) : String.fromUTF8? text.toUTF8 = some text := by
  simp only [String.fromUTF8?, String.toUTF8_eq_toByteArray, dif_pos text.isValidUTF8]
  rfl

/-- The bytes of a saved entry spell that entry, if it can be read back at all. -/
theorem decoded?_saved (entry : CacheEntry) :
    decoded? entry.key entry.toJson.prettyText.toUTF8 = if entry.fits then some entry else none := by
  rw [decoded?, fromUTF8?_toUTF8, Option.bind_eq_bind, Option.bind_some,
    CacheEntry.read_prettyText entry]
  cases entry.fits <;> simp

end Decoding

section Loading

theorem load_located {place : Location} (plain : PlainKey key)
    (leads : host.files.locate host.here (store.entryPath key) = .ok place) :
    store.load host key = store.kept? host key := by
  have text := readText_located leads (entryPath_open plain)
  obtain rfl := locate_place leads
  rw [load, Host.readText, text, kept?, CacheStore.place, Option.bind_eq_bind, Option.bind_assoc]
  rfl

theorem leads_of_load (loaded : store.load host key = some entry) :
    ∃ place, host.files.locate host.here (store.entryPath key) = .ok place := by
  obtain ⟨text, read, _⟩ := Option.bind_eq_some_iff.mp loaded
  cases found : host.readText (store.entryPath key) with
  | error cause => simp [found, Except.toOption] at read
  | ok text => exact locate_of_readText found

/-- An entry that is loaded stands at the place of its key. -/
theorem kept?_of_load (plain : PlainKey key) (loaded : store.load host key = some entry) :
    store.kept? host key = some entry := by
  obtain ⟨place, leads⟩ := leads_of_load loaded
  rw [← load_located plain leads]
  exact loaded

end Loading

/-- Whether two machines differ in nothing but their files. -/
def OnlyFiles (host later : Host) : Prop := later = { host with files := later.files }

namespace OnlyFiles

theorem here (only : OnlyFiles host later) : later.here = host.here := by
  rw [show later = { host with files := later.files } from only]

theorem now (only : OnlyFiles host later) : later.now = host.now := by
  rw [show later = { host with files := later.files } from only]

theorem trans {last : Host} (first : OnlyFiles host later) (second : OnlyFiles later last) :
    OnlyFiles host last := by
  rw [OnlyFiles, show last = { later with files := last.files } from second,
    show later = { host with files := later.files } from first]

end OnlyFiles

/-- What a successful save did: the entry stands at its place, its path can be followed, no
directory is lost and the files of other keys are as they were. -/
structure Saved (store : CacheStore) (host : Host) (entry : CacheEntry) (later : Host) : Prop where
  only : OnlyFiles host later
  directories : KeepsDirectories host.files later.files
  leads : later.files.locate host.here (store.entryPath entry.key)
    = .ok (store.place host.here entry.key)
  written : later.files.fileAt (store.place host.here entry.key)
    = some entry.toJson.prettyText.toUTF8
  others : ∀ other, PlainKey other → other ≠ entry.key →
    later.files.fileAt (store.place host.here other)
      = host.files.fileAt (store.place host.here other)

/-- What a failed save may have done: nothing to the file of any key. -/
structure Unsaved (store : CacheStore) (host later : Host) : Prop where
  only : OnlyFiles host later
  files : ∀ key, PlainKey key →
    later.files.fileAt (store.place host.here key) = host.files.fileAt (store.place host.here key)

section Requests

theorem makeDirectories_ok {path : Path} (made : host.makeDirectories path = .ok later) :
    OnlyFiles host later ∧ GainsDirectories host.files later.files := by
  obtain ⟨files, done, same⟩ := bind_ok made
  obtain rfl := Except.ok.inj same
  exact ⟨rfl, gains_makeDirectories done⟩

theorem writeText_ok {path : Path} {text : String} (wrote : host.writeText path text = .ok later) :
    OnlyFiles host later ∧ host.files.entry? (placeOf host.here path) ≠ some .directory
      ∧ later.files = host.files.put (placeOf host.here path) (.file text.toUTF8 host.now) := by
  obtain ⟨files, done, same⟩ := bind_ok wrote
  obtain rfl := Except.ok.inj same
  obtain ⟨_, free, rfl⟩ := writeBytes_ok done
  exact ⟨rfl, free, rfl⟩

end Requests

theorem save_eq : store.save host token entry =
    match host.makeDirectories store.directory with
    | .error cause => (host, .error (.cacheNotMade store.directory cause))
    | .ok host =>
      match host.writeText (store.temporaryPath entry.key token) entry.toJson.prettyText with
      | .error cause =>
        (host, .error (.cacheUnwritten (store.temporaryPath entry.key token) cause))
      | .ok host =>
        match host.files.renameFile host.here (store.temporaryPath entry.key token)
          (store.entryPath entry.key) with
        | .error cause => (host, .error (.cacheNotReplaced (store.entryPath entry.key) cause))
        | .ok files => ({ host with files := files }, .ok ()) := by
  rw [save]
  rfl

section Moving

variable {first last : FileTree}

/-- The temporary file stands at the place of no key. -/
theorem fileAt_temporary (plain : PlainKey entry.key) (plainKey : PlainKey key)
    (gains : GainsDirectories host.files first) (content : ByteArray) (time : Instant)
    (some' : placeOf host.here (store.temporaryPath entry.key token) ≠ []) :
    (first.put (placeOf host.here (store.temporaryPath entry.key token))
        (.file content time)).fileAt (store.place host.here key)
      = host.files.fileAt (store.place host.here key) := by
  rw [fileAt_put_file some', if_neg (temporary_ne_place store token host.here plain plainKey).symm, gains.fileAt_eq]

/-- Once the temporary file is moved, the entry is saved. -/
theorem saved_of_moved {time : Instant} (plain : PlainKey entry.key) (gains : GainsDirectories host.files first)
    (free : first.entry? (placeOf host.here (store.temporaryPath entry.key token))
      ≠ some .directory)
    (moved : (first.put (placeOf host.here (store.temporaryPath entry.key token))
        (.file entry.toJson.prettyText.toUTF8 time)).renameFile host.here
          (store.temporaryPath entry.key token) (store.entryPath entry.key) = .ok last) :
    Saved store host entry { host with files := last } := by
  have some' := nonempty_of_entry free
  have away {key : String} (plainKey : PlainKey key) :=
    fileAt_temporary plain plainKey gains entry.toJson.prettyText.toUTF8 time some'
  have written := gains.keepsDirectories.trans (keepsDirectories_put
    (.file entry.toJson.prettyText.toUTF8 time) some' fun directory => absurd directory free)
  have standing : FileTree.entry? (first.put
      (placeOf host.here (store.temporaryPath entry.key token))
        (.file entry.toJson.prettyText.toUTF8 time))
        (placeOf host.here (store.temporaryPath entry.key token))
      = some (.file entry.toJson.prettyText.toUTF8 time) := by
    rw [entry?_put _ some', if_pos rfl]
  -- the tree with the temporary file is all that the move depends on
  generalize first.put (placeOf host.here (store.temporaryPath entry.key token))
    (.file entry.toJson.prettyText.toUTF8 time) = second at *
  obtain ⟨content, now, source, leads, noDirectory, rfl⟩ := renameFile_ok moved
  obtain ⟨rfl, rfl⟩ := Entry.file.inj (Option.some.inj (standing.symm.trans source))
  have target : placeOf host.here (store.entryPath entry.key) ≠ [] :=
    nonempty_of_entry noDirectory
  have stillFree : FileTree.entry?
      (second.erase (placeOf host.here (store.temporaryPath entry.key token)))
      (placeOf host.here (store.entryPath entry.key)) ≠ some .directory := by
    rw [entry?_erase some']
    split
    · simp
    · exact noDirectory
  -- the file stands for no directory, neither where it was nor where it goes
  have moves := (keepsDirectories_erase (by rw [standing]; simp)).trans
    (keepsDirectories_put (.file entry.toJson.prettyText.toUTF8 time) target
      fun directory => absurd directory stillFree)
  constructor
  case only => rfl
  case directories => exact written.trans moves
  case leads => exact locate_later moves leads
  case written => exact (fileAt_put_file target).trans (if_pos rfl)
  case others =>
      intro other plainOther different
      have elsewhere : store.place host.here other ≠ placeOf host.here (store.entryPath entry.key) :=
        fun same => different (place_injective plainOther plain same)
      have notTemporary := (temporary_ne_place store token host.here plain plainOther).symm
      exact (fileAt_put_file target).trans ((if_neg elsewhere).trans
        ((fileAt_erase some').trans ((if_neg notTemporary).trans (away plainOther))))

end Moving

/-- A save either goes well or leaves the file of every key as it was. -/
theorem save_spec (plain : PlainKey entry.key) {result : Except Failure Unit}
    (saved : store.save host token entry = (later, result)) :
    result = .ok () ∧ Saved store host entry later
      ∨ (∃ cause, result = .error cause) ∧ Unsaved store host later := by
  -- the save stops at the first of its three requests that fails
  rw [save_eq] at saved
  split at saved
  · obtain ⟨rfl, rfl⟩ := Prod.mk.inj saved
    exact .inr ⟨⟨_, rfl⟩, rfl, fun _ _ => rfl⟩
  · rename_i first made
    obtain ⟨onlyFirst, gains⟩ := makeDirectories_ok made
    split at saved
    · obtain ⟨rfl, rfl⟩ := Prod.mk.inj saved
      exact .inr ⟨⟨_, rfl⟩, onlyFirst, fun key _ => gains.fileAt_eq _⟩
    · rename_i second wrote
      obtain ⟨onlySecond, free, files⟩ := writeText_ok wrote
      have only := onlyFirst.trans onlySecond
      rw [onlyFirst.here] at free files
      split at saved
      · obtain ⟨rfl, rfl⟩ := Prod.mk.inj saved
        refine .inr ⟨⟨_, rfl⟩, only, fun key plainKey => ?_⟩
        rw [files]
        exact fileAt_temporary plain plainKey gains _ _ (nonempty_of_entry free)
      · rename_i last moved
        obtain ⟨rfl, rfl⟩ := Prod.mk.inj saved
        rw [only.here, files] at moved
        have done := saved_of_moved plain gains free moved
        rw [show ({ second with files := last } : Host) = { host with files := last } by
          rw [show second = { host with files := second.files } from only]]
        exact .inl ⟨rfl, done⟩

/-- An entry that can be loaded still can where no directory is lost and its file is the same. -/
theorem load_of_kept (plain : PlainKey key) (here : later.here = host.here)
    (directories : KeepsDirectories host.files later.files)
    (same : store.kept? later key = store.kept? host key) (loaded : store.load host key = some entry) :
    store.load later key = some entry := by
  obtain ⟨place, leads⟩ := leads_of_load loaded
  have still := locate_later directories leads
  rw [← here] at still
  rw [load_located plain still, same]
  exact kept?_of_load plain loaded

namespace Saved

theorem kept?_self (saved : Saved store host entry later) :
    store.kept? later entry.key = if entry.fits then some entry else none := by
  rw [kept?, saved.only.here, saved.written, Option.bind_some, decoded?_saved]

theorem kept?_other (saved : Saved store host entry later) (plain : PlainKey other)
    (different : other ≠ entry.key) : store.kept? later other = store.kept? host other := by
  rw [kept?, kept?, saved.only.here, saved.others other plain different]

theorem load_self (saved : Saved store host entry later) (plain : PlainKey entry.key)
    (fits : entry.fits = true) :
    store.load later entry.key = some entry := by
  have leads := saved.leads
  rw [← saved.only.here] at leads
  rw [load_located plain leads, saved.kept?_self, if_pos fits]

theorem load_other (saved : Saved store host entry later) (plain : PlainKey other)
    (different : other ≠ entry.key) {found : CacheEntry}
    (loaded : store.load host other = some found) : store.load later other = some found :=
  load_of_kept plain saved.only.here saved.directories (saved.kept?_other plain different) loaded

end Saved

theorem Unsaved.kept?_eq (unsaved : Unsaved store host later) (plain : PlainKey key) :
    store.kept? later key = store.kept? host key := by
  rw [kept?, kept?, unsaved.only.here, unsaved.files key plain]

section Reachable

/-- Whether whatever stands under a key can be loaded. A path that leads nowhere hides what stands
at the place it names. -/
def Reachable (store : CacheStore) (host : Host) (key : String) : Prop :=
  store.load host key = store.kept? host key

theorem Reachable.mono (plain : PlainKey key) (reachable : store.Reachable host key)
    (same : store.kept? later key = store.kept? host key)
    (stays : ∀ entry, store.load host key = some entry → store.load later key = some entry) :
    store.Reachable later key := by
  cases kept : store.kept? later key with
  | none =>
      rw [Reachable, kept]
      apply Option.eq_none_iff_forall_ne_some.mpr
      intro entry loaded
      rw [kept?_of_load plain loaded] at kept
      cases kept
  | some entry =>
      rw [Reachable, kept]
      exact stays entry (reachable.trans (same.symm.trans kept))

theorem Saved.reachable (saved : Saved store host entry later) (plain : PlainKey entry.key) :
    store.Reachable later entry.key := by
  rw [Reachable, saved.kept?_self]
  -- an entry too large to be read back is as good as none
  split
  · rename_i fits
    exact saved.load_self plain fits
  · rename_i large
    apply Option.eq_none_iff_forall_ne_some.mpr
    intro found loaded
    have kept := kept?_of_load plain loaded
    rw [saved.kept?_self, if_neg large] at kept
    cases kept

end Reachable

end MonorepoCheck.CacheStore
