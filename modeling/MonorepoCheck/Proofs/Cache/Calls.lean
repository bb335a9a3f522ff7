import MonorepoCheck.Proofs.Cache.Store

/-!
Saves and loads that go on at the same time. A save makes the directories, writes its temporary file
piece by piece and moves the file to its place. Between any two of these steps others take theirs,
and every step may fail. `Run` is any sequence of such steps, and what a save does on its own is one
of them.
-/
namespace MonorepoCheck.CacheStore

open FileTree

/-- How far a save has come. -/
inductive Progress where
  | begun
  /-- the directories are made -/
  | ready
  /-- so many bytes stand in the temporary file -/
  | writing (count : Nat)
  | moved
  | failed
  deriving DecidableEq

/-- A save that somebody asked for. -/
structure Call where
  entry : CacheEntry
  token : String
  progress : Progress := .begun

namespace Call

def bytes (call : Call) : ByteArray := call.entry.toJson.prettyText.toUTF8

def temporaryPath (call : Call) (store : CacheStore) : Path :=
  store.temporaryPath call.entry.key call.token

def temporary (call : Call) (store : CacheStore) (here : Location) : Location :=
  placeOf here (call.temporaryPath store)

/-- How many bytes are written, once the directories are there. -/
def written? (call : Call) : Option Nat :=
  match call.progress with
  | .ready => some 0
  | .writing count => some count
  | _ => none

end Call

/-- What a call can do next, and how far it is then. Directories are made one by one, so others see
some of them before the call is ready, and some of them may stay where it fails. -/
inductive Advance (store : CacheStore) (call : Call) (host : Host) : Host → Progress → Prop where
  | climb {later} : call.progress = .begun → OnlyFiles host later →
      GainsDirectories host.files later.files → Advance store call host later .begun
  | make {later} : call.progress = .begun → host.makeDirectories store.directory = .ok later →
      Advance store call host later .ready
  | write {count more time files} : call.written? = some count → count ≤ more →
      more ≤ call.bytes.size →
      host.files.writeBytes host.here (call.temporaryPath store) (call.bytes.extract 0 more) time
        = .ok files →
      Advance store call host { host with files := files } (.writing more)
  | move {files} : call.progress = .writing call.bytes.size →
      host.files.renameFile host.here (call.temporaryPath store) (store.entryPath call.entry.key)
        = .ok files →
      Advance store call host { host with files := files } .moved
  | fail : call.progress ≠ .moved → Advance store call host host .failed

/-- A machine and the saves under way on it. -/
structure Traffic where
  host : Host
  calls : List Call

inductive Event where
  | advanced (entry : CacheEntry) (progress : Progress)
  | loaded (key : String) (found : Option CacheEntry)

/-- One step of one save, or a load. -/
inductive Step (store : CacheStore) : Traffic → Event → Traffic → Prop where
  | advance {traffic index call later progress} : traffic.calls[index]? = some call →
      Advance store call traffic.host later progress →
      Step store traffic (.advanced call.entry progress)
        ⟨later, traffic.calls.set index { call with progress := progress }⟩
  | load {traffic} (key : String) :
      Step store traffic (.loaded key (store.load traffic.host key)) traffic

/-- Steps one after another, with what is told of them. -/
inductive Run (store : CacheStore) (start : Traffic) : List Event → Traffic → Prop where
  | nil : Run store start [] start
  | step {events middle event finish} : Run store start events middle →
      Step store middle event finish → Run store start (events ++ [event]) finish

variable {store : CacheStore} {host later : Host} {call : Call} {progress : Progress}

theorem Run.trans {start middle finish : Traffic} {before after : List Event}
    (first : Run store start before middle) (second : Run store middle after finish) :
    Run store start (before ++ after) finish := by
  induction second with
  | nil =>
      rw [List.append_nil]
      exact first
  | step _ step ih =>
      rw [← List.append_assoc]
      exact ih.step step

section Files

/-- What stands at a place after a step. -/
def fileAfter (store : CacheStore) (call : Call) (host : Host) (progress : Progress)
    (place : Location) : Option ByteArray :=
  match progress with
  | .writing count =>
    if place = call.temporary store host.here then some (call.bytes.extract 0 count)
    else host.files.fileAt place
  | .moved =>
    if place = store.place host.here call.entry.key then
      host.files.fileAt (call.temporary store host.here)
    else if place = call.temporary store host.here then none
    else host.files.fileAt place
  | _ => host.files.fileAt place

theorem Advance.only (advance : Advance store call host later progress) : OnlyFiles host later := by
  cases advance with
  | climb _ only _ => exact only
  | make _ made => exact (makeDirectories_ok made).1
  | write => rfl
  | move => rfl
  | fail => rfl

theorem Advance.directories (advance : Advance store call host later progress) :
    KeepsDirectories host.files later.files := by
  cases advance with
  | climb _ _ gains => exact gains.keepsDirectories
  | make _ made => exact (makeDirectories_ok made).2.keepsDirectories
  | write _ _ _ wrote =>
      obtain ⟨_, free, rfl⟩ := writeBytes_ok wrote
      exact keepsDirectories_put _ (nonempty_of_entry free) fun directory => absurd directory free
  | move _ moved =>
      obtain ⟨content, time, source, _, noDirectory, rfl⟩ := renameFile_ok moved
      have file := keepsDirectories_erase (by rw [source]; simp)
      refine file.trans (keepsDirectories_put _ (nonempty_of_entry noDirectory) ?_)
      intro directory
      rw [entry?_erase (nonempty_of_entry (by rw [source]; simp))] at directory
      split at directory
      · cases directory
      · exact absurd directory noDirectory
  | fail => exact fun _ here => here

theorem Advance.fileAt (advance : Advance store call host later progress) (place : Location) :
    later.files.fileAt place = fileAfter store call host progress place := by
  cases advance with
  | climb _ _ gains => exact gains.fileAt_eq place
  | make _ made => exact (makeDirectories_ok made).2.fileAt_eq place
  | write _ _ _ wrote =>
      obtain ⟨_, free, rfl⟩ := writeBytes_ok wrote
      exact fileAt_put_file (nonempty_of_entry free)
  | move _ moved =>
      obtain ⟨content, time, source, _, noDirectory, rfl⟩ := renameFile_ok moved
      have standing : host.files.fileAt (call.temporary store host.here) = some content := by
        rw [FileTree.fileAt, Call.temporary, source]
      have some' : call.temporary store host.here ≠ [] :=
        nonempty_of_entry (by rw [Call.temporary, source]; simp)
      rw [fileAfter, standing]
      exact (fileAt_put_file (nonempty_of_entry noDirectory)).trans
        (congrArg _ (fileAt_erase some'))
  | fail => rfl

theorem Advance.leads (advance : Advance store call host later .moved) :
    later.files.locate host.here (store.entryPath call.entry.key)
      = .ok (store.place host.here call.entry.key) := by
  have directories := advance.directories
  cases advance with
  | move _ moved =>
      obtain ⟨_, _, _, leads, _⟩ := renameFile_ok moved
      exact locate_later directories leads

end Files

section Alone

variable {entry : CacheEntry} {token : String}

theorem writeText_eq {path : Path} {text : String} (wrote : host.writeText path text = .ok later) :
    host.files.writeBytes host.here path text.toUTF8 host.now = .ok later.files := by
  obtain ⟨files, done, same⟩ := bind_ok wrote
  obtain rfl := Except.ok.inj same
  exact done

/-- A machine on which one save is under way. -/
def alone (host : Host) (entry : CacheEntry) (token : String) (progress : Progress) : Traffic :=
  ⟨host, [⟨entry, token, progress⟩]⟩

theorem step_alone {before after : Progress}
    (advance : Advance store ⟨entry, token, before⟩ host later after) :
    Step store (alone host entry token before) (.advanced entry after)
      (alone later entry token after) :=
  @Step.advance store (alone host entry token before) 0 ⟨entry, token, before⟩ later after rfl advance

/-- What a save does is a run of its steps, up to the last or to the first that fails. -/
theorem run_save {result : Except Failure Unit}
    (saved : store.save host token entry = (later, result)) :
    ∃ events progress,
      Run store (alone host entry token .begun) events (alone later entry token progress)
        ∧ (result = .ok () ∧ progress = .moved
          ∨ (∃ cause, result = .error cause) ∧ progress = .failed) := by
  have begun : Run store (alone host entry token .begun) [] (alone host entry token .begun) := .nil
  rw [save_eq] at saved
  split at saved
  · obtain ⟨rfl, rfl⟩ := Prod.mk.inj saved
    exact ⟨_, _, begun.step (step_alone (.fail nofun)), .inr ⟨⟨_, rfl⟩, rfl⟩⟩
  · rename_i first made
    have ready := begun.step (step_alone (.make rfl made))
    split at saved
    · obtain ⟨rfl, rfl⟩ := Prod.mk.inj saved
      exact ⟨_, _, ready.step (step_alone (.fail nofun)), .inr ⟨⟨_, rfl⟩, rfl⟩⟩
    · rename_i second wrote
      -- the whole entry is written at once
      have files := writeText_eq wrote
      have machine : second = { first with files := second.files } := (writeText_ok wrote).1
      have whole : (Call.mk entry token .ready).bytes.extract 0 (Call.mk entry token .ready).bytes.size
          = entry.toJson.prettyText.toUTF8 := ByteArray.extract_zero_size
      rw [← whole] at files
      have written := ready.step (step_alone (.write rfl (Nat.zero_le _) (Nat.le_refl _) files))
      rw [← machine] at written
      split at saved
      · obtain ⟨rfl, rfl⟩ := Prod.mk.inj saved
        exact ⟨_, _, written.step (step_alone (.fail nofun)), .inr ⟨⟨_, rfl⟩, rfl⟩⟩
      · rename_i last moved
        obtain ⟨rfl, rfl⟩ := Prod.mk.inj saved
        exact ⟨_, _, written.step (step_alone (.move rfl moved)), .inl ⟨rfl, rfl⟩⟩

end Alone

end MonorepoCheck.CacheStore
