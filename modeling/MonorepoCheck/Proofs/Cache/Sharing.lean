import MonorepoCheck.Proofs.Cache.Calls

/-!
A store that many use at once. Whatever the order of their steps, what stands under a key is the
entry that was moved there last, or else what stood there in the beginning, and nobody ever reads a
part of an entry.
-/
namespace MonorepoCheck.CacheStore

open FileTree

/-- The entry that a step put in its place. -/
def Event.moved? : Event → Option CacheEntry
  | .advanced entry .moved => some entry
  | _ => none

/-- The last of the entries of a key that were put in their place. -/
def lastMoved? (key : String) (events : List Event) : Option CacheEntry :=
  ((events.filterMap Event.moved?).filter (·.key == key)).getLast?

theorem lastMoved?_snoc (key : String) (events : List Event) (event : Event) :
    lastMoved? key (events ++ [event])
      = (event.moved?.filter (·.key == key)).or (lastMoved? key events) := by
  rw [lastMoved?, List.filterMap_append, List.filter_append, List.getLast?_append]
  congr 1
  cases moved : event.moved? with
  | none => simp [moved]
  | some entry =>
      by_cases same : entry.key = key
      · simp [moved, same, Option.filter]
      · simp [moved, same, Option.filter]

theorem lastMoved?_mem {key : String} {events : List Event} {entry : CacheEntry}
    (last : lastMoved? key events = some entry) :
    .advanced entry .moved ∈ events ∧ entry.key = key := by
  have kept := List.mem_filter.mp (List.mem_of_getLast? last)
  obtain ⟨event, member, moved⟩ := List.mem_filterMap.mp kept.1
  refine ⟨?_, by simpa using kept.2⟩
  unfold Event.moved? at moved
  split at moved
  · obtain rfl := Option.some.inj moved
    exact member
  · cases moved

theorem exists_lastMoved? {events : List Event} {entry : CacheEntry}
    (member : .advanced entry .moved ∈ events) :
    ∃ last, lastMoved? entry.key events = some last := by
  have kept : entry ∈ (events.filterMap Event.moved?).filter (·.key == entry.key) :=
    List.mem_filter.mpr ⟨List.mem_filterMap.mpr ⟨_, member, rfl⟩, beq_self_eq_true _⟩
  exact ⟨_, List.getLast?_eq_some_getLast (List.ne_nil_of_mem kept)⟩

/-- Saves of entries that can be read back, each with a token of its own. -/
structure Orderly (calls : List Call) : Prop where
  keys : ∀ call ∈ calls, PlainKey call.entry.key
  fits : ∀ call ∈ calls, call.entry.fits = true
  tokens : ∀ call ∈ calls, PlainToken call.token
  apart : (calls.map Call.token).Nodup

/-- What a call is, however far it has come. -/
def Call.task (call : Call) : CacheEntry × String := (call.entry, call.token)

section General

variable {store : CacheStore} {start now next middle finish : Traffic} {event : Event}
variable {events before after : List Event}

section Calls

variable {calls : List Call} {index other : Nat} {call stranger : Call} {here : Location}

theorem Orderly.of_tasks {later : List Call} (orderly : Orderly calls)
    (tasks : later.map Call.task = calls.map Call.task) : Orderly later := by
  have known : ∀ call ∈ later, ∃ old ∈ calls, old.task = call.task := by
    intro call member
    have listed : call.task ∈ calls.map Call.task := tasks ▸ List.mem_map_of_mem member
    exact List.mem_map.mp listed
  constructor
  case keys =>
      intro call member
      obtain ⟨old, oldMember, same⟩ := known call member
      rw [← (Prod.mk.inj same).1]
      exact orderly.keys old oldMember
  case fits =>
      intro call member
      obtain ⟨old, oldMember, same⟩ := known call member
      rw [← (Prod.mk.inj same).1]
      exact orderly.fits old oldMember
  case tokens =>
      intro call member
      obtain ⟨old, oldMember, same⟩ := known call member
      rw [← (Prod.mk.inj same).2]
      exact orderly.tokens old oldMember
  case apart =>
      have tokens : later.map Call.token = calls.map Call.token := by
        simpa [Call.task, Function.comp_def] using congrArg (List.map Prod.snd) tasks
      rw [tokens]
      exact orderly.apart

/-- Two saves of one list never write to one temporary file. -/
theorem Orderly.temporary_ne (orderly : Orderly calls) (first : calls[index]? = some call)
    (second : calls[other]? = some stranger) (different : index ≠ other) :
    call.temporary store here ≠ stranger.temporary store here := by
  intro same
  have member := List.mem_of_getElem? first
  have otherMember := List.mem_of_getElem? second
  have token : call.token = stranger.token :=
    temporary_injective (orderly.keys _ member) (orderly.keys _ otherMember)
      (orderly.tokens _ member) (orderly.tokens _ otherMember) same
  have short : index < (calls.map Call.token).length := by
    rw [List.length_map]
    exact (List.getElem?_eq_some_iff.mp first).1
  refine different ((List.getElem?_inj short orderly.apart).mp ?_)
  rw [List.getElem?_map, List.getElem?_map, first, second]
  exact congrArg some token

end Calls

section Steps

variable {call : Call} {host later : Host} {progress : Progress}

theorem Advance.unfinished (advance : Advance store call host later progress) :
    call.progress ≠ .moved := by
  intro finished
  cases advance with
  | climb begun => rw [finished] at begun; cases begun
  | make begun => rw [finished] at begun; cases begun
  | write written => rw [Call.written?, finished] at written; cases written
  | move whole => rw [finished] at whole; cases whole
  | fail open' => exact open' finished

theorem Advance.whole (advance : Advance store call host later .moved) :
    call.progress = .writing call.bytes.size := by
  cases advance with
  | move whole => exact whole

theorem Step.only (step : Step store now event next) : OnlyFiles now.host next.host := by
  cases step with
  | advance _ advance => exact advance.only
  | load => rfl

theorem Step.directories (step : Step store now event next) :
    KeepsDirectories now.host.files next.host.files := by
  cases step with
  | advance _ advance => exact advance.directories
  | load => exact fun _ here => here

theorem Step.tasks (step : Step store now event next) :
    next.calls.map Call.task = now.calls.map Call.task := by
  cases step with
  | load => rfl
  | @advance index call _ progress found advance =>
      obtain ⟨short, rfl⟩ := List.getElem?_eq_some_iff.mp found
      have same : ({ now.calls[index] with progress := progress } : Call).task
          = now.calls[index].task := rfl
      rw [List.map_set, same, ← List.map_set, List.set_getElem_self]

theorem Run.only (run : Run store start events finish) : OnlyFiles start.host finish.host := by
  induction run with
  | nil => rfl
  | step _ step ih => exact ih.trans step.only

theorem Run.directories (run : Run store start events finish) :
    KeepsDirectories start.host.files finish.host.files := by
  induction run with
  | nil => exact fun _ here => here
  | step _ step ih => exact ih.trans step.directories

theorem Run.tasks (run : Run store start events finish) :
    finish.calls.map Call.task = start.calls.map Call.task := by
  induction run with
  | nil => rfl
  | step _ step ih => exact step.tasks.trans ih

end Steps

/-- What any steps of orderly saves leave behind. -/
structure Consistent (store : CacheStore) (start : Traffic) (events : List Event) (now : Traffic) :
    Prop where
  entries : ∀ key, PlainKey key →
    now.host.files.fileAt (store.place start.host.here key) =
      match lastMoved? key events with
      | some entry => some entry.toJson.prettyText.toUTF8
      | none => start.host.files.fileAt (store.place start.host.here key)
  leads : ∀ entry, .advanced entry .moved ∈ events →
    now.host.files.locate start.host.here (store.entryPath entry.key)
      = .ok (store.place start.host.here entry.key)
  parts : ∀ (index : Nat) (call : Call) (count : Nat), now.calls[index]? = some call →
    call.progress = .writing count →
    now.host.files.fileAt (call.temporary store start.host.here)
      = some (call.bytes.extract 0 count)
  cleared : ∀ (index : Nat) (call : Call), now.calls[index]? = some call →
    call.progress = .moved →
    now.host.files.fileAt (call.temporary store start.host.here) = none
  moves : ∀ entry, .advanced entry .moved ∈ events ↔
    ∃ (index : Nat) (call : Call), now.calls[index]? = some call ∧ call.entry = entry
      ∧ call.progress = .moved
  others : ∀ place, (∀ call ∈ start.calls, place ≠ store.place start.host.here call.entry.key
      ∧ place ≠ call.temporary store start.host.here) →
    now.host.files.fileAt place = start.host.files.fileAt place

/-- An advance of one of the saves, seen from the machine on which all of them began. -/
structure Advancing (store : CacheStore) (start now : Traffic) (index : Nat) (call : Call)
    (later : Host) (progress : Progress) : Prop where
  orderly : Orderly now.calls
  tasks : now.calls.map Call.task = start.calls.map Call.task
  here : now.host.here = start.host.here
  found : now.calls[index]? = some call
  advance : Advance store call now.host later progress

namespace Advancing

variable {index other : Nat} {call stranger : Call} {later : Host} {progress : Progress}

theorem plain (step : Advancing store start now index call later progress) :
    PlainKey call.entry.key :=
  step.orderly.keys call (List.mem_of_getElem? step.found)

/-- Who the calls are after the step: the one that took it, further than before, and all others. -/
theorem calls (step : Advancing store start now index call later progress)
    (found : (now.calls.set index { call with progress := progress })[other]? = some stranger) :
    other = index ∧ stranger = { call with progress := progress }
      ∨ other ≠ index ∧ now.calls[other]? = some stranger := by
  rw [List.getElem?_set] at found
  by_cases same : index = other
  · rw [if_pos same, if_pos (List.getElem?_eq_some_iff.mp step.found).1] at found
    exact .inl ⟨same.symm, (Option.some.inj found).symm⟩
  · rw [if_neg same] at found
    exact .inr ⟨Ne.symm same, found⟩

theorem known (step : Advancing store start now index call later progress) :
    ∃ old ∈ start.calls, old.task = call.task := by
  have listed : call.task ∈ start.calls.map Call.task :=
    step.tasks ▸ List.mem_map_of_mem (List.mem_of_getElem? step.found)
  exact List.mem_map.mp listed

/-- All that a step can change are the temporary file and the entry of its own call. -/
theorem elsewhere (step : Advancing store start now index call later progress) {place : Location}
    (entry : place ≠ store.place start.host.here call.entry.key)
    (temporary : place ≠ call.temporary store start.host.here) :
    later.files.fileAt place = now.host.files.fileAt place := by
  rw [← step.here] at entry temporary
  rw [step.advance.fileAt]
  cases progress with
  | writing count => rw [fileAfter, if_neg temporary]
  | moved => rw [fileAfter, if_neg entry, if_neg temporary]
  | begun => rfl
  | ready => rfl
  | failed => rfl

/-- The temporary file of another call stays as it is. -/
theorem strange (step : Advancing store start now index call later progress)
    (found : now.calls[other]? = some stranger) (different : other ≠ index) :
    later.files.fileAt (stranger.temporary store start.host.here)
      = now.host.files.fileAt (stranger.temporary store start.host.here) := by
  have plain := step.orderly.keys stranger (List.mem_of_getElem? found)
  apply step.elsewhere
  · exact temporary_ne_place store stranger.token start.host.here plain step.plain
  · exact step.orderly.temporary_ne found step.found different

end Advancing

namespace Consistent

theorem begin (begun : ∀ call ∈ start.calls, call.progress = .begun) :
    Consistent store start [] start := by
  have fresh {index : Nat} {call : Call} (found : start.calls[index]? = some call) :
      call.progress = .begun := begun call (List.mem_of_getElem? found)
  constructor
  case entries => exact fun key _ => rfl
  case leads => exact fun entry member => absurd member List.not_mem_nil
  case parts =>
      intro index call count found writing
      rw [fresh found] at writing
      cases writing
  case cleared =>
      intro index call found moved
      rw [fresh found] at moved
      cases moved
  case moves =>
      intro entry
      constructor
      · intro member
        exact absurd member List.not_mem_nil
      · rintro ⟨index, call, found, _, moved⟩
        rw [fresh found] at moved
        cases moved
  case others => exact fun place _ => rfl

/-- A load changes nothing. -/
theorem loaded (consistent : Consistent store start events now) (key : String)
    (found : Option CacheEntry) : Consistent store start (events ++ [.loaded key found]) now := by
  have same (entry : CacheEntry) : .advanced entry .moved ∈ events ++ [.loaded key found]
      ↔ .advanced entry .moved ∈ events := by simp
  constructor
  case entries =>
      intro other plain
      rw [consistent.entries other plain, lastMoved?_snoc]
      rfl
  case leads => exact fun entry member => consistent.leads entry ((same entry).mp member)
  case parts => exact consistent.parts
  case cleared => exact consistent.cleared
  case moves => exact fun entry => (same entry).trans (consistent.moves entry)
  case others => exact consistent.others

section Advanced

variable {index : Nat} {call : Call} {later : Host} {progress : Progress}

theorem entries_advanced (consistent : Consistent store start events now)
    (step : Advancing store start now index call later progress) {key : String}
    (plain : PlainKey key) :
    later.files.fileAt (store.place start.host.here key) =
      match lastMoved? key (events ++ [.advanced call.entry progress]) with
      | some entry => some entry.toJson.prettyText.toUTF8
      | none => start.host.files.fileAt (store.place start.host.here key) := by
  have notTemporary : store.place start.host.here key ≠ call.temporary store start.host.here :=
    (temporary_ne_place store call.token start.host.here step.plain plain).symm
  rw [lastMoved?_snoc]
  by_cases own : progress = .moved ∧ call.entry.key = key
  · obtain ⟨rfl, rfl⟩ := own
    -- the temporary file was whole when it was moved
    have whole := consistent.parts index call _ step.found step.advance.whole
    rw [ByteArray.extract_zero_size] at whole
    rw [step.advance.fileAt, fileAfter, step.here, if_pos rfl, whole]
    simp [Event.moved?, Option.filter, Call.bytes]
  · have still : (Event.advanced call.entry progress).moved?.filter (·.key == key) = none := by
      cases progress with
      | moved =>
          have different : call.entry.key ≠ key := fun same => own ⟨rfl, same⟩
          simp [Event.moved?, Option.filter, different]
      | begun => rfl
      | ready => rfl
      | writing => rfl
      | failed => rfl
    rw [still, Option.none_or, ← consistent.entries key plain]
    by_cases same : call.entry.key = key
    · subst same
      rw [step.advance.fileAt]
      cases progress with
      | moved => exact absurd ⟨rfl, rfl⟩ own
      | writing count => rw [fileAfter, step.here, if_neg notTemporary]
      | begun => rfl
      | ready => rfl
      | failed => rfl
    · exact step.elsewhere (fun places => same (place_injective plain step.plain places).symm)
        notTemporary

theorem leads_advanced (consistent : Consistent store start events now)
    (step : Advancing store start now index call later progress) {entry : CacheEntry}
    (member : .advanced entry .moved ∈ events ++ [.advanced call.entry progress]) :
    later.files.locate start.host.here (store.entryPath entry.key)
      = .ok (store.place start.host.here entry.key) := by
  rcases List.mem_append.mp member with before | new
  · exact locate_later step.advance.directories (consistent.leads entry before)
  · obtain ⟨rfl, rfl⟩ := Event.advanced.inj (List.mem_singleton.mp new)
    rw [← step.here]
    exact step.advance.leads

theorem moves_advanced (consistent : Consistent store start events now)
    (step : Advancing store start now index call later progress) (entry : CacheEntry) :
    .advanced entry .moved ∈ events ++ [.advanced call.entry progress] ↔
      ∃ (other : Nat) (stranger : Call),
        (now.calls.set index { call with progress := progress })[other]? = some stranger
          ∧ stranger.entry = entry ∧ stranger.progress = .moved := by
  have short := (List.getElem?_eq_some_iff.mp step.found).1
  constructor
  · intro member
    rcases List.mem_append.mp member with before | new
    · obtain ⟨other, stranger, found, same, moved⟩ := (consistent.moves entry).mp before
      -- a call that was moved takes no further step
      have different : index ≠ other := by
        rintro rfl
        obtain rfl := Option.some.inj (step.found.symm.trans found)
        exact step.advance.unfinished moved
      exact ⟨other, stranger, (List.getElem?_set_ne different).trans found, same, moved⟩
    · obtain ⟨rfl, rfl⟩ := Event.advanced.inj (List.mem_singleton.mp new)
      exact ⟨index, _, List.getElem?_set_self short, rfl, rfl⟩
  · rintro ⟨other, stranger, found, rfl, moved⟩
    rcases step.calls found with ⟨rfl, rfl⟩ | ⟨_, before⟩
    · obtain rfl : progress = .moved := moved
      exact List.mem_append_right _ (List.mem_singleton.mpr rfl)
    · exact List.mem_append_left _
        ((consistent.moves stranger.entry).mpr ⟨other, stranger, before, rfl, moved⟩)

theorem advanced (consistent : Consistent store start events now)
    (step : Advancing store start now index call later progress) :
    Consistent store start (events ++ [.advanced call.entry progress])
      ⟨later, now.calls.set index { call with progress := progress }⟩ := by
  constructor
  case entries => exact fun key plain => consistent.entries_advanced step plain
  case leads => exact fun entry member => consistent.leads_advanced step member
  case parts =>
      intro other stranger count found writing
      rcases step.calls found with ⟨rfl, rfl⟩ | ⟨different, before⟩
      · obtain rfl : progress = .writing count := writing
        rw [step.advance.fileAt, fileAfter, step.here]
        exact if_pos rfl
      · exact (step.strange before different).trans
          (consistent.parts other stranger count before writing)
  case cleared =>
      intro other stranger found moved
      rcases step.calls found with ⟨rfl, rfl⟩ | ⟨different, before⟩
      · obtain rfl : progress = .moved := moved
        have apart := temporary_ne_place store call.token start.host.here step.plain step.plain
        rw [step.advance.fileAt, fileAfter, step.here]
        exact (if_neg apart).trans (if_pos rfl)
      · exact (step.strange before different).trans
          (consistent.cleared other stranger before moved)
  case moves => exact consistent.moves_advanced step
  case others =>
      intro place away
      obtain ⟨old, member, same⟩ := step.known
      obtain ⟨entry, token⟩ := Prod.mk.inj same
      obtain ⟨notEntry, notTemporary⟩ := away old member
      rw [entry] at notEntry
      rw [Call.temporary, Call.temporaryPath, entry, token] at notTemporary
      exact (step.elsewhere notEntry notTemporary).trans (consistent.others place away)

end Advanced

end Consistent

theorem Run.consistent (orderly : Orderly start.calls)
    (begun : ∀ call ∈ start.calls, call.progress = .begun) (run : Run store start events finish) :
    Consistent store start events finish := by
  induction run with
  | nil => exact .begin begun
  | step run step ih =>
      cases step with
      | load key => exact ih.loaded key _
      | advance found advance =>
          exact ih.advanced ⟨orderly.of_tasks run.tasks, run.tasks, run.only.here, found, advance⟩

section Loads

variable {key : String} {found entry : CacheEntry}

/-- A load tells what stood under its key at some moment between. -/
theorem Run.loaded_between {found : Option CacheEntry} (run : Run store start events finish)
    (member : .loaded key found ∈ events) :
    ∃ before after middle, Run store start before middle ∧ Run store middle after finish
      ∧ found = store.load middle.host key := by
  induction run with
  | nil => exact absurd member List.not_mem_nil
  | @step events middle event finish run step ih =>
      rcases List.mem_append.mp member with earlier | last
      · obtain ⟨before, after, between, first, second, loaded⟩ := ih earlier
        exact ⟨before, after ++ [event], between, first, second.step step, loaded⟩
      · obtain rfl := List.mem_singleton.mp last
        cases step with
        | load key => exact ⟨events, [], middle, run, .nil, rfl⟩

theorem Run.moved_call (orderly : Orderly start.calls)
    (begun : ∀ call ∈ start.calls, call.progress = .begun) (run : Run store start events finish)
    (moved : .advanced entry .moved ∈ events) : ∃ call ∈ start.calls, call.entry = entry := by
  obtain ⟨index, call, found, same, _⟩ := ((run.consistent orderly begun).moves entry).mp moved
  have listed : call.task ∈ start.calls.map Call.task :=
    run.tasks ▸ List.mem_map_of_mem (List.mem_of_getElem? found)
  obtain ⟨old, member, tasks⟩ := List.mem_map.mp listed
  exact ⟨old, member, (Prod.mk.inj tasks).1.trans same⟩

/-- What stands under a key is what was moved there last, or what stood there in the beginning. -/
theorem Run.kept?_eq (orderly : Orderly start.calls)
    (begun : ∀ call ∈ start.calls, call.progress = .begun) (run : Run store start events finish)
    (plain : PlainKey key) :
    store.kept? finish.host key = (lastMoved? key events).or (store.kept? start.host key) := by
  have standing := (run.consistent orderly begun).entries key plain
  rw [kept?, kept?, run.only.here, standing]
  cases last : lastMoved? key events with
  | none => rfl
  | some entry =>
      obtain ⟨moved, rfl⟩ := lastMoved?_mem last
      obtain ⟨call, member, rfl⟩ := run.moved_call orderly begun moved
      rw [Option.bind_some, decoded?_saved, if_pos (orderly.fits call member)]
      rfl

/-- An entry that was moved to its place can be loaded, however many were moved there before. -/
theorem Run.load_moved (orderly : Orderly start.calls)
    (begun : ∀ call ∈ start.calls, call.progress = .begun) (run : Run store start events finish)
    (plain : PlainKey key) (last : lastMoved? key events = some entry) :
    store.load finish.host key = some entry := by
  obtain ⟨moved, rfl⟩ := lastMoved?_mem last
  have leads := (run.consistent orderly begun).leads entry moved
  rw [← run.only.here] at leads
  rw [load_located plain leads, run.kept?_eq orderly begun plain, last, Option.some_or]

theorem Run.load_origin (orderly : Orderly start.calls)
    (begun : ∀ call ∈ start.calls, call.progress = .begun) (run : Run store start events finish)
    (plain : PlainKey key) (loaded : store.load finish.host key = some found) :
    store.kept? start.host key = some found
      ∨ ∃ call ∈ start.calls, call.entry = found ∧ found.key = key := by
  have kept := kept?_of_load plain loaded
  rw [run.kept?_eq orderly begun plain] at kept
  cases last : lastMoved? key events with
  | none =>
      rw [last, Option.none_or] at kept
      exact .inl kept
  | some entry =>
      rw [last, Option.some_or] at kept
      obtain rfl := Option.some.inj kept
      obtain ⟨moved, same⟩ := lastMoved?_mem last
      obtain ⟨call, member, asked⟩ := run.moved_call orderly begun moved
      exact .inr ⟨call, member, asked, same⟩

/-- What could be loaded once can be loaded from then on. -/
theorem Run.load_stays (orderly : Orderly start.calls)
    (begun : ∀ call ∈ start.calls, call.progress = .begun) (first : Run store start before middle)
    (second : Run store middle after finish) (plain : PlainKey key)
    (loaded : store.load middle.host key = some found) :
    ∃ later, store.load finish.host key = some later := by
  have run := first.trans second
  cases last : lastMoved? key (before ++ after) with
  | some entry => exact ⟨entry, run.load_moved orderly begun plain last⟩
  | none =>
      -- nothing was moved there at all
      have none' : lastMoved? key before = none := by
        rw [lastMoved?, List.filterMap_append, List.filter_append, List.getLast?_append,
          Option.or_eq_none_iff] at last
        exact last.2
      have kept : store.kept? finish.host key = store.kept? middle.host key := by
        rw [run.kept?_eq orderly begun plain, first.kept?_eq orderly begun plain, last, none']
      exact ⟨found, load_of_kept plain second.only.here second.directories kept loaded⟩

/-- Where nothing was moved to the place of a key, what could be loaded is what can be loaded. -/
theorem Run.load_unmoved (orderly : Orderly start.calls)
    (begun : ∀ call ∈ start.calls, call.progress = .begun) (run : Run store start events finish)
    (plain : PlainKey key) (reachable : store.Reachable start.host key)
    (none' : lastMoved? key events = none) :
    store.load finish.host key = store.load start.host key := by
  have kept : store.kept? finish.host key = store.kept? start.host key := by
    rw [run.kept?_eq orderly begun plain, none', Option.none_or]
  have still : store.Reachable finish.host key :=
    reachable.mono plain kept fun _ => load_of_kept plain run.only.here run.directories kept
  exact still.trans (kept.trans reachable.symm)

end Loads

/-- However saves and loads interleave, a load gives the entry that stood under its key in the
beginning or one that was saved under it as a whole, and from the first entry that could be loaded
on there is always one. Where all saves are done, each key has the entry that was moved there last,
no temporary file is left, and all other files are as they were. -/
theorem saves_and_loads_interleave (orderly : Orderly start.calls)
    (begun : ∀ call ∈ start.calls, call.progress = .begun) (first : Run store start before middle)
    (second : Run store middle after finish) :
    (∀ key found, PlainKey key → .loaded key (some found) ∈ before ++ after →
      store.kept? start.host key = some found
        ∨ ∃ call ∈ start.calls, call.entry = found ∧ found.key = key)
    ∧ (∀ key, PlainKey key → (store.load middle.host key).isSome →
      ∀ found, .loaded key found ∈ after → found.isSome)
    ∧ ((∀ call ∈ finish.calls, call.progress = .moved) →
      (∀ call ∈ start.calls,
        (∃ entry, lastMoved? call.entry.key (before ++ after) = some entry
          ∧ store.load finish.host call.entry.key = some entry)
        ∧ finish.host.files.fileAt (call.temporary store start.host.here) = none)
      ∧ ∀ place, (∀ call ∈ start.calls, place ≠ store.place start.host.here call.entry.key
          ∧ place ≠ call.temporary store start.host.here) →
        finish.host.files.fileAt place = start.host.files.fileAt place) := by
  have run := first.trans second
  have consistent := run.consistent orderly begun
  refine ⟨?_, ?_, ?_⟩
  · intro key found plain member
    obtain ⟨earlier, _, between, reached, _, loaded⟩ := run.loaded_between member
    exact reached.load_origin orderly begun plain loaded.symm
  · intro key plain readable found member
    obtain ⟨entry, loaded⟩ := Option.isSome_iff_exists.mp readable
    obtain ⟨_, _, between, reached, _, rfl⟩ := second.loaded_between member
    obtain ⟨later, still⟩ := first.load_stays orderly begun reached plain loaded
    exact Option.isSome_iff_exists.mpr ⟨later, still⟩
  · intro done
    refine ⟨?_, consistent.others⟩
    intro call member
    have listed : call.task ∈ finish.calls.map Call.task :=
      run.tasks ▸ List.mem_map_of_mem member
    obtain ⟨now, nowMember, same⟩ := List.mem_map.mp listed
    obtain ⟨index, found⟩ := List.mem_iff_getElem?.mp nowMember
    obtain ⟨entry, token⟩ := Prod.mk.inj same
    have moved : .advanced call.entry .moved ∈ before ++ after :=
      (consistent.moves call.entry).mpr ⟨index, now, found, entry, done now nowMember⟩
    obtain ⟨last, put⟩ := exists_lastMoved? moved
    have cleared := consistent.cleared index now found (done now nowMember)
    rw [Call.temporary, Call.temporaryPath, entry, token] at cleared
    exact ⟨⟨last, put, run.load_moved orderly begun (orderly.keys call member) put⟩, cleared⟩

end General

/-! Two saves under one key and a reader. The second save overtakes the first one, which has written
only five bytes by then. -/
namespace Overtaking

def store : CacheStore := ⟨⟨"/c"⟩⟩

def entry (time : Int) : CacheEntry :=
  ⟨"0123456789abcdef0123456789abcdef", "a", "", .ofDiagnostics "a" [], ⟨time, 0⟩⟩

def slow (progress : Progress) : Call := ⟨entry 10, "a1", progress⟩

def quick (progress : Progress) : Call := ⟨entry 20, "b2", progress⟩

def size (call : Call) : Nat := call.bytes.size

/-- A machine after a request that can be met. -/
def met (host : Host) (request : Except FileError FileTree) : Host :=
  { host with files := request.toOption.getD host.files }

def make (host : Host) : Except FileError FileTree :=
  host.files.makeDirectories host.here store.directory

def write (call : Call) (count : Nat) (host : Host) : Except FileError FileTree :=
  host.files.writeBytes host.here (call.temporaryPath store) (call.bytes.extract 0 count) host.now

def move (call : Call) (host : Host) : Except FileError FileTree :=
  host.files.renameFile host.here (call.temporaryPath store) (store.entryPath call.entry.key)

def host : Host where
  files := .empty
  now := ⟨30, 0⟩

def made : Host := met host (make host)

def begun : Host := met made (write (slow .ready) 5 made)

def joined : Host := met begun (make begun)

def written : Host := met joined (write (quick .ready) (size (quick .ready)) joined)

def overtaken : Host := met written (move (quick .ready) written)

def whole : Host := met overtaken (write (slow .ready) (size (slow .ready)) overtaken)

def finished : Host := met whole (move (slow .ready) whole)

theorem requests_met :
    (make host).toBool ∧ (write (slow .ready) 5 made).toBool ∧ (make begun).toBool
      ∧ (write (quick .ready) (size (quick .ready)) joined).toBool
      ∧ (move (quick .ready) written).toBool
      ∧ (write (slow .ready) (size (slow .ready)) overtaken).toBool
      ∧ (move (slow .ready) whole).toBool
      ∧ 5 ≤ size (slow .ready) := by
  decide +kernel

section Steps

variable {host : Host} {call : Call} {request : Except FileError FileTree}

theorem met_ok (done : request.toBool = true) : request = .ok (met host request).files := by
  cases request with
  | error cause => cases done
  | ok files => rfl

theorem make_met (begun : call.progress = .begun) (done : (make host).toBool = true) :
    Advance store call host (met host (make host)) .ready := by
  refine .make begun ?_
  have request := @met_ok host (make host) done
  rw [make] at request
  rw [Host.makeDirectories, request]
  rfl

theorem write_met {count more : Nat} (written : call.written? = some count) (grows : count ≤ more)
    (within : more ≤ size call) (done : (write call more host).toBool = true) :
    Advance store call host (met host (write call more host)) (.writing more) :=
  .write written grows within (met_ok done)

theorem move_met (whole : call.progress = .writing (size call))
    (done : (move call host).toBool = true) :
    Advance store call host (met host (move call host)) .moved :=
  .move whole (met_ok done)

end Steps

def start : Traffic := ⟨host, [slow .begun, quick .begun]⟩

/-- The quick save is done, the slow one is not. -/
def middle : Traffic := ⟨overtaken, [slow (.writing 5), quick .moved]⟩

def finish : Traffic := ⟨finished, [slow .moved, quick .moved]⟩

def before : List Event :=
  [.advanced (entry 10) .ready, .advanced (entry 10) (.writing 5), .advanced (entry 20) .ready,
    .advanced (entry 20) (.writing (size (quick .ready))), .advanced (entry 20) .moved]

def after : List Event :=
  [.loaded (entry 20).key (store.load overtaken (entry 20).key),
    .advanced (entry 10) (.writing (size (slow .ready))), .advanced (entry 10) .moved]

theorem first_run : Run store start before middle := by
  obtain ⟨makes, starts, joins, writes, moves, _, _, within⟩ := requests_met
  have ready : Run store start _ ⟨made, [slow .ready, quick .begun]⟩ :=
    Run.nil.step (@Step.advance store start 0 (slow .begun) _ _ rfl (make_met rfl makes))
  have five := ready.step (@Step.advance store _ 0 (slow .ready) _ _ rfl
    (write_met rfl (Nat.zero_le 5) within starts))
  have joined' := five.step (@Step.advance store _ 1 (quick .begun) _ _ rfl (make_met rfl joins))
  have full := joined'.step (@Step.advance store _ 1 (quick .ready) _ _ rfl
    (write_met rfl (Nat.zero_le _) (Nat.le_refl _) writes))
  exact full.step (@Step.advance store _ 1 (quick (.writing _)) _ _ rfl (move_met rfl moves))

theorem second_run : Run store middle after finish := by
  obtain ⟨_, _, _, _, _, writes, moves, within⟩ := requests_met
  have read : Run store middle _ middle := Run.nil.step (.load (entry 20).key)
  have full := read.step (@Step.advance store _ 0 (slow (.writing 5)) _ _ rfl
    (write_met rfl within (Nat.le_refl _) writes))
  exact full.step (@Step.advance store _ 0 (slow (.writing _)) _ _ rfl (move_met rfl moves))

theorem orderly : Orderly start.calls where
  keys := by
    intro call member
    rcases List.mem_pair.mp member with rfl | rfl <;> constructor <;> decide
  fits := by decide
  tokens := by
    intro call member
    rcases List.mem_pair.mp member with rfl | rfl <;> constructor <;> decide
  apart := by decide

end Overtaking

open Overtaking in
/-- The load between reads an entry, and the slow save has the last word. -/
theorem slow_save_overtaken :
    Orderly start.calls ∧ (∀ call ∈ start.calls, call.progress = .begun)
      ∧ Run store start before middle ∧ Run store middle after finish
      ∧ (.loaded (entry 20).key (some (entry 20)) ∈ before ++ after
        ∧ (store.kept? start.host (entry 20).key = some (entry 20)
          ∨ ∃ call ∈ start.calls, call.entry = entry 20 ∧ (entry 20).key = (entry 20).key))
      ∧ ((store.load middle.host (entry 20).key).isSome
        ∧ ∀ found, .loaded (entry 20).key found ∈ after → found.isSome)
      ∧ ((∀ call ∈ finish.calls, call.progress = .moved)
        ∧ store.load finish.host (entry 20).key = some (entry 10)
        ∧ finish.host.files.fileAt ((slow .begun).temporary store []) = none
        ∧ finish.host.files.fileAt ["d"] = none) := by
  have fresh : ∀ call ∈ start.calls, call.progress = .begun := by
    intro call member
    rcases List.mem_pair.mp member with rfl | rfl <;> rfl
  have done : ∀ call ∈ finish.calls, call.progress = .moved := by
    intro call member
    rcases List.mem_pair.mp member with rfl | rfl <;> rfl
  obtain ⟨origin, readable, ended⟩ := saves_and_loads_interleave orderly fresh first_run second_run
  have asked : slow .begun ∈ start.calls := List.mem_cons_self
  have plain : PlainKey (entry 20).key := orderly.keys _ asked
  have loaded : store.load middle.host (entry 20).key = some (entry 20) :=
    first_run.load_moved orderly fresh plain rfl
  have told : .loaded (entry 20).key (some (entry 20)) ∈ before ++ after := by
    rw [after, show overtaken = middle.host from rfl, loaded]
    simp
  have readable' : (store.load middle.host (entry 20).key).isSome := by rw [loaded]; rfl
  obtain ⟨calls, others⟩ := ended done
  obtain ⟨⟨last, put, left⟩, cleared⟩ := calls _ asked
  obtain rfl : entry 10 = last := Option.some.inj put
  have elsewhere : ∀ call ∈ start.calls, ["d"] ≠ store.place start.host.here call.entry.key
      ∧ ["d"] ≠ call.temporary store start.host.here := by decide +kernel
  exact ⟨orderly, fresh, first_run, second_run, ⟨told, origin _ _ plain told⟩,
    ⟨readable', readable _ plain readable'⟩, done, left, cleared, others ["d"] elsewhere⟩

end MonorepoCheck.CacheStore
