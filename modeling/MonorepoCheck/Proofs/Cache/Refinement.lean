import MonorepoCheck.Proofs.Cache.Room
import MonorepoCheck.Proofs.Cache.Sharing

/-!
A store is a partial map from keys to entries. A save that comes to its end sets one key, and one
that stops anywhere before sets none.
-/
namespace MonorepoCheck.CacheStore

open FileTree

section General

variable {store : CacheStore} {host later : Host} {entry found : CacheEntry} {key token : String}
variable {events : List Event} {progress : Progress}

/-- An entry is loaded where a path leads to a file whose text spells an entry of that key. -/
theorem load_eq_some_iff (plain : PlainKey key) :
    store.load host key = some found ↔
      ∃ place content text, host.files.locate host.here (store.entryPath key) = .ok place
        ∧ host.files.fileAt place = some content ∧ String.fromUTF8? content = some text
        ∧ (Json.parseText? text).bind CacheEntry.ofJson? = some found ∧ found.key = key := by
  constructor
  · intro loaded
    obtain ⟨place, leads⟩ := leads_of_load loaded
    have kept := kept?_of_load plain loaded
    obtain ⟨content, standing, decoded⟩ := Option.bind_eq_some_iff.mp kept
    obtain ⟨text, spelled, decoded⟩ := Option.bind_eq_some_iff.mp decoded
    obtain ⟨entry, read, same⟩ := Option.bind_eq_some_iff.mp decoded
    obtain rfl := locate_place leads
    split at same
    · rename_i named
      obtain rfl := Option.some.inj same
      exact ⟨_, content, text, leads, standing, spelled, read, named⟩
    · cases same
  · rintro ⟨place, content, text, leads, standing, spelled, read, named⟩
    obtain rfl := locate_place leads
    rw [load_located plain leads, kept?, CacheStore.place, standing, Option.bind_some, decoded?,
      spelled, Option.bind_eq_bind, Option.bind_some, read, Option.bind_eq_bind, Option.bind_some,
      if_pos named]
    rfl

section Alone

variable (plain : PlainKey entry.key) (plainToken : PlainToken token)
variable (fits : entry.fits = true)

include plain plainToken fits in
theorem orderly_alone : Orderly (alone host entry token .begun).calls := by
  constructor
  case keys => exact fun call member => List.mem_singleton.mp member ▸ plain
  case fits => exact fun call member => List.mem_singleton.mp member ▸ fits
  case tokens => exact fun call member => List.mem_singleton.mp member ▸ plainToken
  case apart => exact List.nodup_singleton token

theorem begun_alone : ∀ call ∈ (alone host entry token .begun).calls, call.progress = .begun :=
  fun _ member => List.mem_singleton.mp member ▸ rfl

/-- A save on its own puts nothing in its place but its entry, and that only as its last step. -/
theorem lastMoved?_alone (orderly : Orderly (alone host entry token .begun).calls)
    (run : Run store (alone host entry token .begun) events (alone later entry token progress)) :
    lastMoved? key events = if progress = .moved ∧ entry.key = key then some entry else none := by
  have moves (other : CacheEntry) :
      .advanced other .moved ∈ events ↔ other = entry ∧ progress = .moved := by
    rw [(run.consistent orderly begun_alone).moves other]
    constructor
    · rintro ⟨index, call, found, rfl, moved⟩
      obtain rfl := List.mem_singleton.mp (List.mem_of_getElem? found)
      exact ⟨rfl, moved⟩
    · rintro ⟨rfl, rfl⟩
      exact ⟨0, _, rfl, rfl, rfl⟩
  split
  · rename_i done
    obtain ⟨rfl, rfl⟩ := done
    obtain ⟨last, put⟩ := exists_lastMoved? ((moves entry).mpr ⟨rfl, rfl⟩)
    rw [put, ((moves last).mp (lastMoved?_mem put).1).1]
  · rename_i unmoved
    apply Option.eq_none_iff_forall_ne_some.mpr
    intro last put
    obtain ⟨moved, named⟩ := lastMoved?_mem put
    obtain ⟨rfl, moved⟩ := (moves last).mp moved
    exact unmoved ⟨moved, named⟩

end Alone

/-- A save that comes to its end sets its key and no other, one that stops on its way sets none, and
what is under a key is what the file at its place spells. Other keys are those under which whatever
stands can be loaded. -/
theorem save_refines_map (plain : PlainKey entry.key) (plainToken : PlainToken token)
    (fits : entry.fits = true) (host : Host) :
    (∀ later result, store.save host token entry = (later, result) →
      ∃ events progress,
        Run store (alone host entry token .begun) events (alone later entry token progress)
          ∧ (result = .ok () ∧ progress = .moved
            ∨ (∃ cause, result = .error cause) ∧ progress = .failed))
    ∧ (∀ events later progress,
      Run store (alone host entry token .begun) events (alone later entry token progress) →
      (progress = .moved → store.load later entry.key = some entry)
      ∧ ∀ key, PlainKey key → store.Reachable host key → (progress = .moved → key ≠ entry.key) →
        store.load later key = store.load host key)
    ∧ ∀ key found, PlainKey key → (store.load host key = some found ↔
      ∃ place content text, host.files.locate host.here (store.entryPath key) = .ok place
        ∧ host.files.fileAt place = some content ∧ String.fromUTF8? content = some text
        ∧ (Json.parseText? text).bind CacheEntry.ofJson? = some found ∧ found.key = key) := by
  refine ⟨fun later result saved => run_save saved, ?_, fun key found plain => load_eq_some_iff plain⟩
  intro events later progress run
  have orderly := @orderly_alone host entry token plain plainToken fits
  constructor
  · rintro rfl
    have last : lastMoved? entry.key events = some entry := by
      rw [lastMoved?_alone orderly run, if_pos ⟨rfl, rfl⟩]
    have loaded := run.load_moved orderly begun_alone plain last
    exact loaded
  · intro key plainKey reachable other
    have none' : lastMoved? key events = none := by
      rw [lastMoved?_alone orderly run, if_neg fun both => other both.1 both.2.symm]
    have same := run.load_unmoved orderly begun_alone plainKey reachable none'
    exact same

end General

/-! Two paths to one directory. One of them leads through `/m`, which is not there. -/
namespace TwoPaths

def straight : CacheStore := ⟨⟨"/c"⟩⟩

def detour : CacheStore := ⟨⟨"/m/../c"⟩⟩

def entry : CacheEntry :=
  ⟨"0123456789abcdef0123456789abcdef", "a", "", .ofDiagnostics "a" [], ⟨10, 0⟩⟩

/-- The entry that is there before. -/
def other : CacheEntry :=
  ⟨"fedcba9876543210fedcba9876543210", "b", "", .ofDiagnostics "b" [], ⟨5, 0⟩⟩

def otherPlace : Location := ["c", "fedcba9876543210fedcba9876543210.json"]

def host : Host where
  files := ⟨[(["c"], .directory), (otherPlace, .file other.toJson.prettyText.toUTF8 ⟨5, 0⟩)]⟩
  now := ⟨20, 0⟩

/-- The machine after the entry is saved. -/
def later (store : CacheStore) : Host := (store.save host "a1" entry).1

theorem entry_plain : PlainKey entry.key := .of_digits (by decide) (by decide)

theorem entry_saved {store : CacheStore} (room : store.Room host entry.key "a1") :
    store.save host "a1" entry = ({ host with files := store.filled host entry }, .ok ()) :=
  save_of_room entry_plain ⟨by decide, by decide⟩ room

theorem paths_seen :
    (straight.save host "a1" entry).2.toOption = some ()
      ∧ (detour.save host "a1" entry).2.toOption = some ()
      ∧ (host.files.locate [] (straight.entryPath other.key)).toOption = some otherPlace
      ∧ (host.files.locate [] (detour.entryPath other.key)).toOption = none
      ∧ detour.place [] other.key = otherPlace
      ∧ ((later detour).files.locate [] (detour.entryPath other.key)).toOption
        = some otherPlace := by
  have straightRoom : straight.Room host entry.key "a1" := by decide +kernel
  have detourRoom : detour.Room host entry.key "a1" := by decide +kernel
  refine ⟨?_, ?_, ?_⟩
  · rw [entry_saved straightRoom]
    rfl
  · rw [entry_saved detourRoom]
    rfl
  · rw [later, entry_saved detourRoom]
    decide +kernel

theorem other_plain : PlainKey other.key := .of_digits (by decide) (by decide)

theorem detour_saved : Saved detour host entry (later detour) := by
  rcases save_spec entry_plain (Prod.eta (detour.save host "a1" entry)).symm with
    ⟨_, saved⟩ | ⟨⟨_, failed⟩, _⟩
  · exact saved
  · have done := paths_seen.2.1
    rw [failed] at done
    cases done

end TwoPaths

open TwoPaths in
theorem save_refines_map_straight :
    PlainKey entry.key ∧ PlainToken "a1" ∧ entry.fits = true
      ∧ straight.Reachable host other.key
      ∧ (straight.save host "a1" entry).2 = .ok ()
      ∧ straight.load (later straight) entry.key = some entry
      ∧ straight.load (later straight) other.key = straight.load host other.key := by
  have plainToken : PlainToken "a1" := ⟨by decide, by decide⟩
  have fits : entry.fits = true := by decide
  obtain ⟨attempted, kept, _⟩ :=
    @save_refines_map straight entry "a1" entry_plain plainToken fits host
  obtain ⟨saved, _, leads, _⟩ := paths_seen
  have done := ok_of_toOption saved
  have reachable : straight.Reachable host other.key :=
    load_located other_plain (ok_of_toOption leads)
  obtain ⟨events, progress, run, ⟨_, moved⟩ | ⟨⟨cause, failed⟩, _⟩⟩ :=
    attempted (later straight) _ (Prod.eta _).symm
  · obtain ⟨own, others⟩ := kept events (later straight) progress run
    exact ⟨entry_plain, plainToken, fits, reachable, done, own moved,
      others other.key other_plain reachable fun _ => by decide⟩
  · rw [done] at failed
    cases failed

open TwoPaths in
/-- A save makes an entry of another key appear: it makes the directory that was missing on the way
to it. -/
theorem save_uncovers_entry :
    (detour.save host "a1" entry).2 = .ok () ∧ other.key ≠ entry.key
      ∧ detour.load host other.key = none
      ∧ detour.load (detour.save host "a1" entry).1 other.key = some other := by
  obtain ⟨_, done, _, hidden, place, found⟩ := paths_seen
  refine ⟨ok_of_toOption done, by decide, ?_, ?_⟩
  · apply Option.eq_none_iff_forall_ne_some.mpr
    intro entry loaded
    obtain ⟨place, leads⟩ := leads_of_load loaded
    rw [show host.here = [] from rfl] at leads
    rw [leads] at hidden
    cases hidden
  · have kept : detour.kept? (later detour) other.key = some other := by
      have standing : host.files.fileAt (detour.place host.here other.key)
          = some other.toJson.prettyText.toUTF8 := by
        rw [show host.here = [] from rfl, place]
        rfl
      rw [detour_saved.kept?_other other_plain (by decide), kept?, standing, Option.bind_some,
        decoded?_saved, if_pos (by decide)]
    have leads : (later detour).files.locate (later detour).here (detour.entryPath other.key)
        = .ok otherPlace := by
      rw [detour_saved.only.here]
      exact ok_of_toOption found
    exact (load_located other_plain leads).trans kept

end MonorepoCheck.CacheStore
