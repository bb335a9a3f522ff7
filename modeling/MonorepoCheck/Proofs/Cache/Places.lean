import MonorepoCheck.Cache.Store
import MonorepoCheck.Proofs.Digest.Key
import MonorepoCheck.Proofs.Path.Joining

/-!
The places of a store: each key has a place of its own, and a temporary file never stands at the
place of an entry.
-/
namespace MonorepoCheck

open FileTree

/-- A key that is a name of its own and has a stem to put endings to. -/
structure PlainKey (key : String) : Prop where
  noSlash : '/' ∉ key.toList
  nonempty : key.toList ≠ []
  notPoint : key.toList ≠ ['.']

namespace PlainKey

variable {key : String}

theorem withJson (plain : PlainKey key) : PlainName (key ++ ".json").toList where
  noSlash := by simp [plain.noSlash]
  nonempty := by simp
  notHere := fun same => by simpa using congrArg List.length same
  notUp := fun same => by simpa using congrArg List.length same

theorem withPoint (plain : PlainKey key) : PlainName (key ++ ".").toList where
  noSlash := by simp [plain.noSlash]
  nonempty := by simp
  notHere := fun same => plain.nonempty (by simpa using congrArg List.length same)
  notUp := fun same => by
    have parts : key.toList ++ ['.'] = ['.'] ++ ['.'] := by simpa using same
    exact plain.notPoint (List.append_cancel_right parts)

theorem of_digits (digits : key.toList.all isLowerHex = true)
    (length : key.toList.length = 32) : PlainKey key where
  noSlash := fun member => absurd (List.all_eq_true.mp digits _ member) (by decide)
  nonempty := fun none' => by simp [none'] at length
  notPoint := fun point => by simp [point] at length

theorem shortKey (text : String) : PlainKey (MonorepoCheck.shortKey text) :=
  .of_digits (List.all_eq_true.mpr fun _ => shortKey_digits) (shortKey_length text)

end PlainKey

namespace CacheStore

variable {store : CacheStore} {key other token : String} {here : Location}

/-- The place of an entry. -/
def place (store : CacheStore) (here : Location) (key : String) : Location :=
  placeOf here (store.entryPath key)

/-- The path under which an entry is written before it is moved to its place. -/
def temporaryPath (store : CacheStore) (key token : String) : Path :=
  (store.entryPath key).withExtension ("json." ++ token ++ ".tmp")

theorem place_eq (plain : PlainKey key) :
    store.place here key = placeOf here store.directory ++ [key ++ ".json"] :=
  Path.placeOf_join here plain.withJson

theorem place_injective (plain : PlainKey key) (plainOther : PlainKey other)
    (same : store.place here key = store.place here other) : key = other := by
  rw [place_eq plain, place_eq plainOther] at same
  have names := List.append_cancel_left same
  simpa using names

theorem entryPath_open (plain : PlainKey key) : endsInSeparator (store.entryPath key) = false := by
  rw [endsInSeparator, entryPath, Path.join_plain plain.withJson]
  simp

theorem cutExtension_json (stem : List Char) (some' : stem ≠ []) :
    Path.cutExtension (stem ++ ".json".toList) = (stem, some "json".toList) := by
  simp [Path.cutExtension, some']

theorem entryPath_kept (plain : PlainKey key) :
    String.ofList ((store.entryPath key).text.toList.take ((store.entryPath key).text.length - 4))
      = (store.directory.join ⟨key ++ "."⟩).text := by
  have whole : (store.entryPath key).text.toList
      = (store.directory.join ⟨key ++ "."⟩).text.toList ++ "json".toList := by
    rw [entryPath, Path.join_plain plain.withJson, Path.join_plain plain.withPoint]
    simp
  rw [← String.length_toList, whole]
  simp

/-- A temporary file has the name of the entry with another ending. -/
theorem temporaryPath_eq (plain : PlainKey key) :
    store.temporaryPath key token
      = ⟨(store.directory.join ⟨key ++ "."⟩).text ++ ("json." ++ token ++ ".tmp")⟩ := by
  have cut : Path.cutExtension (key ++ ".json").toList = (key.toList, some "json".toList) := by
    rw [String.toList_append]
    exact cutExtension_json key.toList plain.nonempty
  have named : (store.entryPath key).fileName? = some (key ++ ".json") :=
    Path.fileName?_join plain.withJson
  rw [temporaryPath, Path.withExtension, named]
  simp only [cut]
  rw [show "json".toList.length = 4 from rfl, entryPath_kept plain, if_neg]
  rw [Path.fileName?_join plain.withPoint]
  simp

theorem temporaryPath_open (plain : PlainKey key) :
    endsInSeparator (store.temporaryPath key token) = false := by
  have ending : (store.temporaryPath key token).text.toList
      = (store.directory.join ⟨key ++ "."⟩).text.toList ++ ("json." ++ token).toList ++ ".tmp".toList := by
    rw [temporaryPath_eq plain]
    simp
  have last : ".tmp".toList.getLast? = some 'p' := by decide
  rw [endsInSeparator, ending, List.getLast?_append, last]
  rfl

theorem temporary_place (store : CacheStore) (token : String) (plain : PlainKey key)
    (here : Location) :
    ∃ front name, placeOf here (store.temporaryPath key token) = front ++ [name ++ ".tmp"] := by
  have text : (store.temporaryPath key token).text.toList
      = ((store.directory.join ⟨key ++ "."⟩).text ++ ("json." ++ token)).toList ++ ".tmp".toList := by
    rw [temporaryPath_eq plain]
    simp
  exact Path.placeOf_extended here text (by decide) (by decide)

/-- Whatever the key, an entry has a name with the ending of entries. -/
theorem place_ends (store : CacheStore) (key : String) (here : Location) :
    ∃ front name, store.place here key = front ++ [name ++ ".json"] := by
  have text : ∃ stem, (store.entryPath key).text.toList = stem ++ ".json".toList := by
    rw [entryPath, Path.join]
    split
    · exact ⟨key.toList, String.toList_append⟩
    · split
      · exact ⟨store.directory.text.toList ++ key.toList, by simp⟩
      · exact ⟨store.directory.text.toList ++ '/' :: key.toList, by simp⟩
  obtain ⟨stem, text⟩ := text
  exact Path.placeOf_extended here text (by decide) (by decide)

theorem temporary_ne_place (store : CacheStore) (token : String) (here : Location)
    (plain : PlainKey key) (plainOther : PlainKey other) :
    placeOf here (store.temporaryPath key token) ≠ store.place here other := by
  obtain ⟨front, name, temporary⟩ := temporary_place store token plain here
  rw [temporary, place_eq plainOther]
  intro same
  -- the last names end in different ways
  have names : name ++ ".tmp" = other ++ ".json" := by
    simpa using congrArg List.getLast? same
  have lasts := congrArg (fun text => text.toList.getLast?) names
  simp at lasts

end CacheStore

/-- A text to put between points in a name. -/
structure PlainToken (token : String) : Prop where
  noSlash : '/' ∉ token.toList
  noPoint : '.' ∉ token.toList

namespace CacheStore

variable {store : CacheStore} {key other token mark : String}

def temporaryName (key token : String) : String := key ++ ".json." ++ token ++ ".tmp"

theorem temporaryName_plain (plain : PlainKey key) (plainToken : PlainToken token) :
    PlainName (temporaryName key token).toList := by
  have long : 2 < (temporaryName key token).toList.length := by
    simp only [temporaryName, String.toList_append, List.length_append]
    have ending : ".json.".toList.length = 6 := by decide
    omega
  constructor
  case noSlash => simp [temporaryName, plain.noSlash, plainToken.noSlash]
  case nonempty => exact fun same => by simp [same] at long
  case notHere => exact fun same => by simp [same] at long
  case notUp => exact fun same => by simp [same] at long

theorem temporaryPath_join (plain : PlainKey key) (plainToken : PlainToken token) :
    store.temporaryPath key token = store.directory.join ⟨temporaryName key token⟩ := by
  have texts : (store.temporaryPath key token).text
      = (store.directory.join ⟨temporaryName key token⟩).text := by
    rw [← String.toList_inj, temporaryPath_eq plain,
      Path.join_plain (temporaryName_plain plain plainToken), String.toList_append,
      Path.join_plain plain.withPoint]
    simp [temporaryName]
  exact congrArg Path.mk texts

theorem temporary_place_eq (here : Location) (plain : PlainKey key) (plainToken : PlainToken token) :
    placeOf here (store.temporaryPath key token)
      = placeOf here store.directory ++ [temporaryName key token] := by
  rw [temporaryPath_join plain plainToken,
    Path.placeOf_join here (temporaryName_plain plain plainToken)]

/-- What stands between the last two points of a temporary name is its token. -/
theorem token_of_temporaryName (key : String) (plain : PlainToken token) :
    (((temporaryName key token).toList.reverse.drop 4).takeWhile (· != '.')).reverse
      = token.toList := by
  have solid : ∀ c ∈ token.toList.reverse, (c != '.') = true := by
    intro c member
    rw [bne_iff_ne]
    rintro rfl
    exact plain.noPoint (List.mem_reverse.mp member)
  have cut : (temporaryName key token).toList.reverse.drop 4
      = token.toList.reverse ++ ".json.".toList.reverse ++ key.toList.reverse := by
    simp [temporaryName]
  rw [cut, List.append_assoc, List.takeWhile_append_of_pos solid]
  simp

/-- Saves with tokens of their own never share a temporary file. -/
theorem temporary_injective {here : Location} (plain : PlainKey key) (plainOther : PlainKey other)
    (plainToken : PlainToken token) (plainMark : PlainToken mark)
    (same : placeOf here (store.temporaryPath key token)
      = placeOf here (store.temporaryPath other mark)) : token = mark := by
  rw [temporary_place_eq here plain plainToken, temporary_place_eq here plainOther plainMark] at same
  have names : temporaryName key token = temporaryName other mark := by
    simpa using List.append_cancel_left same
  have tokens := token_of_temporaryName key plainToken
  rw [names, token_of_temporaryName other plainMark] at tokens
  exact String.toList_inj.mp tokens.symm

end CacheStore

end MonorepoCheck
