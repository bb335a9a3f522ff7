import MonorepoCheck.Proofs.Files.Walks
import MonorepoCheck.Proofs.Text.Splitting

/-!
Joining paths. A path joined to another names the steps of both, one after the other, unless it
starts at the root.
-/
namespace MonorepoCheck

open FileTree

/-- A text that is one name of a path: no separator, and more than points. -/
structure PlainName (name : List Char) : Prop where
  noSlash : '/' ∉ name
  nonempty : name ≠ []
  notHere : name ≠ ['.']
  notUp : name ≠ ['.', '.']

instance (name : List Char) : Decidable (PlainName name) :=
  decidable_of_iff ('/' ∉ name ∧ name ≠ [] ∧ name ≠ ['.'] ∧ name ≠ ['.', '.'])
    ⟨fun ⟨noSlash, nonempty, notHere, notUp⟩ => ⟨noSlash, nonempty, notHere, notUp⟩,
      fun ⟨noSlash, nonempty, notHere, notUp⟩ => ⟨noSlash, nonempty, notHere, notUp⟩⟩

namespace Path

variable {directory : Path} {name : String}

/-- What the path of a name in a directory has in front of the name. -/
def front (directory : Path) : List Char :=
  if directory.text.isEmpty || directory.text.toList.getLast? == some '/' then
    directory.text.toList
  else directory.text.toList ++ ['/']

theorem relative_of_noSlash (noSlash : '/' ∉ name.toList) : isAbsolute ⟨name⟩ = false := by
  rw [isAbsolute]
  cases written : name.toList with
  | nil => rfl
  | cons c rest =>
      have other : c ≠ '/' := fun same => noSlash (by simp [written, same])
      simp [other]

theorem nonempty_of_absolute {path : Path} (absolute : path.isAbsolute = true) :
    ¬path.text.isEmpty = true := by
  intro empty
  rw [isAbsolute, String.isEmpty_iff.mp empty] at absolute
  cases absolute

theorem join_text (relative : isAbsolute ⟨name⟩ = false) :
    (directory.join ⟨name⟩).text.toList = directory.front ++ name.toList := by
  rw [join, if_neg (by simp [relative]), front]
  split
  · rw [String.toList_append]
  · rw [String.toList_append, String.toList_append]
    rfl

theorem join_plain (plain : PlainName name.toList) :
    (directory.join ⟨name⟩).text.toList = directory.front ++ name.toList :=
  join_text (relative_of_noSlash plain.noSlash)

/-- The pieces of a path in a directory are those of the directory and its own. -/
theorem pieces_join {α : Type} (directory : Path) (read : List Char → Option α)
    (skips : read [] = none) (relative : isAbsolute ⟨name⟩ = false) :
    (Text.splitOn '/' (directory.join ⟨name⟩).text.toList).filterMap read
      = (Text.splitOn '/' directory.text.toList).filterMap read
        ++ (Text.splitOn '/' name.toList).filterMap read := by
  rw [join_text relative, front]
  split
  · rename_i closed
    rcases List.eq_nil_or_concat directory.text.toList with none' | ⟨front, last, written⟩
    · rw [none', List.nil_append]
      simp [Text.splitOn, skips]
    · have slash : last = '/' := by
        have some' : directory.text ≠ "" := by
          intro none'
          simp [none'] at written
        simpa [written, some'] using closed
      subst slash
      rw [written, List.concat_eq_append, List.append_assoc, List.singleton_append,
        Text.splitOn_append, Text.splitOn_append]
      simp [Text.splitOn, skips]
  · rw [List.append_assoc, List.singleton_append, Text.splitOn_append, List.filterMap_append]

theorem walk_join (relative : isAbsolute ⟨name⟩ = false) :
    walk (directory.join ⟨name⟩) = walk directory ++ walk ⟨name⟩ :=
  pieces_join directory Walk.ofPiece? rfl relative

theorem walk_plain (plain : PlainName name.toList) : walk ⟨name⟩ = [.into name] := by
  have reads : Walk.ofPiece? name.toList = some (.into name) := by
    simp [Walk.ofPiece?, plain.nonempty, plain.notHere, plain.notUp]
  rw [walk, Text.splitOn_piece plain.noSlash]
  simp [reads]

theorem isAbsolute_join (relative : isAbsolute ⟨name⟩ = false) :
    (directory.join ⟨name⟩).isAbsolute = directory.isAbsolute := by
  have first : (name.toList.head? == some '/') = false := relative
  rw [isAbsolute, isAbsolute, join_text relative, front]
  cases written : directory.text.toList with
  | nil =>
      have empty : directory.text = "" := String.toList_eq_nil_iff.mp written
      simpa [empty] using first
  | cons c rest => split <;> simp

theorem isAbsolute_join_left {path : Path} (absolute : directory.isAbsolute = true) :
    (directory.join path).isAbsolute = true := by
  cases own : path.isAbsolute with
  | true => rw [join, if_pos own]; exact own
  | false => exact (isAbsolute_join own).trans absolute

theorem placeOf_join (here : Location) (plain : PlainName name.toList) :
    placeOf here (directory.join ⟨name⟩) = placeOf here directory ++ [name] := by
  have relative := relative_of_noSlash plain.noSlash
  rw [placeOf, placeOf, origin, isAbsolute_join relative, walk_join relative, walk_plain plain,
    List.foldl_append]
  rfl

theorem fileName?_join (plain : PlainName name.toList) :
    (directory.join ⟨name⟩).fileName? = some name := by
  have reads : Step.ofPiece? name.toList = some (.name name) := by
    simp [Step.ofPiece?, plain.nonempty, plain.notHere, plain.notUp]
  have pieces := pieces_join directory Step.ofPiece? rfl (relative_of_noSlash plain.noSlash)
  rw [Text.splitOn_piece plain.noSlash, List.filterMap_cons_some reads, List.filterMap_nil] at pieces
  have last : (directory.join ⟨name⟩).steps.getLast? = some (.name name) := by
    rw [steps, pieces]
    split
    · simp [List.getLast?_cons]
    · split <;> simp [List.getLast?_cons]
  rw [fileName?, last]

/-- A path whose text goes on with `ending` leads to a name that does. -/
theorem placeOf_extended (here : Location) {path : Path} {stem : List Char} {ending : String}
    (text : path.text.toList = stem ++ ending.toList) (whole : '/' ∉ ending.toList)
    (long : 2 < ending.toList.length) :
    ∃ front name, placeOf here path = front ++ [name ++ ending] := by
  obtain ⟨before, last, pieces⟩ := Text.splitOn_extended '/' ending.toList whole stem
  -- the ending makes the last piece too long for one of the two that are no names
  have named : Walk.ofPiece? (last ++ ending.toList) = some (.into (String.ofList last ++ ending)) := by
    have longer : 2 < (last ++ ending.toList).length := by
      rw [List.length_append]
      omega
    have notNil : last ++ ending.toList ≠ [] := fun same => by simp [same] at longer
    have notHere : last ++ ending.toList ≠ ['.'] := fun same => by simp [same] at longer
    have notUp : last ++ ending.toList ≠ ['.', '.'] := fun same => by simp [same] at longer
    rw [Walk.ofPiece?, if_neg notNil, if_neg notHere, if_neg notUp, String.ofList_append,
      String.ofList_toList]
  refine ⟨(before.filterMap Walk.ofPiece?).foldl Walk.apply (origin here path), String.ofList last, ?_⟩
  rw [placeOf, walk, text, pieces, List.filterMap_append, List.foldl_append,
    List.filterMap_cons_some named]
  rfl

end Path

end MonorepoCheck
