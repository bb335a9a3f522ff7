import MonorepoCheck.Diagnostic.Filter
import MonorepoCheck.Proofs.Text.Sorting
import MonorepoCheck.Proofs.Text.Splitting
import Mathlib.Data.List.Basic
import Mathlib.Data.List.Perm.Basic

/-!
What the fingerprint of a filter tells. The boundary between its codes and its files can always be
found, since no code keeps a lower-case letter; the texts on either side can be told apart as long as
none of them holds the comma that stands between them.
-/
namespace MonorepoCheck

namespace Text

def isLowerAscii (c : Char) : Bool := 'a' ≤ c && c ≤ 'z'

theorem upperAscii_of_lower {c : Char} (lower : isLowerAscii c = true) :
    ∃ n < 123, 97 ≤ n ∧ upperAscii c = Char.ofNat (n - 32) := by
  have bounds := lower
  simp only [isLowerAscii, Bool.and_eq_true, decide_eq_true_eq, Char.le_def,
    UInt32.le_iff_toNat_le] at bounds
  exact ⟨c.toNat, Nat.lt_succ_of_le bounds.2, bounds.1, if_pos lower⟩

theorem upperAscii_of_not_lower {c : Char} (other : isLowerAscii c = false) : upperAscii c = c :=
  if_neg (ne_true_of_eq_false other)

theorem isLowerAscii_upperAscii (c : Char) : isLowerAscii (upperAscii c) = false := by
  cases lower : isLowerAscii c with
  | false => rw [upperAscii_of_not_lower lower, lower]
  | true =>
      have all : ∀ n < 123, 97 ≤ n → isLowerAscii (Char.ofNat (n - 32)) = false := by decide
      obtain ⟨n, above, below, upper⟩ := upperAscii_of_lower lower
      rw [upper]
      exact all n above below

theorem upperAscii_eq_comma {c : Char} (comma : upperAscii c = ',') : c = ',' := by
  cases lower : isLowerAscii c with
  | false => rwa [upperAscii_of_not_lower lower] at comma
  | true =>
      have none' : ∀ n < 123, 97 ≤ n → Char.ofNat (n - 32) ≠ ',' := by decide
      obtain ⟨n, above, below, upper⟩ := upperAscii_of_lower lower
      exact absurd (upper ▸ comma) (none' n above below)

end Text

namespace Filter

variable {filter other : Filter}

/-- The codes of a filter as its fingerprint has them. -/
def upperCodes (filter : Filter) : List String := filter.codes.map Text.upperAsciiText

/-- Texts in order, with commas between them. -/
def listed (texts : List String) : List Char :=
  Text.join [','] ((sorted texts).map String.toList)

theorem sorted_perm (texts : List String) : (sorted texts).Perm texts :=
  List.mergeSort_perm texts _

/-- Where a text stood in a list leaves no trace once the list is sorted. -/
theorem sorted_of_perm {texts others : List String} (perm : texts.Perm others) :
    sorted texts = sorted others :=
  Text.mergeSort_of_perm perm

theorem sorted_of_pairwise {texts : List String} (inOrder : texts.Pairwise (· ≤ ·)) :
    sorted texts = texts :=
  Text.mergeSort_of_pairwise inOrder

theorem fingerprint_of_perm (codes : filter.upperCodes.Perm other.upperCodes)
    (files : filter.files.Perm other.files) : filter.fingerprint = other.fingerprint := by
  rw [upperCodes, upperCodes] at codes
  rw [fingerprint, fingerprint, sorted_of_perm codes, sorted_of_perm files]

theorem fingerprint_toList (filter : Filter) :
    filter.fingerprint.toList
      = "codes=".toList ++ ((listed filter.upperCodes ++ [';'])
        ++ 'f' :: ("iles=".toList ++ listed filter.files)) := by
  simp [fingerprint, Text.joinText, listed, upperCodes]

theorem listed_upperCodes_not_lower {c : Char} (member : c ∈ listed filter.upperCodes) :
    Text.isLowerAscii c = false := by
  rcases Text.mem_join member with comma | ⟨piece, stands, here⟩
  · obtain rfl := List.mem_singleton.mp comma
    rfl
  · obtain ⟨code, inOrder, rfl⟩ := List.mem_map.mp stands
    obtain ⟨own, _, rfl⟩ := List.mem_map.mp ((sorted_perm _).mem_iff.mp inOrder)
    rw [Text.upperAsciiText, String.toList_ofList] at here
    obtain ⟨c, _, rfl⟩ := List.mem_map.mp here
    exact Text.isLowerAscii_upperAscii c

/-- The first lower-case letter behind `codes=` is that of `files=`, so the two halves of a
fingerprint are found whatever the codes and the files hold. -/
theorem listed_of_fingerprint (same : filter.fingerprint = other.fingerprint) :
    listed filter.upperCodes = listed other.upperCodes
      ∧ listed filter.files = listed other.files := by
  let upper : Char → Bool := fun c => !Text.isLowerAscii c
  have front (f : Filter) :
      ((listed f.upperCodes ++ [';']) ++ 'f' :: ("iles=".toList ++ listed f.files)).takeWhile upper
        = listed f.upperCodes ++ [';'] := by
    have all : ∀ c ∈ listed f.upperCodes ++ [';'], upper c = true := by
      intro c member
      rcases List.mem_append.mp member with code | semicolon
      · simp [upper, listed_upperCodes_not_lower code]
      · obtain rfl := List.mem_singleton.mp semicolon
        rfl
    rw [List.takeWhile_append_of_pos all, List.takeWhile_cons_of_neg (by decide),
      List.append_nil]
  have texts := congrArg String.toList same
  rw [fingerprint_toList, fingerprint_toList] at texts
  have halves := List.append_cancel_left texts
  have fronts : listed filter.upperCodes ++ [';'] = listed other.upperCodes ++ [';'] := by
    rw [← front filter, halves, front other]
  refine ⟨List.append_cancel_right fronts, ?_⟩
  rw [fronts] at halves
  have backs := List.append_cancel_left halves
  exact List.append_cancel_left (List.cons.inj backs).2

/-- A text of a list can be told from its neighbours. -/
def Apart (texts : List String) : Prop := ∀ text ∈ texts, ',' ∉ text.toList

theorem apart_upperCodes (apart : Apart filter.codes) : Apart filter.upperCodes := by
  intro text member comma
  obtain ⟨code, stands, rfl⟩ := List.mem_map.mp member
  rw [Text.upperAsciiText, String.toList_ofList] at comma
  obtain ⟨c, here, upper⟩ := List.mem_map.mp comma
  exact apart code stands (Text.upperAscii_eq_comma upper ▸ here)

theorem eq_blank_of_sorted {texts : List String}
    (blank : (sorted texts).map String.toList = [[]]) : texts = [""] := by
  have one : (sorted texts).map String.toList = [""].map String.toList := blank
  have inOrder := List.map_injective_iff.mpr (fun _ _ => String.toList_inj.mp) one
  have perm := sorted_perm texts
  rw [inOrder] at perm
  exact List.singleton_perm.mp perm |>.symm

theorem eq_nil_of_sorted {texts : List String} (none' : (sorted texts).map String.toList = []) :
    texts = [] := by
  have perm := sorted_perm texts
  rw [List.map_eq_nil_iff.mp none'] at perm
  exact List.nil_perm.mp perm

/-- Texts that can be told apart are found again, but for the one empty text, which looks like no
text. -/
theorem perm_of_listed {texts others : List String} (apart : Apart texts)
    (apartOthers : Apart others) (same : listed texts = listed others) :
    texts.Perm others ∨ texts = [] ∧ others = [""] ∨ texts = [""] ∧ others = [] := by
  have whole {texts : List String} (apart : Apart texts) :
      ∀ piece ∈ (sorted texts).map String.toList, ',' ∉ piece := by
    intro piece member
    obtain ⟨text, inOrder, rfl⟩ := List.mem_map.mp member
    exact apart text ((sorted_perm texts).mem_iff.mp inOrder)
  -- pieces without a comma are found between the commas, unless there is none or one empty piece
  rcases Text.join_inj (whole apart) (whole apartOthers) same with pieces | none' | noOther
  · have orders : sorted texts = sorted others :=
      List.map_injective_iff.mpr (fun _ _ => String.toList_inj.mp) pieces
    exact .inl ((sorted_perm texts).symm.trans (orders ▸ sorted_perm others))
  · exact .inr (.inl ⟨eq_nil_of_sorted none'.1, eq_blank_of_sorted none'.2⟩)
  · exact .inr (.inr ⟨eq_blank_of_sorted noOther.1, eq_nil_of_sorted noOther.2⟩)

theorem acceptsCode_iff (filter : Filter) (code : String) :
    filter.acceptsCode code = true
      ↔ filter.upperCodes = [] ∨ Text.upperAsciiText code ∈ filter.upperCodes := by
  have compared (wanted : String) :
      Text.sameUpToCase wanted code = true
        ↔ Text.upperAsciiText wanted = Text.upperAsciiText code := by
    rw [Text.sameUpToCase, beq_iff_eq, Text.upperAsciiText, Text.upperAsciiText,
      String.ofList_inj]
  simp [acceptsCode, upperCodes, compared]

theorem acceptsCode_of_perm (perm : filter.upperCodes.Perm other.upperCodes) (code : String) :
    filter.acceptsCode code = other.acceptsCode code := by
  rw [Bool.eq_iff_iff, acceptsCode_iff, acceptsCode_iff, perm.mem_iff, List.eq_nil_iff_length_eq_zero,
    List.eq_nil_iff_length_eq_zero, perm.length_eq]

theorem acceptsFile_of_perm (perm : filter.files.Perm other.files) (file : String) :
    filter.acceptsFile file = other.acceptsFile file := by
  rw [acceptsFile, acceptsFile, perm.isEmpty_eq, perm.any_eq]

/-- The empty pattern stands in every name, so it restricts no more than an empty list. -/
theorem acceptsFile_of_blank (blank : filter.files ⊆ [""]) (file : String) :
    filter.acceptsFile file = true := by
  cases files : filter.files with
  | nil => simp [acceptsFile, files]
  | cons pattern rest =>
      have empty : pattern = "" := by simpa using blank (files ▸ List.mem_cons_self)
      have found : Text.containsText "" file = true := by
        cases text : file.toList <;> simp [Text.containsText, Text.contains, text]
      simp [acceptsFile, files, empty, found]

/-- A filter that its fingerprint can be read back from: no comma in its texts, and not the one empty
code, which accepts next to nothing and looks like no code at all. -/
structure Separable (filter : Filter) : Prop where
  codes : Apart filter.codes
  files : Apart filter.files
  told : filter.codes ≠ [""]

theorem eq_blank_of_upperCodes (blank : filter.upperCodes = [""]) : filter.codes = [""] := by
  obtain ⟨code, codes, upper⟩ := List.map_eq_singleton_iff.mp blank
  have none' : code.toList = [] := by
    simpa [Text.upperAsciiText] using congrArg String.toList upper
  rw [codes, String.toList_eq_nil_iff.mp none']

theorem Separable.upperCodes_perm (separable : filter.Separable) (separableOther : other.Separable)
    (same : listed filter.upperCodes = listed other.upperCodes) :
    filter.upperCodes.Perm other.upperCodes := by
  rcases perm_of_listed (apart_upperCodes separable.codes)
    (apart_upperCodes separableOther.codes) same with perm | ⟨_, blank⟩ | ⟨blank, _⟩
  · exact perm
  · exact absurd (eq_blank_of_upperCodes blank) separableOther.told
  · exact absurd (eq_blank_of_upperCodes blank) separable.told

theorem Separable.acceptsFile_eq (separable : filter.Separable) (separableOther : other.Separable)
    (same : listed filter.files = listed other.files) (file : String) :
    filter.acceptsFile file = other.acceptsFile file := by
  rcases perm_of_listed separable.files separableOther.files same
    with perm | ⟨none', blank⟩ | ⟨blank, none'⟩
  · exact acceptsFile_of_perm perm file
  · rw [acceptsFile_of_blank (by simp [none']), acceptsFile_of_blank (by simp [blank])]
  · rw [acceptsFile_of_blank (by simp [blank]), acceptsFile_of_blank (by simp [none'])]

theorem apply_eq_filter (filter : Filter) (found : List Diagnostic) :
    filter.apply found = found.filter filter.accepts := by
  rw [apply]
  split
  · rename_i empty
    rw [isEmpty, Bool.and_eq_true] at empty
    have all : ∀ d ∈ found, filter.accepts d = true := by
      intro d _
      simp [accepts, acceptsCode, acceptsFile, empty.1, empty.2]
    exact (List.filter_eq_self.mpr all).symm
  · rfl

/-- Filters that can be read back from their fingerprints find the same, when these are the same. -/
theorem accepts_of_fingerprint (separable : filter.Separable) (separableOther : other.Separable)
    (same : filter.fingerprint = other.fingerprint) :
    (∀ d, filter.accepts d = other.accepts d) ∧ ∀ found, filter.apply found = other.apply found := by
  obtain ⟨codes, files⟩ := listed_of_fingerprint same
  have accepted : filter.accepts = other.accepts := by
    funext d
    rw [accepts, accepts, acceptsCode_of_perm (separable.upperCodes_perm separableOther codes),
      separable.acceptsFile_eq separableOther files]
  refine ⟨fun d => congrFun accepted d, ?_⟩
  intro found
  rw [apply_eq_filter, apply_eq_filter, accepted]

/-- Order and case do not tell two filters apart. -/
theorem accepts_of_fingerprint_reordered :
    fingerprint ⟨["b", "A"], ["y", "x"]⟩ = fingerprint ⟨["A", "B"], ["x", "y"]⟩
      ∧ (∀ d, accepts ⟨["b", "A"], ["y", "x"]⟩ d = accepts ⟨["A", "B"], ["x", "y"]⟩ d)
      ∧ ∀ found, apply ⟨["b", "A"], ["y", "x"]⟩ found
          = apply ⟨["A", "B"], ["x", "y"]⟩ found := by
  have same : fingerprint ⟨["b", "A"], ["y", "x"]⟩
      = fingerprint ⟨["A", "B"], ["x", "y"]⟩ :=
    fingerprint_of_perm (List.Perm.swap "A" "B" []) (List.Perm.swap "x" "y" [])
  have first : Separable ⟨["b", "A"], ["y", "x"]⟩ :=
    ⟨by simp [Apart], by simp [Apart], by simp⟩
  have second : Separable ⟨["A", "B"], ["x", "y"]⟩ :=
    ⟨by simp [Apart], by simp [Apart], by simp⟩
  exact ⟨same, accepts_of_fingerprint first second same⟩

/-- One empty code leaves no trace in the fingerprint, although it accepts only what has no code. -/
theorem fingerprint_empty_code (files : List String) :
    fingerprint ⟨[""], files⟩ = fingerprint ⟨[], files⟩ := by
  have one : sorted [""] = [""] := List.mergeSort_singleton ""
  have none' : sorted [] = [] := List.mergeSort_nil
  have blank : Text.upperAsciiText "" = "" := rfl
  simp only [fingerprint, List.map_cons, List.map_nil, blank, one, none']
  rfl

theorem accepts_empty_code {files : List String} {d : Diagnostic} (coded : d.code ≠ "") :
    accepts ⟨[""], files⟩ d = false := by
  have differs : Text.sameUpToCase "" d.code = false := by
    have some' : d.code.toList ≠ [] := fun none' => coded (String.toList_eq_nil_iff.mp none')
    cases written : d.code.toList with
    | nil => exact absurd written some'
    | cons c rest => simp [Text.sameUpToCase, written]
  simp [accepts, acceptsCode, differs]

/-- A filter on the empty code and the filter that restricts nothing have one fingerprint, and so have
one code with a comma in it and the two codes around the comma. -/
theorem fingerprint_collides :
    (fingerprint ⟨[""], []⟩ = fingerprint ⟨[], []⟩
        ∧ accepts ⟨[""], []⟩ { (default : Diagnostic) with code := "TS2339" } = false
        ∧ accepts ⟨[], []⟩ { (default : Diagnostic) with code := "TS2339" } = true)
      ∧ fingerprint ⟨["TS1,TS2"], []⟩ = fingerprint ⟨["TS1", "TS2"], []⟩
        ∧ accepts ⟨["TS1,TS2"], []⟩ { (default : Diagnostic) with code := "TS1" } = false
        ∧ accepts ⟨["TS1", "TS2"], []⟩ { (default : Diagnostic) with code := "TS1" } = true := by
  refine ⟨⟨fingerprint_empty_code [], accepts_empty_code (by simp), rfl⟩, ?_, ?_, ?_⟩
  · have one : sorted ["TS1,TS2"] = ["TS1,TS2"] :=
      sorted_of_pairwise (List.pairwise_singleton _ _)
    have two : sorted ["TS1", "TS2"] = ["TS1", "TS2"] :=
      sorted_of_pairwise (List.pairwise_pair.mpr (by decide))
    have upper : ["TS1,TS2"].map Text.upperAsciiText = ["TS1,TS2"] := rfl
    have uppers : ["TS1", "TS2"].map Text.upperAsciiText = ["TS1", "TS2"] := rfl
    rw [fingerprint, fingerprint, upper, uppers, one, two]
    rfl
  · decide
  · decide

end Filter
end MonorepoCheck
