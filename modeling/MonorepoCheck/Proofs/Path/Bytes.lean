import MonorepoCheck.Path.Bytes
import MonorepoCheck.Proofs.Path.Naming
import MonorepoCheck.Proofs.Text.Utf8

/-!
The names of paths of bytes. Where the way from the root is spelt in UTF-8, the bytes of a name lead from
the root to the path, so that one name means one path. A path that is written as text is named as its
bytes are.
-/
namespace MonorepoCheck

section Pieces

variable {pieces : List (List Char)}

theorem Text.flatMap_join {f : Char → List Char} {separator : List Char}
    (fixed : separator.flatMap f = separator) (pieces : List (List Char)) :
    (join separator pieces).flatMap f = join separator (pieces.map (List.flatMap f)) := by
  induction pieces with
  | nil => rfl
  | cons first rest ih =>
      cases rest with
      | nil => simp [join]
      | cons second rest =>
          rw [join_cons_cons, List.flatMap_append, List.flatMap_append, fixed, ih]
          exact (join_cons_cons separator _ _ _).symm

theorem Text.slash_charBytes : charBytes '/' = ['/'] := charBytes_ascii (by decide)

/-- The pieces of the bytes of a text are the bytes of its pieces. -/
theorem Text.splitOn_charBytes (cs : List Char) :
    splitOn '/' (cs.flatMap charBytes) = (splitOn '/' cs).map (List.flatMap charBytes) := by
  have whole : ∀ piece ∈ (splitOn '/' cs).map (List.flatMap charBytes), '/' ∉ piece := by
    intro piece listed slash
    obtain ⟨piece, inside, rfl⟩ := List.mem_map.mp listed
    obtain ⟨c, member, byte⟩ := List.mem_flatMap.mp slash
    obtain rfl := eq_of_mem_charBytes byte (by decide)
    exact noSeparator_of_splitOn inside member
  have joined : cs.flatMap charBytes
      = join ['/'] ((splitOn '/' cs).map (List.flatMap charBytes)) := by
    rw [← flatMap_join (by rw [List.flatMap_singleton, slash_charBytes]), join_splitOn]
  rw [joined, splitOn_join ?_ whole]
  exact fun none' => splitOn_ne_nil '/' cs (List.map_eq_nil_iff.mp none')

end Pieces

namespace Path

variable {root path other : Path} {step : Step}

/-- The step with the bytes of its name. -/
def Step.encoded : Step → Step
  | .name spelt => .name (String.ofList (Text.bytesOfText spelt))
  | step => step

theorem Step.text_encoded (step : Step) : step.encoded.text.toList = Text.bytesOfText step.text := by
  cases step with
  | name spelt => exact String.toList_ofList
  | root => exact (by decide +kernel : "/".toList = Text.bytesOfText "/")
  | here => exact (by decide +kernel : ".".toList = Text.bytesOfText ".")
  | up => exact (by decide +kernel : "..".toList = Text.bytesOfText "..")

theorem Step.encoded_injective {other : Step} (same : step.encoded = other.encoded) : step = other := by
  have bytes := congrArg (fun step => Text.decode step.text.toList) same
  simp only [text_encoded, Text.decode_bytesOfText] at bytes
  cases step <;> cases other <;> first | rfl | cases same | exact congrArg _ bytes

theorem Step.ofPiece?_charBytes (piece : List Char) :
    Step.ofPiece? (piece.flatMap Text.charBytes) = (Step.ofPiece? piece).map Step.encoded := by
  have same (plain : List Char) (own : plain.flatMap Text.charBytes = plain) :
      piece.flatMap Text.charBytes = plain ↔ piece = plain := by
    constructor
    · exact fun bytes => Text.charBytes_injective (bytes.trans own.symm)
    · exact fun same => same ▸ own
  have dot : Text.charBytes '.' = ['.'] := Text.charBytes_ascii (by decide)
  simp only [Step.ofPiece?, same [] rfl, same ['.'] (by simp [dot]),
    same ['.', '.'] (by simp [dot])]
  split
  · rfl
  · split
    · rfl
    · rw [Option.map_some, Step.encoded, Text.bytesOfText_eq, String.toList_ofList]

theorem toList_encoded (path : Path) :
    path.encoded.text.toList = path.text.toList.flatMap Text.charBytes := by
  rw [encoded, String.toList_ofList, Text.bytesOfText_eq]

theorem encoded_injective (same : path.encoded = other.encoded) : path = other := by
  have bytes : String.ofList (Text.bytesOfText path.text)
      = String.ofList (Text.bytesOfText other.text) := congrArg Path.text same
  have text := Text.bytesOfText_injective (String.ofList_injective bytes)
  cases path
  cases other
  exact congrArg Path.mk text

theorem isAbsolute_encoded (path : Path) : path.encoded.isAbsolute = path.isAbsolute := by
  rw [isAbsolute, isAbsolute, toList_encoded]
  cases path.text.toList with
  | nil => rfl
  | cons c rest =>
      obtain ⟨first, later, bytes⟩ : ∃ first later, Text.charBytes c = first :: later :=
        ⟨_, _, by rw [Text.charBytes, Text.encoding_eq, List.map_cons]⟩
      by_cases slash : c = '/'
      · rw [slash, List.flatMap_cons, Text.slash_charBytes]
        rfl
      · have other : first ≠ '/' := by
          rintro rfl
          exact slash (Text.eq_of_mem_charBytes (bytes ▸ List.mem_cons_self) (by decide)).symm
        rw [List.flatMap_cons, bytes]
        simp [slash, other]

theorem named_encoded (path : Path) : path.encoded.named = path.named.map Step.encoded := by
  rw [named, toList_encoded, Text.splitOn_charBytes, List.filterMap_map, named, List.map_filterMap]
  exact List.filterMap_congr fun piece _ => Step.ofPiece?_charBytes piece

/-- An absolute path of bytes has the steps of its text. -/
theorem steps_encoded (absolute : path.isAbsolute = true) :
    path.encoded.steps = path.steps.map Step.encoded := by
  rw [steps_absolute absolute, steps_absolute (path.isAbsolute_encoded.trans absolute), named_encoded]
  rfl

theorem resolve_encoded (walked : List Step) (step : Step) :
    Step.resolve (walked.map Step.encoded) step.encoded
      = (Step.resolve walked step).map Step.encoded := by
  cases step with
  | root => rfl
  | here => rfl
  | name spelt => simp [Step.encoded, Step.resolve]
  | up =>
      cases last : walked.getLast? with
      | none => simp [Step.encoded, Step.resolve, last]
      | some step => cases step <;> simp [Step.encoded, Step.resolve, last]

theorem normalizedSteps_encoded (absolute : path.isAbsolute = true) :
    path.encoded.normalizedSteps = path.normalizedSteps.map Step.encoded := by
  rw [normalizedSteps, normalizedSteps, steps_encoded absolute]
  suffices walked : ∀ steps walked : List Step,
      (steps.map Step.encoded).foldl Step.resolve (walked.map Step.encoded)
        = (steps.foldl Step.resolve walked).map Step.encoded from walked path.steps []
  intro steps
  induction steps with
  | nil => exact fun _ => rfl
  | cons step rest ih =>
      intro walked
      rw [List.map_cons, List.foldl_cons, resolve_encoded, ih, List.foldl_cons]

theorem stepsBetween_encoded (common : Bool) (target base : List Step) :
    stepsBetween common (target.map Step.encoded) (base.map Step.encoded)
      = (stepsBetween common target base).map (List.map Step.encoded) := by
  have same (step other : Step) : step.encoded = other.encoded ↔ step = other :=
    ⟨Step.encoded_injective, congrArg Step.encoded⟩
  have here (step : Step) : step.encoded = .here ↔ step = .here := same step .here
  have up (step : Step) : step.encoded = .up ↔ step = .up := same step .up
  induction target generalizing common base with
  | nil => cases base <;> simp [stepsBetween, Function.comp_def, Step.encoded]
  | cons step target ih =>
      cases base with
      | nil => rfl
      | cons other base =>
          simp only [List.map_cons, stepsBetween, same, here, up]
          split
          · exact ih true base
          · split
            · rw [ih, Option.map_map, Option.map_map]
              rfl
            · split
              · rfl
              · simp [Function.comp_def, Step.encoded]

/-- A path that is written as text is seen from a root as its bytes are. -/
theorem stepsFrom_encoded (absolute : root.isAbsolute = true) (rooted : path.isAbsolute = true) :
    stepsFrom root.encoded path.encoded = (stepsFrom root path).map Step.encoded := by
  have between := stepsBetween_encoded true path.normalizedSteps root.steps
  rw [← normalizedSteps_encoded rooted, ← steps_encoded absolute] at between
  have agree (root path : Path) (absolute : root.isAbsolute = true)
      (rooted : path.isAbsolute = true) :
      stepsFrom root path = (stepsBetween true path.normalizedSteps root.steps).getD path.steps := by
    simp only [stepsFrom, isAbsolute_normalize, absolute, rooted, steps_normalize_eq, beq_self_eq_true,
      if_true]
  rw [agree _ _ (root.isAbsolute_encoded.trans absolute) (path.isAbsolute_encoded.trans rooted),
    agree _ _ absolute rooted, between, steps_encoded rooted]
  cases stepsBetween true path.normalizedSteps root.steps <;> rfl

/-- Whether the way from the root to a path of bytes is spelt in UTF-8. -/
def SpeltInUtf8 (root path : Path) : Prop :=
  ∀ step ∈ stepsFrom root path, Text.IsUtf8 step.text.toList

theorem spelt_encoded (absolute : root.isAbsolute = true) (rooted : path.isAbsolute = true) :
    SpeltInUtf8 root.encoded path.encoded := by
  intro step member
  rw [stepsFrom_encoded absolute rooted] at member
  obtain ⟨step, -, rfl⟩ := List.mem_map.mp member
  exact ⟨step.text, step.text_encoded.symm⟩

/-- The name of a path that is written as text is the name of its bytes. -/
theorem nameOfBytes_encoded (absolute : root.isAbsolute = true) (rooted : path.isAbsolute = true) :
    nameOfBytes root.encoded path.encoded = relativeTo root path := by
  have texts : (stepsFrom root.encoded path.encoded).map (fun step => Text.decode step.text.toList)
      = (stepsFrom root path).map Step.text := by
    rw [stepsFrom_encoded absolute rooted, List.map_map]
    apply List.map_congr_left
    intro step _
    rw [Function.comp_apply, Step.text_encoded, Text.decode_bytesOfText]
  rw [nameOfBytes, texts, relativeTo]

/-- The bytes of a name that is spelt in UTF-8 are those of the way. -/
theorem encoded_nameOfBytes (spelt : SpeltInUtf8 root path) :
    encoded ⟨nameOfBytes root path⟩ = ⟨relativeTo root path⟩ := by
  have pieces : ((stepsFrom root path).map fun step => Text.decode step.text.toList).map
        (List.flatMap Text.charBytes ∘ String.toList)
      = ((stepsFrom root path).map Step.text).map String.toList := by
    rw [List.map_map, List.map_map]
    apply List.map_congr_left
    intro step member
    rw [Function.comp_apply, Function.comp_apply, ← Text.bytesOfText_eq,
      Text.bytesOfText_decode (spelt step member)]
    rfl
  have bytes : Text.bytesOfText (Text.joinText "/"
        ((stepsFrom root path).map fun step => Text.decode step.text.toList))
      = (Text.joinText "/" ((stepsFrom root path).map Step.text)).toList := by
    rw [Text.bytesOfText_eq, Text.joinText, Text.joinText, String.toList_ofList, String.toList_ofList,
      Text.flatMap_join (by decide +kernel), List.map_map, pieces, String.toList_ofList]
  rw [encoded, nameOfBytes, relativeTo]
  generalize Text.joinText "/" ((stepsFrom root path).map fun step => Text.decode step.text.toList)
    = name at bytes
  generalize Text.joinText "/" ((stepsFrom root path).map Step.text) = way at bytes
  have empty : name.isEmpty = way.isEmpty := by
    rw [Bool.eq_iff_iff, String.isEmpty_iff, String.isEmpty_iff]
    constructor
    · rintro rfl
      exact String.toList_eq_nil_iff.mp bytes.symm
    · rintro rfl
      exact Text.bytesOfText_injective (bytes.trans (by decide +kernel : "".toList = _))
  dsimp only
  rw [empty]
  split
  · exact congrArg Path.mk (by decide +kernel)
  · rw [bytes, String.ofList_toList]

/-- The name of a path leads from the root to where the path leads, if the way is spelt in UTF-8. -/
theorem normalize_join_nameOfBytes (absolute : root.isAbsolute = true) (straight : .up ∉ root.steps)
    (rooted : path.isAbsolute = true) (spelt : SpeltInUtf8 root path) :
    (root.join (encoded ⟨nameOfBytes root path⟩)).normalize = path.normalize := by
  rw [encoded_nameOfBytes spelt]
  exact normalize_join_relativeTo absolute straight rooted

/-- Two paths have one name exactly when they lead to one place, if both ways are spelt in UTF-8. -/
theorem nameOfBytes_eq_iff (absolute : root.isAbsolute = true) (straight : .up ∉ root.steps)
    (rooted : path.isAbsolute = true) (rootedOther : other.isAbsolute = true)
    (spelt : SpeltInUtf8 root path) (speltOther : SpeltInUtf8 root other) :
    nameOfBytes root path = nameOfBytes root other ↔ path.normalize = other.normalize := by
  rw [← relativeTo_eq_iff absolute straight rooted rootedOther]
  constructor
  · intro same
    have ways := encoded_nameOfBytes spelt
    rw [same, encoded_nameOfBytes speltOther] at ways
    exact (Path.mk.inj ways).symm
  · intro same
    have ways : encoded ⟨nameOfBytes root path⟩ = encoded ⟨nameOfBytes root other⟩ := by
      rw [encoded_nameOfBytes spelt, encoded_nameOfBytes speltOther, same]
    exact Path.mk.inj (encoded_injective ways)

end Path
end MonorepoCheck
