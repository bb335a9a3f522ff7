import MonorepoCheck.Proofs.Path.Bytes
import MonorepoCheck.Proofs.Unit.Members
import MonorepoCheck.Scan.Collect

/-!
What the names of units and files tell apart. Seen from the root of a workspace, two directories or
files have one name exactly when they are one, however their paths are written.
-/
namespace MonorepoCheck

open FileTree MonorepoCheck.Path

section Places

variable {path other : Path}

/-- Two paths that stay below the root of the tree have one normal form if they lead to one place. -/
theorem normalize_eq_iff_place (absolute : path.isAbsolute = true)
    (absoluteOther : other.isAbsolute = true) (level : path.climbs = 0)
    (levelOther : other.climbs = 0) :
    path.normalize = other.normalize ↔ placeOf [] path = placeOf [] other := by
  rw [normalize_level absolute level, normalize_level absoluteOther levelOther]
  constructor
  · exact Workspace.pathOf_injective (plainPlace_placeOf .nil) (plainPlace_placeOf .nil)
  · intro same
    rw [same]

end Places

/-- What references mean, seen from an absolute directory. -/
theorem References.read_resolved {directory : Path} (absolute : directory.isAbsolute = true)
    (configuration : List Char) :
    ∀ target ∈ References.read configuration directory, target.Resolved := by
  have each (reference : String) : (References.resolve directory reference).Resolved := by
    have joined : (directory.join ⟨reference⟩).isAbsolute = true := isAbsolute_join_left absolute
    have resolved := resolved_normalize joined
    unfold References.resolve
    dsimp only
    generalize (directory.join ⟨reference⟩).normalize = target at resolved
    cases ending : target.extension? with
    | none => exact resolved
    | some extension =>
        obtain ⟨name, named, _⟩ := Option.bind_eq_some_iff.mp ending
        dsimp only
        split
        · cases above : target.parent? with
          | none => exact resolved
          | some file => exact resolved.parent named above
        · exact resolved
  intro target listed
  rw [References.read] at listed
  split at listed
  · obtain ⟨reference, -, rfl⟩ := List.mem_map.mp listed
    exact each reference
  · cases listed

namespace Workspace

variable {workspace : Workspace} {host : Host} {settings : Settings} {path : Path}

theorem declaredMembers_absolute (member : path ∈ workspace.declaredMembers host) :
    path.isAbsolute = true := by
  have expanded (pattern : String) (found : path ∈ workspace.expand host pattern) :
      path.isAbsolute = true := by
    obtain ⟨match', listed, rfl⟩ := List.mem_map.mp found
    exact (isAbsolute_normalize match').trans (Glob.directories_absolute listed)
  rw [declaredMembers] at member
  obtain ⟨pattern, -, found⟩ := List.mem_flatMap.mp (List.mem_filter.mp member).1
  split at found
  · cases found
  · exact expanded pattern found

theorem groupedMembers_absolute (rooted : workspace.root.isAbsolute = true) {groups : List String}
    (member : path ∈ workspace.groupedMembers host groups) : path.isAbsolute = true := by
  obtain ⟨group, -, inside⟩ := List.mem_flatMap.mp member
  rw [childDirectories] at inside
  split at inside
  · split at inside
    · obtain ⟨child, -, rfl⟩ := List.mem_map.mp (List.mem_filter.mp inside).1
      exact isAbsolute_join_left (isAbsolute_join_left rooted)
    · cases inside
  · cases inside

theorem candidates_resolved (rooted : workspace.root.isAbsolute = true)
    (candidate : path ∈ workspace.candidates host settings) : path.Resolved := by
  rcases mem_candidates_iff.mp candidate with ⟨member, listed, rfl⟩ | rfl
  · rw [members] at listed
    split at listed
    · exact resolved_normalize (groupedMembers_absolute rooted listed)
    · exact resolved_normalize (declaredMembers_absolute listed)
  · exact resolved_normalize rooted

/-- The root of a workspace that is found is resolved. -/
theorem inDirectory_resolved (here : PlainPlace host.here)
    (found : inDirectory host path = .ok workspace) :
    workspace.root.Resolved ∧ .up ∉ workspace.root.steps := by
  obtain ⟨place, located, rfl⟩ : ∃ place, host.files.locate host.here path = .ok place
      ∧ workspace = ⟨pathOf place⟩ := by
    rw [inDirectory] at found
    split at found
    · split at found
      · rename_i real leads
        obtain rfl := Except.ok.inj found
        obtain ⟨place, located, rfl⟩ := locate_of_realPath leads
        exact ⟨place, located, rfl⟩
      · cases found
    · cases found
  have plain : PlainPlace place := by
    rw [locate_place located]
    exact plainPlace_placeOf here
  refine ⟨⟨isAbsolute_pathOf place, normalize_pathOf plain⟩, ?_⟩
  rw [steps_pathOf plain]
  simp

/-- Every unit of a workspace is placed. -/
theorem units_placed (rooted : workspace.root.isAbsolute = true) :
    ∀ unit ∈ workspace.units host settings, unit.Placed := by
  intro unit listed
  have own : unit.path.Resolved :=
    candidates_resolved rooted (mem_unit_paths_iff.mp (List.mem_map_of_mem listed)).1
  refine ⟨own, ?_⟩
  obtain ⟨path, -, rfl⟩ := List.mem_map.mp listed
  rw [loadUnit_path] at own
  rw [loadUnit]
  split
  · exact References.read_resolved own.absolute _
  · exact fun _ member => absurd member List.not_mem_nil

/-- A reference means a unit if it takes the steps to the unit. -/
theorem reference_means_iff (rooted : workspace.root.isAbsolute = true) {unit other : BuildUnit}
    (listed : unit ∈ workspace.units host settings) (listedOther : other ∈ workspace.units host settings)
    {target : Path} (refers : target ∈ other.references) :
    target = unit.path ↔ target.steps = unit.path.steps :=
  ((units_placed rooted other listedOther).references target refers).eq_iff_steps
    (units_placed rooted unit listed).path

theorem unit_names (workspace : Workspace) (host : Host) (settings : Settings) :
    (workspace.units host settings).map BuildUnit.name
      = ((workspace.units host settings).map BuildUnit.path).map (relativeTo workspace.root) := by
  rw [units, List.map_map, List.map_map, List.map_map]
  apply List.map_congr_left
  intro path _
  rw [Function.comp_apply, Function.comp_apply, Function.comp_apply, loadUnit_name, loadUnit_path]

/-- Different units have different names. -/
theorem unit_names_once (rooted : workspace.root.isAbsolute = true)
    (straight : .up ∉ workspace.root.steps) :
    ((workspace.units host settings).map BuildUnit.name).Nodup := by
  rw [unit_names]
  apply List.Nodup.map_on _ (unit_paths_once workspace host settings)
  intro path member other memberOther same
  obtain ⟨unit, listed, rfl⟩ := List.mem_map.mp member
  obtain ⟨second, listedSecond, rfl⟩ := List.mem_map.mp memberOther
  obtain ⟨absolute, normal⟩ := (units_placed rooted unit listed).path
  obtain ⟨absoluteSecond, normalSecond⟩ := (units_placed rooted second listedSecond).path
  rw [← normal, ← normalSecond]
  exact (relativeTo_eq_iff rooted straight absolute absoluteSecond).mp same

end Workspace

theorem ScanPlan.diagnostic_file (plan : ScanPlan) (host : Host) (unit : BuildUnit)
    (known : List (List Step × Path)) (line : CheckerLine) :
    (plan.diagnostic host unit known line).file
      = relativeTo plan.root (ScanPlan.reportedFile unit line) := by
  simp only [ScanPlan.diagnostic]

/-- What names as seen from a root tell apart. -/
structure TellsApart (root : Path) : Prop where
  /-- A name leads back to the path, if the bytes of the way are UTF-8. -/
  leads : ∀ path : Path, path.isAbsolute = true → SpeltInUtf8 root path →
    (root.join (encoded ⟨nameOfBytes root path⟩)).normalize = path.normalize
  identifies : ∀ path other : Path, path.isAbsolute = true → other.isAbsolute = true →
    SpeltInUtf8 root path → SpeltInUtf8 root other →
    (nameOfBytes root path = nameOfBytes root other ↔ path.normalize = other.normalize)
  /-- A path that is written as text is named as its bytes are, and its way is spelt in UTF-8. -/
  written : ∀ path : Path, path.isAbsolute = true →
    relativeTo root path = nameOfBytes root.encoded path.encoded
      ∧ SpeltInUtf8 root.encoded path.encoded
  writtenLeads : ∀ path : Path, path.isAbsolute = true →
    (root.join ⟨relativeTo root path⟩).normalize = path.normalize
  writtenIdentifies : ∀ path other : Path, path.isAbsolute = true → other.isAbsolute = true →
    (relativeTo root path = relativeTo root other ↔ path.normalize = other.normalize)
  units : ∀ host settings, (((Workspace.mk root).units host settings).map BuildUnit.name).Nodup
  files : ∀ (plan : ScanPlan) (host later : Host) (unit other : BuildUnit)
    (known knownLater : List (List Step × Path)) (line second : CheckerLine), plan.root = root →
    unit.path.isAbsolute = true → other.path.isAbsolute = true →
    (ScanPlan.reportedFile unit line).climbs = 0 → (ScanPlan.reportedFile other second).climbs = 0 →
    ((plan.diagnostic host unit known line).file
        = (plan.diagnostic later other knownLater second).file ↔
      placeOf [] (ScanPlan.reportedFile unit line)
        = placeOf [] (ScanPlan.reportedFile other second))

/-- A name leads from the root to what it names, so that one name means one path; no two units of a
workspace share a name, and two diagnostics are told of one file exactly if the checker's lines lead
to one place. Of paths that are bytes this holds where the bytes spell text. -/
theorem names_tell_apart (root : Path) (rooted : root.isAbsolute = true)
    (straight : .up ∉ root.steps) : TellsApart root := by
  constructor
  case leads =>
      intro path absolute
      exact normalize_join_nameOfBytes rooted straight absolute
  case identifies =>
      intro path other absolute absoluteOther
      exact nameOfBytes_eq_iff rooted straight absolute absoluteOther
  case written =>
      intro path absolute
      exact ⟨(nameOfBytes_encoded rooted absolute).symm, spelt_encoded rooted absolute⟩
  case writtenLeads =>
      intro path absolute
      exact normalize_join_relativeTo rooted straight absolute
  case writtenIdentifies =>
      intro path other absolute absoluteOther
      exact relativeTo_eq_iff rooted straight absolute absoluteOther
  case units =>
      intro host settings
      exact Workspace.unit_names_once rooted straight
  case files =>
      rintro plan host later unit other known knownLater line second rfl absolute absoluteOther level
        levelOther
      have here : (ScanPlan.reportedFile unit line).isAbsolute = true :=
        isAbsolute_join_left absolute
      have there : (ScanPlan.reportedFile other second).isAbsolute = true :=
        isAbsolute_join_left absoluteOther
      rw [ScanPlan.diagnostic_file, ScanPlan.diagnostic_file,
        ← normalize_eq_iff_place here there level levelOther]
      exact relativeTo_eq_iff rooted straight here there

/-! One root, one file in another unit that is reported from two places in two spellings. -/
namespace Naming.Sample

def root : Path := ⟨"/work/repo"⟩

def plan : ScanPlan :=
  ⟨root, Settings.default, ⟨[], []⟩, .none, false, fun _ host => (.completed true (some 0) "", host)⟩

def unitAt (name : String) : BuildUnit := BuildUnit.inDirectory root (root.join ⟨name⟩) "tsconfig.json"

def lineIn (file : String) : CheckerLine := ⟨file, 3, 7, "TS2339", "missing"⟩

/-- Where the checker's lines lead. -/
theorem places :
    placeOf [] (ScanPlan.reportedFile (unitAt "app") (lineIn "../lib/src/../b.ts"))
        = placeOf [] (ScanPlan.reportedFile (unitAt "lib") (lineIn "/work/repo//lib/b.ts"))
      ∧ placeOf [] (ScanPlan.reportedFile (unitAt "app") (lineIn "b.ts"))
        ≠ placeOf [] (ScanPlan.reportedFile (unitAt "lib") (lineIn "b.ts"))
      ∧ (unitAt "app").path.isAbsolute = true ∧ (unitAt "lib").path.isAbsolute = true
      ∧ ∀ unit ∈ [unitAt "app", unitAt "lib"],
        ∀ file ∈ ["../lib/src/../b.ts", "/work/repo//lib/b.ts", "b.ts"],
          (ScanPlan.reportedFile unit (lineIn file)).climbs = 0 := by
  decide +kernel

theorem plain_spelt : SpeltInUtf8 root ⟨"/work/other/x/../b.ts"⟩ := by
  have way : stepsFrom root ⟨"/work/other/x/../b.ts"⟩ = [.up, .name "other", .name "b.ts"] := by
    decide +kernel
  have plain (text : String) (bytes : Text.bytesOfText text = text.toList) :
      Text.IsUtf8 text.toList := ⟨text, bytes⟩
  rw [SpeltInUtf8, way]
  simp only [List.forall_mem_cons, List.not_mem_nil, false_imp_iff, implies_true, and_true]
  exact ⟨plain _ (by decide +kernel), plain _ (by decide +kernel), plain _ (by decide +kernel)⟩

theorem file_named_once :
    root.isAbsolute = true ∧ .up ∉ root.steps
      ∧ (root.join (encoded ⟨nameOfBytes root ⟨"/work/other/x/../b.ts"⟩⟩)).normalize
        = (⟨"/work/other/x/../b.ts"⟩ : Path).normalize
      ∧ (root.join ⟨relativeTo root ⟨"/work//other/./x/../b.ts"⟩⟩).normalize
        = (⟨"/work//other/./x/../b.ts"⟩ : Path).normalize
      ∧ relativeTo root ⟨"/work/other/b.ts"⟩ = relativeTo root ⟨"/work/repo/../other/b.ts"⟩
      ∧ (plan.diagnostic default (unitAt "app") [] (lineIn "../lib/src/../b.ts")).file
        = (plan.diagnostic default (unitAt "lib") [] (lineIn "/work/repo//lib/b.ts")).file
      ∧ (plan.diagnostic default (unitAt "app") [] (lineIn "b.ts")).file
        ≠ (plan.diagnostic default (unitAt "lib") [] (lineIn "b.ts")).file := by
  have rooted : root.isAbsolute = true := by decide
  have straight : .up ∉ root.steps := by decide +kernel
  obtain ⟨leads, -, -, writtenLeads, identifies, -, tells⟩ := names_tell_apart root rooted straight
  obtain ⟨together, apart, app, lib, level⟩ := places
  refine ⟨rooted, straight, leads _ (by decide) plain_spelt, writtenLeads _ (by decide), ?_, ?_, ?_⟩
  · exact (identifies _ _ (by decide) (by decide)).mpr (by decide +kernel)
  · exact (tells plan default default _ _ [] [] _ _ rfl app lib (level _ (by simp) _ (by simp))
      (level _ (by simp) _ (by simp))).mpr together
  · intro same
    exact apart ((tells plan default default _ _ [] [] _ _ rfl app lib
      (level _ (by simp) _ (by simp)) (level _ (by simp) _ (by simp))).mp same)

/-- A byte that spells nothing. -/
structure Stray (c : Char) : Prop where
  high : ¬ c.toNat < 0x80
  starts : Text.laterRanges c.toNat = []

theorem stray_ff : Stray '\u00ff' := ⟨by decide, by decide⟩

theorem stray_fe : Stray '\u00fe' := ⟨by decide, by decide⟩

/-- A directory of the workspace with a name of one byte. -/
def directoryOf (c : Char) : Path := ⟨String.ofList ("/work/repo/packages/".toList ++ [c])⟩

theorem nameOfBytes_stray {c : Char} (stray : Stray c)
    (way : stepsFrom root (directoryOf c) = [.name "packages", .name (String.ofList [c])]) :
    nameOfBytes root (directoryOf c) = "packages/\ufffd" := by
  have plain : Text.decode "packages".toList = "packages" := Text.decode_plain (by decide)
  have replaced : Text.decode [c] = String.ofList [Text.replacement] :=
    @Text.decode_stray c stray.high stray.starts [] [] rfl rfl
  have texts : [Step.name "packages", .name (String.ofList [c])].map
      (fun step => Text.decode step.text.toList) = ["packages", "\ufffd"] := by
    simp only [List.map_cons, List.map_nil, Step.text, plain, String.toList_ofList, replaced]
    decide +kernel
  rw [nameOfBytes, way, texts]
  decide +kernel

/-- A file of the first unit, as the bytes of its name lead there. -/
def pathOfFile (file : Text.Bytes) : Path := (unitAt "app").path.join ⟨String.ofList file⟩

/-- What the checker of a unit writes of an error in a file. -/
def written (file : Text.Bytes) : Text.Bytes := file ++ "(1,1): error TS1: one\n".toList

/-- The files that this is read to be about. -/
def filesRead (output : Text.Bytes) : List String :=
  (plan.collection default (unitAt "app")
    (.completed false (some 2) (Outcome.captured output []))).found.map Diagnostic.file

/-- A source of the unit with a name of one byte and an ending. -/
def sourceOf (c : Char) : Text.Bytes := "src/".toList ++ c :: ".ts".toList

theorem filesRead_stray {c : Char} (stray : Stray c) :
    filesRead (written (sourceOf c)) = ["app/src/\ufffd.ts"] := by
  have spelt : Text.decode (written (sourceOf c)) = "src/\ufffd.ts(1,1): error TS1: one\n" := by
    rw [written, sourceOf, List.append_assoc, List.cons_append,
      Text.decode_stray stray.high stray.starts (by decide) (by decide)]
    decide +kernel
  rw [filesRead, Outcome.captured, spelt, Text.decode_plain (by decide)]
  decide +kernel

end Naming.Sample

/-- Names do not tell all paths of bytes apart, and diagnostics in two files can be told of one. -/
theorem names_fold_bytes :
    (¬ ∀ root path other : Path, root.isAbsolute = true → .up ∉ root.steps →
      path.isAbsolute = true → other.isAbsolute = true →
      (nameOfBytes root path = nameOfBytes root other ↔ path.normalize = other.normalize))
    ∧ ∃ (file other : Text.Bytes) (name : String),
      (Naming.Sample.pathOfFile file).normalize ≠ (Naming.Sample.pathOfFile other).normalize
      ∧ Naming.Sample.filesRead (Naming.Sample.written file) = [name]
      ∧ Naming.Sample.filesRead (Naming.Sample.written other) = [name] := by
  constructor
  · intro claim
    have same := (claim Naming.Sample.root (Naming.Sample.directoryOf '\u00ff')
      (Naming.Sample.directoryOf '\u00fe') (by decide) (by decide +kernel) (by decide)
      (by decide)).mp
      ((Naming.Sample.nameOfBytes_stray Naming.Sample.stray_ff (by decide +kernel)).trans
        (Naming.Sample.nameOfBytes_stray Naming.Sample.stray_fe (by decide +kernel)).symm)
    exact absurd same (by decide +kernel)
  · exact ⟨Naming.Sample.sourceOf '\u00ff', Naming.Sample.sourceOf '\u00fe', _,
      by decide +kernel, Naming.Sample.filesRead_stray Naming.Sample.stray_ff,
      Naming.Sample.filesRead_stray Naming.Sample.stray_fe⟩

end MonorepoCheck
