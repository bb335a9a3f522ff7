import MonorepoCheck.Proofs.Glob.Moved
import MonorepoCheck.Unit.Discovery

/-!
Where a workspace lives. Its units have the same names in the same order wherever the same tree
stands, as long as nothing that is looked at leads out of it and the names above it hold no
wildcards. A wildcard in such a name is taken for one of the pattern.
-/
namespace MonorepoCheck

open FileTree MonorepoCheck.Path List

namespace Workspace

section Moving

/-- The pattern of a member without the mark of one that is taken out. -/
def bare (pattern : String) : String :=
  match pattern.toList with
  | '!' :: rest => String.ofList rest
  | _ => pattern

/-- A pattern as it is joined to the root. -/
def trimmed (pattern : String) : List Char :=
  Text.dropEndWhile (· == '/') (Text.dropLeading ['.', '/'] pattern.toList.length pattern.toList)

/-- Whether a pattern takes members out. -/
def negated (pattern : String) : Bool := pattern.toList.head? == some '!'

/-- The patterns of the workspace in a directory. -/
def patternsIn (host : Host) (root : Location) : List String :=
  (((Workspace.mk (pathOf root)).manifest? host).map memberPatterns).getD []

/-- The directories that a pattern puts in or takes out. -/
def meant (host : Host) (root : Location) (negative : Bool) (pattern : String) : List Path :=
  if negated pattern == negative then (Workspace.mk (pathOf root)).expand host (bare pattern)
  else []

/-- What finding the units of a workspace asks about, told by the pieces joined to the root. -/
inductive Asked (host : Host) (root : Location) (settings : Settings) : List String → Prop where
  | manifest : Asked host root settings [manifestName]
  | pattern {pattern steps seen} : pattern ∈ patternsIn host root →
      Glob.steps? ('/' :: trimmed (bare pattern)) = some steps →
      Glob.Looks host.files root steps [] seen → Asked host root settings seen
  | group {group} : (Workspace.mk (pathOf root)).declaredMembers host = [] →
      group ∈ settings.fallbackDirectories → Asked host root settings [group]
  | child {group place name} : (Workspace.mk (pathOf root)).declaredMembers host = [] →
      group ∈ settings.fallbackDirectories →
      host.files.locate [] (under root [group]) = .ok place →
      name ∈ (host.files.children place).map Prod.fst → Asked host root settings [group, name]
  | marker {rest} : PlainPlace rest →
      pathOf (root ++ rest) ∈ (Workspace.mk (pathOf root)).candidates host settings →
      Asked host root settings (rest ++ [settings.configurationFile])

/-- Whether nothing that is asked about leads out of the workspace or is too long to be named, at
either of two places. -/
structure Contained (host : Host) (root target : Location) (settings : Settings) : Prop where
  relative : ∀ pattern ∈ patternsIn host root,
    isAbsolute ⟨String.ofList (trimmed (bare pattern))⟩ = false
  fits : ∀ pieces, Asked host root settings pieces → Fits root target pieces

/-- Two paths that lead to one place below two roots. -/
def Alike (root target : Location) (path other : Path) : Prop :=
  ∃ rest, PlainPlace rest ∧ path = pathOf (root ++ rest) ∧ other = pathOf (target ++ rest)

variable {host other : Host} {root target : Location} {settings : Settings}

theorem pathOf_injective {place twin : Location} (plain : PlainPlace place) (plainTwin : PlainPlace twin)
    (same : pathOf place = pathOf twin) : place = twin := by
  have walks := congrArg walk same
  rw [walk_pathOf plain, walk_pathOf plainTwin] at walks
  exact List.map_injective_iff.mpr (fun _ _ => Walk.into.inj) walks

theorem Alike.biUnique (plain : PlainPlace root) (plainThere : PlainPlace target) :
    Relator.BiUnique (Alike root target) := by
  constructor
  · rintro _ _ _ ⟨rest, names, rfl, there⟩ ⟨twin, twinNames, rfl, there'⟩
    have same := pathOf_injective (plainThere.append names) (plainThere.append twinNames)
      (there.symm.trans there')
    rw [List.append_cancel_left same]
  · rintro _ _ _ ⟨rest, names, here, rfl⟩ ⟨twin, twinNames, here', rfl⟩
    have same := pathOf_injective (plain.append names) (plain.append twinNames)
      (here.symm.trans here')
    rw [List.append_cancel_left same]

theorem alike_normalize (moved : Moved host.files other.files root target) {path twin : Path}
    (shifted : Glob.Shifted root target path twin) :
    Alike root target path.normalize twin.normalize := by
  obtain ⟨pieces, fits, rfl, rfl⟩ := shifted
  have normal {tree : FileTree} {start : Location} (rooted : Rooted tree start) :
      (under start pieces).normalize = pathOf (start ++ spot pieces) := by
    have stays : staysBelow 0 (walk (under start pieces)) = true := by
      rw [walk_under rooted.plain fits.relative, staysBelow_into]
      exact staysBelow_mono (Nat.zero_le _) fits.below
    rw [normalize_eq (isAbsolute_under start fits.relative) stays,
      Glob.placeOf_under rooted fits.relative fits.below]
  exact ⟨spot pieces, spot_plain pieces, normal moved.here, normal moved.there⟩

section Lists

theorem forall₂_filter {α β : Type} {R : α → β → Prop} {p : α → Bool} {q : β → Bool} {list : List α}
    {others : List β} (pairs : Forall₂ R list others)
    (same : ∀ a ∈ list, ∀ b, R a b → p a = q b) :
    Forall₂ R (list.filter p) (others.filter q) := by
  induction pairs with
  | nil => exact .nil
  | @cons a b rest others' pair pairs ih =>
      have tail := ih fun a member => same a (List.mem_cons_of_mem _ member)
      rw [List.filter_cons, List.filter_cons, same a List.mem_cons_self b pair]
      cases q b with
      | true => exact .cons pair tail
      | false => exact tail

/-- Induction along the recursion that takes repetitions out. -/
theorem eraseDups_induction {α : Type} [BEq α] {motive : List α → Prop} (nil : motive [])
    (cons : ∀ first rest, motive (rest.filter fun item => !item == first) → motive (first :: rest))
    (list : List α) : motive list := by
  induction size : list.length using Nat.strongRecOn generalizing list with
  | ind size ih =>
      cases list with
      | nil => exact nil
      | cons first rest =>
          have shorter := List.length_filter_le (fun item => !item == first) rest
          rw [List.length_cons] at size
          exact cons first rest (ih _ (by omega) _ rfl)

theorem forall₂_eraseDups {α β : Type} [BEq α] [LawfulBEq α] [BEq β] [LawfulBEq β] {R : α → β → Prop}
    (unique : Relator.BiUnique R) {list : List α} {others : List β} (pairs : Forall₂ R list others) :
    Forall₂ R list.eraseDups others.eraseDups := by
  induction list using eraseDups_induction generalizing others with
  | nil =>
      cases pairs
      exact .nil
  | cons a rest ih =>
      cases pairs with
      | @cons _ b _ others' pair pairs =>
          rw [List.eraseDups_cons, List.eraseDups_cons]
          refine .cons pair (ih (forall₂_filter pairs ?_))
          intro c _ d other
          by_cases same : c = a
          · subst same
            rw [unique.2 pair other]
            simp
          · have different : d ≠ b := by
              rintro rfl
              exact same (unique.1 other pair)
            simp [same, different]

end Lists

section Requests

variable {pieces : List String}

theorem find_under (host : Host) (root : Location) (relative : Relative pieces) :
    host.files.find host.here (under root pieces) = host.files.find [] (under root pieces) :=
  find_absolute (isAbsolute_under root relative) host.here

theorem readText_alike (moved : Moved host.files other.files root target)
    (fits : Fits root target pieces) :
    (host.readText (under root pieces)).toOption = (other.readText (under target pieces)).toOption := by
  rw [Host.readText, Host.readText, readText_eq, readText_eq, find_under host root fits.relative,
    find_under other target fits.relative, moved.find_moved fits]

theorem isFileAt_alike (moved : Moved host.files other.files root target)
    (fits : Fits root target pieces) :
    host.isFileAt (under root pieces) = other.isFileAt (under target pieces) := by
  rw [Host.isFileAt, Host.isFileAt, isFileAt_eq, isFileAt_eq, find_under host root fits.relative,
    find_under other target fits.relative, moved.find_moved fits]

theorem isDirectoryAt_under (host : Host) (root : Location) (relative : Relative pieces) :
    host.isDirectoryAt (under root pieces) = host.files.isDirectoryAt [] (under root pieces) := by
  rw [Host.isDirectoryAt, isDirectoryAt_eq, isDirectoryAt_eq, find_under host root relative]

theorem isDirectoryAt_alike (moved : Moved host.files other.files root target)
    (fits : Fits root target pieces) :
    host.isDirectoryAt (under root pieces) = other.isDirectoryAt (under target pieces) := by
  rw [isDirectoryAt_under host root fits.relative, isDirectoryAt_under other target fits.relative,
    moved.isDirectoryAt_moved fits]

end Requests

section Members

theorem patternsIn_moved (moved : Moved host.files other.files root target)
    (contained : Contained host root target settings) :
    patternsIn host root = patternsIn other target := by
  have read := readText_alike moved (contained.fits [manifestName] .manifest)
  rw [under_one, under_one] at read
  rw [patternsIn, patternsIn, manifest?, manifest?, read]

theorem expand_eq (host : Host) (root : Location) (pattern : String) :
    (Workspace.mk (pathOf root)).expand host pattern
      = (Glob.directories host.files
          ((pathOf root).join ⟨String.ofList (trimmed pattern)⟩)).map Path.normalize := rfl

theorem expand_alike (moved : Moved host.files other.files root target)
    (literal : Glob.LiteralPlace root) (literalThere : Glob.LiteralPlace target)
    (contained : Contained host root target settings) {pattern : String}
    (declared : pattern ∈ patternsIn host root) :
    Forall₂ (Alike root target) ((Workspace.mk (pathOf root)).expand host (bare pattern))
      ((Workspace.mk (pathOf target)).expand other (bare pattern)) := by
  have found := Glob.directories_moved moved literal literalThere
    (contained.relative pattern declared)
    fun steps read seen looks => contained.fits seen (.pattern declared read looks)
  rw [expand_eq, expand_eq]
  exact List.rel_map (fun _ _ shifted => alike_normalize moved shifted) found

theorem not_negated {pattern : String} (other : ∀ rest, pattern.toList ≠ '!' :: rest) :
    negated pattern = false := by
  rw [negated, beq_eq_false_iff_ne]
  intro head
  obtain ⟨rest, chars⟩ := List.head?_eq_some_iff.mp head
  exact other rest chars

theorem declaredMembers_eq (host : Host) (root : Location) :
    (Workspace.mk (pathOf root)).declaredMembers host
      = ((patternsIn host root).flatMap (meant host root false)).filter fun path =>
          !((patternsIn host root).flatMap (meant host root true)).contains path := by
  have included : (fun pattern : String => match pattern.toList with
      | '!' :: _ => []
      | _ => (Workspace.mk (pathOf root)).expand host pattern) = meant host root false := by
    funext pattern
    rw [meant, bare]
    split
    · rename_i rest chars
      simp only [negated, chars, List.head?_cons]
      rfl
    · rename_i other
      simp only [not_negated other]
      rfl
  have excluded : (fun pattern : String => match pattern.toList with
      | '!' :: rest => (Workspace.mk (pathOf root)).expand host (String.ofList rest)
      | _ => []) = meant host root true := by
    funext pattern
    rw [meant, bare]
    split
    · rename_i rest chars
      simp only [negated, chars, List.head?_cons, beq_self_eq_true, if_true]
    · rename_i other
      simp only [not_negated other]
      rfl
  rw [← included, ← excluded]
  rfl

/-- The members that a workspace declares are the same below both roots. -/
theorem declared_alike (moved : Moved host.files other.files root target)
    (literal : patternsIn host root = [] ∨ Glob.LiteralPlace root ∧ Glob.LiteralPlace target)
    (contained : Contained host root target settings) :
    Forall₂ (Alike root target) ((Workspace.mk (pathOf root)).declaredMembers host)
      ((Workspace.mk (pathOf target)).declaredMembers other) := by
  rw [declaredMembers_eq, declaredMembers_eq, ← patternsIn_moved moved contained]
  rcases literal with none' | ⟨literal, literalThere⟩
  · rw [none']
    exact .nil
  · have members (negative : Bool) :
        Forall₂ (Alike root target) ((patternsIn host root).flatMap (meant host root negative))
          ((patternsIn host root).flatMap (meant other target negative)) := by
      apply Glob.forall₂_flatMap
      intro pattern declared
      rw [meant, meant]
      apply Glob.forall₂_guard
      intro _
      exact expand_alike moved literal literalThere contained declared
    apply forall₂_filter (members false)
    intro path _ twin alike
    have listed := List.rel_mem (Alike.biUnique moved.here.plain moved.there.plain) alike (members true)
    simp only [List.contains_eq_mem, listed]

/-- The directories in a grouping directory are the same below both roots. -/
theorem grouped_alike (moved : Moved host.files other.files root target)
    (contained : Contained host root target settings)
    (undeclared : (Workspace.mk (pathOf root)).declaredMembers host = []) {group : String}
    (named : group ∈ settings.fallbackDirectories) :
    Forall₂ (Glob.Shifted root target) (childDirectories host (under root [group]))
      (childDirectories other (under target [group])) := by
  have fits := contained.fits [group] (.group undeclared named)
  rw [childDirectories, childDirectories, isDirectoryAt_alike moved fits]
  apply Glob.forall₂_guard
  intro directory
  -- a grouping directory lies at the same place below either root, and lists the same names
  have there := directory
  rw [isDirectoryAt_under other target fits.relative] at there
  have here := there
  rw [← moved.isDirectoryAt_moved fits] at here
  have located := (find_directory (isDirectoryAt_iff.mp here)).1
  have locatedThere := (find_directory (isDirectoryAt_iff.mp there)).1
  rw [Glob.placeOf_under moved.here fits.relative fits.below] at located
  rw [Glob.placeOf_under moved.there fits.relative fits.below] at locatedThere
  rw [locate_absolute (isAbsolute_under root fits.relative), located,
    locate_absolute (isAbsolute_under target fits.relative), locatedThere]
  have named' (tree : FileTree) (root place : Location) :
      ((tree.children place).map fun child => (under root [group]).join ⟨child.1⟩)
        = ((tree.children place).map Prod.fst).map fun name => under root [group, name] := by
    rw [List.map_map]
    rfl
  dsimp only
  rw [named', named', ← moved.children_moved]
  have children : Forall₂ (Glob.Shifted root target)
      (((host.files.children (root ++ spot [group])).map Prod.fst).map fun name =>
        under root [group, name])
      (((host.files.children (root ++ spot [group])).map Prod.fst).map fun name =>
        under target [group, name]) := by
    rw [List.forall₂_map_left_iff, List.forall₂_map_right_iff, List.forall₂_same]
    intro name member
    exact ⟨_, contained.fits _ (.child undeclared named located member), rfl, rfl⟩
  apply forall₂_filter children
  rintro path - twin ⟨pieces, inside, rfl, rfl⟩
  exact isDirectoryAt_alike moved inside

/-- What may be a unit below one root may be one below the other. -/
theorem candidates_alike (moved : Moved host.files other.files root target)
    (literal : patternsIn host root = [] ∨ Glob.LiteralPlace root ∧ Glob.LiteralPlace target)
    (contained : Contained host root target settings) :
    Forall₂ (Alike root target) ((Workspace.mk (pathOf root)).candidates host settings)
      ((Workspace.mk (pathOf target)).candidates other settings) := by
  have declared := declared_alike moved literal contained
  have normal {path twin : Path} (alike : Alike root target path twin) :
      Alike root target path.normalize twin.normalize := by
    obtain ⟨rest, plain, rfl, rfl⟩ := alike
    rw [normalize_pathOf (moved.here.plain.append plain),
      normalize_pathOf (moved.there.plain.append plain)]
    exact ⟨rest, plain, rfl, rfl⟩
  have own : Alike root target (pathOf root).normalize (pathOf target).normalize :=
    normal ⟨[], .nil, by rw [List.append_nil], by rw [List.append_nil]⟩
  have empty : ((Workspace.mk (pathOf root)).declaredMembers host).isEmpty
      = ((Workspace.mk (pathOf target)).declaredMembers other).isEmpty := by
    rw [Bool.eq_iff_iff, List.isEmpty_iff_length_eq_zero, List.isEmpty_iff_length_eq_zero,
      declared.length_eq]
  rw [candidates, candidates, ← empty]
  dsimp only
  rw [List.map_append, List.map_append]
  refine List.rel_append ?_ (.cons own .nil)
  split
  · rename_i undeclared
    have grouped : Forall₂ (Glob.Shifted root target)
        ((Workspace.mk (pathOf root)).groupedMembers host settings.fallbackDirectories)
        ((Workspace.mk (pathOf target)).groupedMembers other settings.fallbackDirectories) := by
      apply Glob.forall₂_flatMap
      intro group named
      exact grouped_alike moved contained (List.isEmpty_iff.mp undeclared) named
    exact List.rel_map (fun _ _ shifted => alike_normalize moved shifted) grouped
  · exact List.rel_map (fun _ _ alike => normal alike) declared

theorem loadUnit_name (workspace : Workspace) (host : Host) (settings : Settings) (path : Path) :
    (workspace.loadUnit host settings path).name = relativeTo workspace.root path := by
  unfold loadUnit
  dsimp only
  split <;> simp only [BuildUnit.inDirectory]

/-- The units of a workspace have the same names in the same order wherever it stands. -/
theorem units_relocate (moved : Moved host.files other.files root target)
    (literal : patternsIn host root = [] ∨ Glob.LiteralPlace root ∧ Glob.LiteralPlace target)
    (contained : Contained host root target settings) :
    ((Workspace.mk (pathOf root)).units host settings).map BuildUnit.name
      = ((Workspace.mk (pathOf target)).units other settings).map BuildUnit.name := by
  have found := candidates_alike moved literal contained
  -- paths stay paired through the filter, and only paired paths are taken for the same unit
  have marked : Forall₂ (Alike root target)
      (((Workspace.mk (pathOf root)).candidates host settings).filter fun path =>
        host.isFileAt (path.join ⟨settings.configurationFile⟩))
      (((Workspace.mk (pathOf target)).candidates other settings).filter fun path =>
        other.isFileAt (path.join ⟨settings.configurationFile⟩)) := by
    apply forall₂_filter found
    rintro path member twin ⟨rest, plain, rfl, rfl⟩
    rw [pathOf_append (moved.here.plain.append plain),
      pathOf_append (moved.there.plain.append plain), ← under_snoc, ← under_snoc]
    exact isFileAt_alike moved (contained.fits _ (.marker plain member))
  have once := forall₂_eraseDups (Alike.biUnique moved.here.plain moved.there.plain) marked
  rw [units, units, List.map_map, List.map_map, ← List.forall₂_eq_eq_eq]
  refine List.rel_map ?_ once
  rintro path twin ⟨rest, plain, rfl, rfl⟩
  rw [Function.comp_apply, Function.comp_apply, loadUnit_name, loadUnit_name,
    relativeTo_pathOf (moved.here.plain.append plain),
    relativeTo_pathOf (moved.there.plain.append plain)]

end Members

end Moving

/-! One small workspace at several places. -/
namespace Sample

def marked : Entry := .file "\x7b\x7d".toUTF8 ⟨5, 0⟩

def inner : FileTree where
  entries :=
    [(["package.json"], .file "\x7b\"workspaces\": [\"mods/*\"]\x7d".toUTF8 ⟨5, 0⟩),
     (["tsconfig.json"], marked), (["mods"], .directory), (["mods", "b"], .directory),
     (["mods", "b", "tsconfig.json"], marked), (["mods", "a"], .directory),
     (["mods", "a", "tsconfig.json"], marked)]

def host (root : Location) : Host where
  files := placed inner root
  now := ⟨10, 0⟩

def workspace (root : Location) : Workspace := ⟨pathOf root⟩

/-- What is asked of the root, of its manifest and of the pattern in it. -/
theorem lib_seen :
    Rooted (host ["lib"]).files ["lib"]
      ∧ patternsIn (host ["lib"]) ["lib"] = ["mods/*"]
      ∧ isAbsolute ⟨String.ofList (trimmed (bare "mods/*"))⟩ = false
      ∧ Glob.steps? ('/' :: trimmed (bare "mods/*"))
        = some [Glob.literalStep "mods", [.anyRun]] := by
  refine ⟨by constructor <;> decide +kernel, ?_⟩
  decide +kernel

/-- What is asked of the directory that the pattern goes through, and of what is in it. -/
theorem mods_seen :
    (pathOf ["lib"]).join ⟨String.ofList "mods".toList⟩ = pathOf ["lib", "mods"]
      ∧ (host ["lib"]).files.existsAt [] (pathOf ["lib", "mods"]) = true
      ∧ (host ["lib"]).files.isDirectoryAt [] (pathOf ["lib", "mods"]) = true
      ∧ placeOf [] (pathOf ["lib", "mods"]) = ["lib", "mods"]
      ∧ ((host ["lib"]).files.entries.map Prod.fst).filterMap (childOf? ["lib", "mods"]) = ["b", "a"]
      ∧ ∀ name ∈ ["a", "b"], (pathOf ["lib", "mods"]).join ⟨name⟩ = pathOf ["lib", "mods", name]
        ∧ (Glob.nameOf? (pathOf ["lib", "mods", name])).any (Glob.accepts [.anyRun]) = true
        ∧ (host ["lib"]).files.isDirectoryAt [] (pathOf ["lib", "mods", name]) = true
        ∧ PlainPlace ["lib", "mods", name] := by
  decide +kernel

theorem children_mods :
    ((host ["lib"]).files.children ["lib", "mods"]).map Prod.fst = ["a", "b"] := by
  obtain ⟨-, -, -, -, names, -⟩ := mods_seen
  have swapped : ["b", "a"].Perm ["a", "b"] := .swap "a" "b" []
  rw [children_names, names, Text.mergeSort_of_perm swapped]
  exact Text.mergeSort_of_pairwise (by decide)

theorem literal_mods : Glob.literal? (Glob.literalStep "mods") = some "mods".toList :=
  Glob.literal?_literals "mods".toList

theorem inside_lib (fuel : Nat) :
    Glob.inside (host ["lib"]).files (fuel + 4) [Glob.literalStep "mods", [.anyRun]] (pathOf ["lib"])
      = ["a", "b"].map fun name => pathOf ["lib", "mods", name] := by
  obtain ⟨mods, standing, directory, place, -, each⟩ := mods_seen
  have child (name : String) (member : name ∈ ["a", "b"]) :
      Glob.matching (host ["lib"]).files (fuel + 2) [[.anyRun]] ((pathOf ["lib", "mods"]).join ⟨name⟩)
        = [pathOf ["lib", "mods", name]] := by
    obtain ⟨joined, accepted, -⟩ := each name member
    rw [joined, Glob.matching_named _ rfl, if_pos accepted, Glob.inside]
  have named : ¬("mods".toList = ['.'] ∨ "mods".toList = ['.', '.']) := by decide
  have point : Glob.pointSteps [.anyRun] = [] := rfl
  simp only [Glob.inside_literal _ literal_mods, mods, named, if_false, standing, if_true]
  rw [Glob.inside_wild _ rfl, if_pos directory, place, children_mods, List.flatMap_congr child, point]
  rfl

theorem expand_lib : (workspace ["lib"]).expand (host ["lib"]) (bare "mods/*")
    = ["a", "b"].map fun name => pathOf ["lib", "mods", name] := by
  obtain ⟨rooted, -, relative, reads⟩ := lib_seen
  obtain ⟨-, -, -, -, -, each⟩ := mods_seen
  have literal : Glob.LiteralPlace ["lib"] := by decide
  have steps := Glob.steps?_root rooted.plain literal _ relative
  rw [reads, Option.map_some] at steps
  obtain ⟨fuel, enough⟩ : ∃ fuel, Glob.rounds (host ["lib"]).files
      (["lib"].map Glob.literalStep ++ [Glob.literalStep "mods", [.anyRun]])
      = fuel + 4 + ["lib"].length := by
    have rounds := Glob.need_rounds (host ["lib"]).files ["lib"] [Glob.literalStep "mods", [.anyRun]]
    rw [Glob.need] at rounds
    simp only [List.length_cons, List.length_nil] at rounds ⊢
    exact ⟨_, (Nat.sub_add_cancel (show 4 + 1 ≤ _ by omega)).symm⟩
  have found : Glob.directories (host ["lib"]).files
      ((pathOf ["lib"]).join ⟨String.ofList (trimmed (bare "mods/*"))⟩)
      = ["a", "b"].map fun name => pathOf ["lib", "mods", name] := by
    rw [Glob.directories, steps]
    dsimp only
    rw [enough, Glob.inside_root rooted, inside_lib, List.filter_eq_self]
    intro path member
    obtain ⟨name, listed, rfl⟩ := List.mem_map.mp member
    exact (each name listed).2.2.1
  rw [workspace, expand_eq, found, List.map_map]
  apply List.map_congr_left
  intro name listed
  rw [Function.comp_apply, normalize_pathOf (each name listed).2.2.2]

/-- The directories that may be units, and the units among them. -/
theorem lib_found :
    (workspace ["lib"]).candidates (host ["lib"]) Settings.default
        = [["lib", "mods", "a"], ["lib", "mods", "b"], ["lib"]].map pathOf
      ∧ ((workspace ["lib"]).units (host ["lib"]) Settings.default).map BuildUnit.name
        = ["mods/a", "mods/b", "."] := by
  obtain ⟨-, declared, -⟩ := lib_seen
  have members : (workspace ["lib"]).declaredMembers (host ["lib"])
      = ["a", "b"].map fun name => pathOf ["lib", "mods", name] := by
    have included : meant (host ["lib"]) ["lib"] false "mods/*"
        = (workspace ["lib"]).expand (host ["lib"]) (bare "mods/*") := if_pos (by decide)
    have excluded : meant (host ["lib"]) ["lib"] true "mods/*" = [] := if_neg (by decide)
    rw [workspace, declaredMembers_eq, declared, List.flatMap_singleton, List.flatMap_singleton,
      included, excluded, expand_lib]
    rfl
  have candidates : (workspace ["lib"]).candidates (host ["lib"]) Settings.default
      = [["lib", "mods", "a"], ["lib", "mods", "b"], ["lib"]].map pathOf := by
    rw [Workspace.candidates, members]
    decide +kernel
  rw [units, candidates]
  decide +kernel

/-- The pieces that are asked about. -/
def looked : List (List String) :=
  [[], ["package.json"], ["mods"], ["mods", "a"], ["mods", "b"], ["packages"], ["apps"], ["libs"],
    ["services"], ["tsconfig.json"], ["mods", "a", "tsconfig.json"], ["mods", "b", "tsconfig.json"]]

theorem looks_lib {seen : List String}
    (looks : Glob.Looks (host ["lib"]).files ["lib"] [Glob.literalStep "mods", [.anyRun]] [] seen) :
    seen ∈ looked := by
  cases looks with
  | here => decide
  | point wild => cases literal_mods.symm.trans wild
  | child wild => cases literal_mods.symm.trans wild
  | literal named inside =>
      obtain rfl := Option.some.inj (literal_mods.symm.trans named)
      cases inside with
      | here => decide
      | literal named => cases named
      | point _ point => cases point
      | child _ located member matched =>
          obtain ⟨mods, -, -, place, -⟩ := mods_seen
          rw [List.nil_append, under_one, mods] at located
          rw [locate_place located, place, children_mods] at member
          have all : ∀ name ∈ ["a", "b"], ["mods", name] ∈ looked := by decide
          cases matched with
          | beside recursive => cases recursive
          | deeper recursive => cases recursive
          | named _ _ further =>
              cases further with
              | here => exact all _ member

theorem asked_lib {pieces : List String}
    (asked : Asked (host ["lib"]) ["lib"] Settings.default pieces) : pieces ∈ looked := by
  cases asked with
  | manifest => decide
  | pattern named steps looks =>
      obtain ⟨-, declared, -, reads⟩ := lib_seen
      rw [declared, List.mem_singleton] at named
      subst named
      obtain rfl := Option.some.inj (reads.symm.trans steps)
      exact looks_lib looks
  | group _ named =>
      have all : ∀ group ∈ Settings.default.fallbackDirectories, [group] ∈ looked := by
        decide
      exact all _ named
  | child _ named located member =>
      have none' : ∀ group ∈ Settings.default.fallbackDirectories,
          ((host ["lib"]).files.entries.map Prod.fst).filterMap
            (childOf? (placeOf [] (under ["lib"] [group]))) = [] := by decide +kernel
      rw [locate_place located, children_names, List.mem_mergeSort, none' _ named] at member
      cases member
  | @marker rest plain candidate =>
      obtain ⟨rooted, -⟩ := lib_seen
      rw [← workspace, lib_found.1] at candidate
      obtain ⟨place, listed, same⟩ := List.mem_map.mp candidate
      have plainPlace : ∀ place ∈ [["lib", "mods", "a"], ["lib", "mods", "b"], ["lib"]],
          PlainPlace place := by decide +kernel
      have all : ∀ place ∈ [["lib", "mods", "a"], ["lib", "mods", "b"], ["lib"]],
          place.tail ++ [Settings.default.configurationFile] ∈ looked := by decide
      obtain rfl := pathOf_injective (plainPlace place listed) (rooted.plain.append plain) same
      exact all _ listed

theorem contained_lib {target : Location} (fits : ∀ pieces ∈ looked, Fits ["lib"] target pieces) :
    Contained (host ["lib"]) ["lib"] target Settings.default := by
  obtain ⟨-, declared, relative, -⟩ := lib_seen
  constructor
  · intro pattern named
    rw [declared, List.mem_singleton] at named
    rwa [named]
  · exact fun pieces asked => fits pieces (asked_lib asked)

/-- The same tree below directories whose names hold no wildcards. -/
theorem found_below_srv :
    Moved (host ["lib"]).files (host ["srv", "my app"]).files ["lib"] ["srv", "my app"]
      ∧ patternsIn (host ["lib"]) ["lib"] = ["mods/*"]
      ∧ Contained (host ["lib"]) ["lib"] ["srv", "my app"] Settings.default
      ∧ ((workspace ["srv", "my app"]).units (host ["srv", "my app"]) Settings.default).map
          BuildUnit.name = ["mods/a", "mods/b", "."] := by
  obtain ⟨rooted, declared, -⟩ := lib_seen
  have moved : Moved (host ["lib"]).files (host ["srv", "my app"]).files ["lib"] ["srv", "my app"] :=
    moved_placed inner rooted (by constructor <;> decide +kernel)
  have contained : Contained (host ["lib"]) ["lib"] ["srv", "my app"] Settings.default :=
    contained_lib (by decide +kernel)
  have same := units_relocate moved (.inr (by decide +kernel)) contained
  exact ⟨moved, declared, contained, same.symm.trans lib_found.2⟩

/-- The same tree below a directory whose name is a class of characters: its members are lost. -/
theorem lost_below_class :
    Moved (host ["lib"]).files (host ["[lib]"]).files ["lib"] ["[lib]"]
      ∧ patternsIn (host ["lib"]) ["lib"] = ["mods/*"]
      ∧ Contained (host ["lib"]) ["lib"] ["[lib]"] Settings.default
      ∧ ((workspace ["lib"]).units (host ["lib"]) Settings.default).map BuildUnit.name
        = ["mods/a", "mods/b", "."]
      ∧ ((workspace ["[lib]"]).units (host ["[lib]"]) Settings.default).map BuildUnit.name
        = ["."] := by
  obtain ⟨rooted, declared, -⟩ := lib_seen
  have moved : Moved (host ["lib"]).files (host ["[lib]"]).files ["lib"] ["[lib]"] :=
    moved_placed inner rooted (by constructor <;> decide +kernel)
  exact ⟨moved, declared, contained_lib (by decide +kernel), lib_found.2, by decide +kernel⟩

end Sample

end Workspace

end MonorepoCheck
