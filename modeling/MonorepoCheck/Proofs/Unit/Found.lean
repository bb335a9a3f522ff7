import MonorepoCheck.Proofs.Unit.Members

/-!
In which order units are found. The directories that may be units stand in a sequence: what the
manifest declares, pattern by pattern, or else the children of the grouping directories, and then the
root. Of these the ones with a build configuration are units, each at its first place.
-/
namespace MonorepoCheck

open FileTree MonorepoCheck.Path List

section Firsts

variable {α : Type} [BEq α] [LawfulBEq α]

/-- What is accepted of a list, each once and in the order of the first places. -/
structure FirstsOf (accept : α → Bool) (seen found : List α) : Prop where
  once : found.Nodup
  mem_iff : ∀ item, item ∈ found ↔ item ∈ seen ∧ accept item = true
  inOrder : found.Pairwise fun item other => seen.idxOf item < seen.idxOf other

theorem idxOf_filter_lt_iff (accept : α → Bool) {item other : α} (accepts : accept item = true)
    (acceptsOther : accept other = true) (list : List α) :
    (list.filter accept).idxOf item < (list.filter accept).idxOf other
      ↔ list.idxOf item < list.idxOf other := by
  induction list with
  | nil => simp
  | cons first rest ih =>
      -- the first place of either decides; what is neither of them moves both places alike
      by_cases here : first = item
      · subst here
        by_cases both : first = other
        · subst both
          simp
        · simp [accepts, both]
      · by_cases there : first = other
        · subst there
          simp [acceptsOther]
        · cases kept : accept first <;> simp [kept, here, there, ih]

/-- Taking repetitions out leaves everything at its first place. -/
theorem eraseDups_inOrder (list : List α) :
    list.eraseDups.Pairwise fun item other => list.idxOf item < list.idxOf other := by
  induction list using Workspace.eraseDups_induction with
  | nil => exact .nil
  | cons first rest ih =>
      have kept {item : α} (member : item ∈ (rest.filter fun item => !item == first).eraseDups) :
          (!item == first) = true := by
        rw [List.mem_eraseDups] at member
        exact (List.mem_filter.mp member).2
      have apart {item : α} (member : item ∈ (rest.filter fun item => !item == first).eraseDups) :
          first ≠ item := by
        rintro rfl
        simpa using kept member
      rw [List.eraseDups_cons, List.pairwise_cons]
      constructor
      · intro item member
        simp [apart member]
      · refine ih.imp_of_mem ?_
        intro item later member memberLater before
        have inRest := (idxOf_filter_lt_iff (fun item => !item == first) (kept member)
          (kept memberLater) rest).mp before
        simpa [apart member, apart memberLater] using inRest

theorem firstsOf_eraseDups (accept : α → Bool) (seen : List α) :
    FirstsOf accept seen (seen.filter accept).eraseDups where
  once := nodup_eraseDups _
  mem_iff item := by rw [List.mem_eraseDups, List.mem_filter]
  inOrder := by
    refine (eraseDups_inOrder (seen.filter accept)).imp_of_mem ?_
    intro item other member memberOther before
    rw [List.mem_eraseDups] at member memberOther
    exact (idxOf_filter_lt_iff accept (List.mem_filter.mp member).2 (List.mem_filter.mp memberOther).2
      seen).mp before

end Firsts

namespace Workspace

variable {host : Host} {root : Location} {settings : Settings}

/-- Whether a directory holds a build configuration. -/
def holdsConfiguration (host : Host) (settings : Settings) (path : Path) : Bool :=
  host.isFileAt (path.join ⟨settings.configurationFile⟩)

section Grouped

/-- Whether a directory of this name stands right in a grouping directory. -/
structure Inside (host : Host) (group : Path) (name : String) : Prop where
  listed : ∃ place, host.files.locate host.here group = .ok place
    ∧ place ++ [name] ∈ host.files.entries.map Prod.fst
  grouping : host.isDirectoryAt group = true
  directory : host.isDirectoryAt (group.join ⟨name⟩) = true

/-- The directories right in a grouping directory, in the order of their names. -/
def Children (host : Host) (group : Path) (children : List Path) : Prop :=
  ∃ names : List String, names.Pairwise (· ≤ ·) ∧ (∀ name, name ∈ names ↔ Inside host group name)
    ∧ children = names.map fun name => group.join ⟨name⟩

/-- The directories in the grouping directories, group by group. -/
def Grouped (host : Host) (root : Location) (settings : Settings) (directories : List Path) : Prop :=
  ∃ children, Forall₂ (fun group => Children host ((pathOf root).join ⟨group⟩))
    settings.fallbackDirectories children ∧ directories = children.flatten

theorem children_childDirectories (host : Host) (group : Path) :
    Children host group (childDirectories host group) := by
  cases there : host.isDirectoryAt group with
  | false =>
      refine ⟨[], .nil, fun name => iff_of_false List.not_mem_nil fun inside => ?_, ?_⟩
      · exact absurd (there.symm.trans inside.grouping) (by decide)
      · rw [childDirectories, there]
        rfl
  | true =>
      have located := (find_directory (isDirectoryAt_iff.mp there)).1
      generalize placeOf host.here group = place at located
      refine ⟨((host.files.children place).map Prod.fst).filter fun name =>
        host.isDirectoryAt (group.join ⟨name⟩), ?_, ?_, ?_⟩
      · rw [children_names]
        exact (Text.mergeSort_pairwise _).filter _
      · intro name
        rw [List.mem_filter, children_names, List.mem_mergeSort, List.mem_filterMap]
        constructor
        · rintro ⟨⟨child, member, named⟩, directory⟩
          exact ⟨⟨place, located, childOf?_iff.mp named ▸ member⟩, there, directory⟩
        · rintro ⟨⟨other, found, member⟩, -, directory⟩
          obtain rfl := Except.ok.inj (located.symm.trans found)
          exact ⟨⟨_, member, childOf?_iff.mpr rfl⟩, directory⟩
      · rw [childDirectories, if_pos there, located, List.filter_map, List.map_map]
        exact List.filter_map

theorem grouped_groupedMembers (host : Host) (root : Location) (settings : Settings) :
    Grouped host root settings
      ((Workspace.mk (pathOf root)).groupedMembers host settings.fallbackDirectories) := by
  refine ⟨settings.fallbackDirectories.map fun group =>
    childDirectories host ((pathOf root).join ⟨group⟩), ?_, rfl⟩
  rw [List.forall₂_map_right_iff, List.forall₂_same]
  exact fun group _ => children_childDirectories host _

theorem Grouped.mem {directories : List Path} (grouped : Grouped host root settings directories)
    {group name : String} (listed : group ∈ settings.fallbackDirectories)
    (inside : Inside host ((pathOf root).join ⟨group⟩) name) :
    ((pathOf root).join ⟨group⟩).join ⟨name⟩ ∈ directories := by
  obtain ⟨children, each, rfl⟩ := grouped
  generalize settings.fallbackDirectories = groups at listed each
  induction each with
  | nil => cases listed
  | @cons first directories rest others those each ih =>
      rw [List.flatten_cons, List.mem_append]
      rcases List.mem_cons.mp listed with rfl | later
      · obtain ⟨names, -, complete, rfl⟩ := those
        exact .inl (List.mem_map_of_mem ((complete name).mpr inside))
      · exact .inr (ih later)

end Grouped

section Sequence

/-- The directories that the manifest declares, in the order of its patterns and of what each of them
matches, without those that it takes out. -/
def declared (host : Host) (root : Location) : List Path :=
  (((patternsIn host root).filter fun pattern => !negated pattern).flatMap
    ((Workspace.mk (pathOf root)).expand host)).filter fun path => !decide (Means host root true path)

theorem bare_of_not_negated {pattern : String} (puts : negated pattern = false) :
    bare pattern = pattern := by
  rw [bare]
  split
  · rename_i rest chars
    rw [negated, chars] at puts
    cases puts
  · rfl

theorem meant_puts (host : Host) (root : Location) (pattern : String) :
    meant host root false pattern
      = if !negated pattern then (Workspace.mk (pathOf root)).expand host pattern else [] := by
  rw [meant]
  cases kind : negated pattern with
  | true => simp
  | false => simp [bare_of_not_negated kind]

theorem flatMap_meant (host : Host) (root : Location) (patterns : List String) :
    patterns.flatMap (meant host root false)
      = (patterns.filter fun pattern => !negated pattern).flatMap
        ((Workspace.mk (pathOf root)).expand host) := by
  induction patterns with
  | nil => rw [List.filter_nil, List.flatMap_nil, List.flatMap_nil]
  | cons pattern rest ih =>
      rw [List.flatMap_cons, ih, meant_puts, List.filter_cons]
      split
      · exact List.flatMap_cons.symm
      · exact List.nil_append _

theorem declaredMembers_eq_declared (host : Host) (root : Location) :
    (Workspace.mk (pathOf root)).declaredMembers host = declared host root := by
  rw [declaredMembers_eq, declared, flatMap_meant]
  apply List.filter_congr
  intro path _
  simp only [List.contains_eq_mem, mem_meant_iff]

/-- What may be a unit, in the order in which it is looked at. -/
inductive Sequence (host : Host) (root : Location) (settings : Settings) : List Path → Prop where
  | declared (left : ∃ path, Remains host root path) :
      Sequence host root settings (declared host root ++ [pathOf root])
  | grouped {directories : List Path} (none' : ∀ path, ¬ Remains host root path)
      (grouped : Grouped host root settings directories) :
      Sequence host root settings (directories ++ [pathOf root])

theorem unit_paths_members (host : Host) (root : Location) (settings : Settings) :
    FirstsOf (holdsConfiguration host settings)
      (((Workspace.mk (pathOf root)).members host settings ++ [pathOf root]).map Path.normalize)
      (((Workspace.mk (pathOf root)).units host settings).map BuildUnit.path) := by
  rw [unit_paths]
  exact firstsOf_eraseDups _ _

theorem declaredMembers_nonempty_iff :
    ((Workspace.mk (pathOf root)).declaredMembers host).isEmpty = false ↔
      ∃ path, Remains host root path := by
  rw [Bool.eq_false_iff, Ne, declaredMembers_isEmpty_iff, not_forall_not]

theorem sequence_members (host : Host) (root : Location) (settings : Settings) :
    Sequence host root settings
      ((Workspace.mk (pathOf root)).members host settings ++ [pathOf root]) := by
  rw [members]
  split
  · rename_i empty
    exact .grouped (declaredMembers_isEmpty_iff.mp empty) (grouped_groupedMembers host root settings)
  · rename_i some'
    rw [declaredMembers_eq_declared]
    exact .declared (declaredMembers_nonempty_iff.mp (Bool.eq_false_iff.mpr some'))

theorem mem_units {unit : BuildUnit} {workspace : Workspace}
    (member : unit ∈ workspace.units host settings) :
    unit.configuration = unit.path.join ⟨settings.configurationFile⟩
      ∧ host.isFileAt unit.configuration = true := by
  have holds := (mem_unit_paths_iff.mp (List.mem_map_of_mem (f := BuildUnit.path) member)).2
  obtain ⟨path, -, rfl⟩ := List.mem_map.mp member
  have joined : (workspace.loadUnit host settings path).configuration
      = (workspace.loadUnit host settings path).path.join ⟨settings.configurationFile⟩ := by
    rw [loadUnit]
    split <;> rfl
  exact ⟨joined, joined ▸ holds⟩

/-- The units of a workspace are the directories with a build configuration of what is looked at, each
once and in the order of the first places. The root is looked at last, so that it is a unit exactly if
it has a build configuration. -/
theorem units_in_sequence (host : Host) (root : Location) (settings : Settings)
    (plain : PlainPlace root) :
    let workspace := Workspace.mk (pathOf root)
    let found := (workspace.units host settings).map BuildUnit.path
    (∃ sequence, Sequence host root settings sequence
      ∧ FirstsOf (holdsConfiguration host settings) (sequence.map Path.normalize) found)
    ∧ (∀ unit ∈ workspace.units host settings,
      unit.configuration = unit.path.join ⟨settings.configurationFile⟩
        ∧ host.isFileAt unit.configuration = true)
    ∧ (pathOf root ∈ found ↔ holdsConfiguration host settings (pathOf root) = true) := by
  refine ⟨⟨_, sequence_members host root settings, unit_paths_members host root settings⟩,
    fun unit member => mem_units member, ?_⟩
  rw [mem_unit_paths_iff, mem_candidates_iff]
  exact and_iff_right (.inr (normalize_pathOf plain).symm)

section Left

variable (left : ∃ path, Remains host root path)

include left

/-- Where a member is left, a path is that of a unit if it is one that is left or the root's, and has
a build configuration. -/
theorem mem_declared_units_iff (settings : Settings) (plain : PlainPlace root) (path : Path) :
    path ∈ ((Workspace.mk (pathOf root)).units host settings).map BuildUnit.path ↔
      (Remains host root path ∨ path = pathOf root) ∧ holdsConfiguration host settings path = true := by
  have declared : (∃ member ∈ (Workspace.mk (pathOf root)).members host settings,
      member.normalize = path) ↔ Remains host root path := by
    rw [members, declaredMembers_nonempty_iff.mpr left]
    simp only [Bool.false_eq_true, if_false, mem_declaredMembers_iff]
    constructor
    · rintro ⟨member, remains, rfl⟩
      rwa [remains.1.normal]
    · intro remains
      exact ⟨path, remains, remains.1.normal⟩
  rw [mem_unit_paths_iff, mem_candidates_iff, declared, normalize_pathOf plain, holdsConfiguration]

theorem units_without_groups (settings : Settings) (groups : List String) :
    (Workspace.mk (pathOf root)).units host { settings with fallbackDirectories := groups }
      = (Workspace.mk (pathOf root)).units host settings := by
  have same : (Workspace.mk (pathOf root)).candidates host
        { settings with fallbackDirectories := groups }
      = (Workspace.mk (pathOf root)).candidates host settings := by
    simp only [candidates, declaredMembers_nonempty_iff.mpr left, Bool.false_eq_true, if_false]
  simp only [units, same]
  rfl

/-- Where the members that are left have no build configuration, the root is left alone. -/
theorem unit_paths_root (plain : PlainPlace root)
    (without : ∀ path, Remains host root path → holdsConfiguration host settings path = false) :
    ((Workspace.mk (pathOf root)).units host settings).map BuildUnit.path
      = if holdsConfiguration host settings (pathOf root) then [pathOf root] else [] := by
  have only (path : Path) :
      path ∈ ((Workspace.mk (pathOf root)).units host settings).map BuildUnit.path ↔
        path = pathOf root ∧ holdsConfiguration host settings path = true := by
    rw [mem_declared_units_iff left settings plain]
    refine and_congr_left fun holds => or_iff_right fun remains => ?_
    exact absurd (holds.symm.trans (without path remains)) (by decide)
  have once := unit_paths_once (Workspace.mk (pathOf root)) host settings
  split
  · rename_i holds
    refine List.perm_singleton.mp ((List.perm_ext_iff_of_nodup once (List.nodup_singleton _)).mpr ?_)
    intro path
    rw [only, List.mem_singleton]
    exact and_iff_left_of_imp fun same => same ▸ holds
  · rename_i lacks
    refine List.eq_nil_iff_forall_not_mem.mpr fun path member => ?_
    obtain ⟨rfl, holds⟩ := (only path).mp member
    exact lacks holds

end Left

/-- The grouping directories are looked through if no member is left, with or without a build
configuration. Where one is left they bring in nothing, and where no such member has a build
configuration, that leaves the root alone. -/
theorem groups_searched (host : Host) (root : Location) (settings : Settings)
    (plain : PlainPlace root) :
    let workspace := Workspace.mk (pathOf root)
    let found := (workspace.units host settings).map BuildUnit.path
    ((∀ path, ¬ Remains host root path) →
      ∃ directories, Grouped host root settings directories
        ∧ FirstsOf (holdsConfiguration host settings)
          ((directories ++ [pathOf root]).map Path.normalize) found)
    ∧ ((∃ path, Remains host root path) →
      (∀ groups, workspace.units host { settings with fallbackDirectories := groups }
          = workspace.units host settings)
        ∧ (∀ path, path ∈ found ↔ (Remains host root path ∨ path = pathOf root)
          ∧ holdsConfiguration host settings path = true)
        ∧ ((∀ path, Remains host root path → holdsConfiguration host settings path = false) →
          found = if holdsConfiguration host settings (pathOf root) then [pathOf root] else [])) := by
  intro workspace found
  constructor
  · intro none'
    refine ⟨_, grouped_groupedMembers host root settings, ?_⟩
    have firsts := unit_paths_members host root settings
    rwa [members, if_pos (declaredMembers_isEmpty_iff.mpr none')] at firsts
  · intro left
    exact ⟨units_without_groups left settings, mem_declared_units_iff left settings plain,
      unit_paths_root left plain⟩

end Sequence

namespace Sample

/-- A manifest whose patterns overlap. -/
def overlapping : Host :=
  declaring "\x7b\"workspaces\": [\"packages/b\", \"apps/?\", \"./packages/b/\"]\x7d"

/-- A workspace whose manifest declares a directory without a build configuration. The one with a
build configuration stands in a grouping directory. -/
def docsOnly : Host where
  files := ⟨[(["work"], .directory),
    (["work", "package.json"], .file "\x7b\"workspaces\": [\"docs\"]\x7d".toUTF8 ⟨5, 0⟩),
    (["work", "docs"], .directory), (["work", "packages"], .directory),
    (["work", "packages", "a"], .directory), (["work", "packages", "a", "tsconfig.json"], marked)]⟩
  now := ⟨10, 0⟩

theorem overlap_found_once :
    PlainPlace ["work"]
      ∧ (∃ sequence, Sequence overlapping ["work"] Settings.default sequence
        ∧ FirstsOf (holdsConfiguration overlapping Settings.default) (sequence.map Path.normalize)
          [pathOf ["work", "packages", "b"], pathOf ["work", "apps", "a"]])
      ∧ holdsConfiguration overlapping Settings.default (pathOf ["work"]) = false := by
  have plain : PlainPlace ["work"] := by decide
  have found : ((Workspace.mk (pathOf ["work"])).units overlapping Settings.default).map BuildUnit.path
      = [pathOf ["work", "packages", "b"], pathOf ["work", "apps", "a"]] := by decide +kernel
  obtain ⟨inSequence, -, own⟩ := units_in_sequence overlapping ["work"] Settings.default plain
  rw [found] at inSequence own
  exact ⟨plain, inSequence, Bool.eq_false_iff.mpr fun holds => absurd (own.mpr holds) (by decide)⟩

theorem docs_seen :
    Remains docsOnly ["work"] (pathOf ["work", "docs"])
      ∧ (Workspace.mk (pathOf ["work"])).declaredMembers docsOnly = [pathOf ["work", "docs"]]
      ∧ holdsConfiguration docsOnly Settings.default (pathOf ["work", "docs"]) = false
      ∧ docsOnly.isDirectoryAt ((pathOf ["work"]).join ⟨"packages"⟩) = true
      ∧ docsOnly.isDirectoryAt (((pathOf ["work"]).join ⟨"packages"⟩).join ⟨"a"⟩) = true := by
  decide +kernel

theorem docs_remain : Remains docsOnly ["work"] (pathOf ["work", "docs"]) := docs_seen.1

theorem docs_unmarked {path : Path} (remains : Remains docsOnly ["work"] path) :
    holdsConfiguration docsOnly Settings.default path = false := by
  obtain ⟨-, declared, unmarked, -⟩ := docs_seen
  have alone : path = pathOf ["work", "docs"] :=
    List.mem_singleton.mp (declared ▸ mem_declaredMembers_iff.mpr remains)
  rw [alone, unmarked]

theorem package_inside : Inside docsOnly ((pathOf ["work"]).join ⟨"packages"⟩) "a" where
  listed := ⟨["work", "packages"], by rfl, by decide⟩
  grouping := docs_seen.2.2.2.1
  directory := docs_seen.2.2.2.2

/-- No grouping directory can bring in a unit here. -/
theorem docs_keep_groups_out :
    PlainPlace ["work"] ∧ ∀ groups, (Workspace.mk (pathOf ["work"])).units docsOnly
      { Settings.default with fallbackDirectories := groups } = [] := by
  have plain : PlainPlace ["work"] := by decide
  obtain ⟨-, left⟩ := groups_searched docsOnly ["work"] Settings.default plain
  obtain ⟨same, -, rootAlone⟩ := left ⟨_, docs_remain⟩
  have none' := rootAlone fun path => docs_unmarked
  refine ⟨plain, fun groups => (same groups).trans (List.map_eq_nil_iff.mp (none'.trans ?_))⟩
  decide +kernel

/-- No member with a build configuration is left, and yet the unit in the grouping directory is not
found. -/
theorem docs_hide_package :
    (∀ path, Remains docsOnly ["work"] path → holdsConfiguration docsOnly Settings.default path = false)
      ∧ ¬ ∃ directories, Grouped docsOnly ["work"] Settings.default directories
        ∧ FirstsOf (holdsConfiguration docsOnly Settings.default)
          ((directories ++ [pathOf ["work"]]).map Path.normalize)
          (((Workspace.mk (pathOf ["work"])).units docsOnly Settings.default).map BuildUnit.path) := by
  refine ⟨fun path => docs_unmarked, ?_⟩
  rintro ⟨directories, grouped, firsts⟩
  have nothing : (Workspace.mk (pathOf ["work"])).units docsOnly Settings.default = [] := by
    decide +kernel
  have listed := grouped.mem (by decide) package_inside
  have package := (firsts.mem_iff _).mpr
    ⟨List.mem_map_of_mem (List.mem_append_left _ listed), by decide +kernel⟩
  rw [nothing] at package
  cases package

end Sample

end Workspace

end MonorepoCheck
