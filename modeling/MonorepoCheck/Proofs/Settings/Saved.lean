import MonorepoCheck.Proofs.Cache.Store
import MonorepoCheck.Proofs.Toml.Documents
import MonorepoCheck.Settings.Load

/-!
Settings that were saved are loaded again as they were: what is absent stays absent, and what is
empty stays empty.
-/
namespace MonorepoCheck.Settings

open Toml

section Records

theorem texts?_value (texts : List String) : texts? (.array (texts.map .string)) = some texts := by
  have each : (texts.map Toml.string).mapM text? = some texts := by
    induction texts with
    | nil => rfl
    | cons text texts ih =>
        rw [List.map_cons, List.mapM_cons, ih]
        rfl
  exact each

variable (form : TableForm)

theorem ofToml?_command (title : Option String) (command : Command) :
    Command.ofToml? (.table form (Section.values ⟨title, commandFields command⟩))
      = some command := by
  simp [Command.ofToml?, fields?, Section.values, commandFields, lookup, required, Field.value,
    text?, texts?_value]

theorem checker?_section (checker : CheckerSettings) :
    checker? (.table form (checkerSection checker).values) = some checker := by
  simp [checker?, fields?, Section.values, checkerSection, commandFields, lookup, orElse,
    Field.value, text?, count?, texts?_value]

/-- The tables of the commands of a fix stand behind its own values. -/
def remedyMembers (remedy : RemedySettings) : Members :=
  (remedySection remedy).values
    ++ [("shallow", .table .declared
      (Section.values ⟨some "remediation.shallow", commandFields remedy.shallow⟩))]
    ++ [("deep", .table .declared
      (Section.values ⟨some "remediation.deep", commandFields remedy.deep⟩))]

theorem remedy?_members (remedy : RemedySettings) :
    remedy? (.table form (remedyMembers remedy)) = some remedy := by
  have shallow := ofToml?_command .declared (some "remediation.shallow") remedy.shallow
  have deep := ofToml?_command .declared (some "remediation.deep") remedy.deep
  unfold remedyMembers
  -- the tables of the commands are named, so that looking up a key does not look into them
  generalize Section.values ⟨some "remediation.shallow", commandFields remedy.shallow⟩ = first
    at shallow ⊢
  generalize Section.values ⟨some "remediation.deep", commandFields remedy.deep⟩ = second at deep ⊢
  simp [remedy?, fields?, Section.values, remedySection, lookup, orElse, Field.value, bool?, count?,
    shallow, deep]

theorem cache?_section (cache : CacheSettings) :
    cache? (.table form (cacheSection cache).values) = some cache := by
  obtain ⟨enabled, reuse, directory⟩ := cache
  cases directory <;>
    simp [cache?, fields?, Section.values, cacheSection, fieldIfSome, lookup, orElse,
      Toml.optional, Field.value, text?, bool?]

theorem execution?_section (execution : ExecutionSettings) :
    execution? (.table form (executionSection execution).values) = some execution := by
  obtain ⟨parallel, maxWorkers⟩ := execution
  cases maxWorkers <;>
    simp [execution?, fields?, Section.values, executionSection, fieldIfSome, lookup, orElse,
      Toml.optional, Field.value, count?, bool?]

theorem constant?_name (provider : Provider) :
    constant? Provider.ofName? (.string provider.name) = some provider := by
  cases provider <;> rfl

/-- The usual temperature is written with a point, and its digits give it back. -/
theorem positional_default :
    Positional defaultAdvice.temperature 0 "10000000149011612".toList := by
  decide +kernel

theorem single?_default :
    single? (.float (Binary.double.convert defaultAdvice.temperature))
      = some defaultAdvice.temperature := by
  decide +kernel

theorem advice?_section {advice : AdviceSettings}
    (usual : advice.temperature = defaultAdvice.temperature) :
    advice? (.table form (adviceSection advice).values) = some advice := by
  obtain ⟨enabled, provider, apiKey, baseUrl, model, maxTokens, temperature, timeout, most⟩ :=
    advice
  obtain rfl : temperature = defaultAdvice.temperature := usual
  have name := constant?_name provider
  have single := single?_default
  cases apiKey <;> cases baseUrl <;>
    simp [advice?, adviceKeys, fields?, Section.values, adviceSection, fieldIfSome, lookup, orElse,
      Toml.optional, Field.value, text?, count?, bool?, name, single]

end Records

section Reading

variable {settings : Settings}

/-- The counts that settings hold. -/
def counts (settings : Settings) : List Nat :=
  [settings.snippetContext, settings.checker.timeoutSeconds, settings.remedy.timeoutSeconds]
    ++ settings.execution.maxWorkers.toList
    ++ [settings.advice.maxTokens, settings.advice.timeoutSeconds, settings.advice.maxSuggestions]

/-- Settings that a document can hold: signed words of 64 bits have room for the counts, and the
temperature is the usual one. -/
structure Storable (settings : Settings) : Prop where
  counts : ∀ count ∈ settings.counts, count ≤ Nat.pow 2 63 - 1
  temperature : settings.advice.temperature = defaultAdvice.temperature

instance : Decidable settings.Storable :=
  decidable_of_iff
    ((∀ count ∈ settings.counts, count ≤ Nat.pow 2 63 - 1)
      ∧ settings.advice.temperature = defaultAdvice.temperature)
    ⟨fun ⟨counts, temperature⟩ => ⟨counts, temperature⟩,
      fun ⟨counts, temperature⟩ => ⟨counts, temperature⟩⟩

theorem Storable.below (storable : settings.Storable) (count : Nat)
    (member : count ∈ settings.counts) : count < Nat.pow 2 63 := by
  have := storable.counts count member
  have positive : 0 < Nat.pow 2 63 := by decide
  omega

/-- Whether a header and the keys under it can be told apart and written without quotes. -/
def Legible (title : Option String) (keys : List String) : Prop :=
  (∀ name ∈ (Section.mk title []).names, IsBare name)
    ∧ (Section.mk title []).names.length < depthLimit
    ∧ (∀ key ∈ keys, IsBare key.toList) ∧ keys.Nodup

instance {title : Option String} {keys : List String} : Decidable (Legible title keys) :=
  inferInstanceAs (Decidable (_ ∧ _ ∧ _ ∧ _))

/-- A section that has some of the keys it may have. -/
theorem readable_of_legible {title : Option String} {keys : List String}
    {fields : List (String × Field)} (legible : Legible title keys)
    (among : (fields.map Prod.fst).Sublist keys)
    (readable : ∀ entry ∈ fields, entry.2.Readable) : (Section.mk title fields).Readable where
  names := legible.1
  short := legible.2.1
  keys := fun entry member =>
    legible.2.2.1 entry.1 (among.subset (List.mem_map_of_mem member))
  distinct := legible.2.2.2.sublist among
  fields := readable

theorem readable_general (storable : settings.Storable) : (generalSection settings).Readable := by
  have context := storable.below settings.snippetContext (by simp [counts])
  refine readable_of_legible
    (show Legible none ["build_config_file", "fallback_dirs", "ignore_dirs", "source_extensions",
      "attach_snippets", "snippet_context_lines", "attach_suggestions"] by decide)
    (List.Sublist.refl _) ?_
  simp [Field.Readable, context]

theorem readable_checker (storable : settings.Storable) :
    (checkerSection settings.checker).Readable := by
  have timeout := storable.below settings.checker.timeoutSeconds (by simp [counts])
  refine readable_of_legible
    (show Legible (some "checker") ["program", "args", "timeout_seconds"] by decide)
    (List.Sublist.refl _) ?_
  simp [commandFields, Field.Readable, timeout]

theorem readable_remedy (storable : settings.Storable) :
    (remedySection settings.remedy).Readable := by
  have timeout := storable.below settings.remedy.timeoutSeconds (by simp [counts])
  refine readable_of_legible
    (show Legible (some "remediation") ["timeout_seconds", "rescan_after_fix"] by decide)
    (List.Sublist.refl _) ?_
  simp [Field.Readable, timeout]

theorem readable_command {title : String} (legible : Legible (some title) ["program", "args"])
    (command : Command) : (Section.mk (some title) (commandFields command)).Readable := by
  refine readable_of_legible legible (List.Sublist.refl _) ?_
  simp [commandFields, Field.Readable]

theorem readable_cache (cache : CacheSettings) : (cacheSection cache).Readable := by
  refine readable_of_legible
    (show Legible (some "cache") ["enabled", "reuse", "directory"] by decide) ?_ ?_
  · cases cache.directory <;> simp [fieldIfSome]
  · cases cache.directory <;> simp [fieldIfSome, Field.Readable]

theorem readable_execution (storable : settings.Storable) :
    (executionSection settings.execution).Readable := by
  refine readable_of_legible
    (show Legible (some "execution") ["parallel", "max_workers"] by decide) ?_ ?_
  · cases settings.execution.maxWorkers <;> simp [fieldIfSome]
  · cases workers : settings.execution.maxWorkers with
    | none => simp [fieldIfSome, Field.Readable]
    | some count =>
        have := storable.below count (by simp [counts, workers])
        simp [fieldIfSome, Field.Readable, this]

theorem readable_advice (storable : settings.Storable) :
    (adviceSection settings.advice).Readable := by
  have tokens := storable.below settings.advice.maxTokens (by simp [counts])
  have timeout := storable.below settings.advice.timeoutSeconds (by simp [counts])
  have most := storable.below settings.advice.maxSuggestions (by simp [counts])
  have temperature : (Field.float settings.advice.temperature).Readable :=
    ⟨_, _, storable.temperature ▸ positional_default⟩
  refine readable_of_legible (show Legible (some "llm") adviceKeys by decide) ?_ ?_
  · cases settings.advice.apiKey <;> cases settings.advice.baseUrl <;>
      simp [fieldIfSome, adviceKeys]
  · cases settings.advice.apiKey <;> cases settings.advice.baseUrl <;>
      simp_all [fieldIfSome, Field.Readable]

theorem readable_sections (storable : settings.Storable) :
    ∀ part ∈ settings.sections, part.Readable := by
  simp only [sections, List.forall_mem_cons]
  exact ⟨readable_general storable, readable_checker storable, readable_remedy storable,
    readable_command (by decide) _, readable_command (by decide) _, readable_cache _,
    readable_execution storable, readable_advice storable, List.forall_mem_nil _⟩

/-- What the table of the document holds. -/
def members (settings : Settings) : Members :=
  (generalSection settings).values
    ++ [("checker", .table .declared (checkerSection settings.checker).values)]
    ++ [("remediation", .table .declared (remedyMembers settings.remedy))]
    ++ [("cache", .table .declared (cacheSection settings.cache).values)]
    ++ [("execution", .table .declared (executionSection settings.execution).values)]
    ++ [("llm", .table .declared (adviceSection settings.advice).values)]

theorem builds_sections (storable : settings.Storable) :
    Builds settings.sections ⟨[], []⟩ ⟨settings.members, ["llm"]⟩ := by
  have remedyFree : lookup "remediation" ((generalSection settings).values
      ++ [("checker", .table .declared (checkerSection settings.checker).values)]) = none := by
    simp [lookup, Section.values, generalSection]
  -- the headers of the commands lead into the table of the fix, all others to the document itself
  have inside := around_root.inside remedyFree
  rw [sections]
  refine .cons (Section.build_root rfl (readable_general storable)) ?_
  refine .cons (Section.build _ around_root rfl "checker" (by decide) ?_
    (readable_checker storable)) ?_
  · simp [lookup, Section.values, generalSection]
  refine .cons (Section.build _ around_root rfl "remediation" (by decide) remedyFree
    (readable_remedy storable)) ?_
  refine .cons (Section.build _ inside rfl "shallow" (by decide) ?_
    (readable_command (by decide) _)) ?_
  · simp [lookup, Section.values, remedySection]
  refine .cons (Section.build _ inside rfl "deep" (by decide) ?_
    (readable_command (by decide) _)) ?_
  · simp [lookup, Section.values, remedySection]
  refine .cons (Section.build _ around_root rfl "cache" (by decide) ?_ (readable_cache _)) ?_
  · simp [lookup, Section.values, generalSection]
  refine .cons (Section.build _ around_root rfl "execution" (by decide) ?_
    (readable_execution storable)) ?_
  · simp [lookup, Section.values, generalSection]
  refine .cons (Section.build _ around_root rfl "llm" (by decide) ?_ (readable_advice storable))
    .none
  simp [lookup, Section.values, generalSection]

theorem ofToml?_members (storable : settings.Storable) :
    ofToml? (.table .declared settings.members) = some settings := by
  have checker := checker?_section .declared settings.checker
  have remedy := remedy?_members .declared settings.remedy
  have cache := cache?_section .declared settings.cache
  have execution := execution?_section .declared settings.execution
  have advice := advice?_section .declared storable.temperature
  unfold members
  generalize (checkerSection settings.checker).values = first at checker ⊢
  generalize remedyMembers settings.remedy = second at remedy ⊢
  generalize (cacheSection settings.cache).values = third at cache ⊢
  generalize (executionSection settings.execution).values = fourth at execution ⊢
  generalize (adviceSection settings.advice).values = fifth at advice ⊢
  simp [ofToml?, keys, fields?, Section.values, generalSection, lookup, orElse, Field.value, text?,
    bool?, count?, texts?_value, checker, remedy, cache, execution, advice]

/-- Settings are read back from their document. -/
theorem read?_document (storable : settings.Storable) :
    read? settings.document = some settings := by
  have noMark : (print settings.sections).head? ≠ some '\ufeff' := by
    show some 'b' ≠ some '\ufeff'
    decide
  have built : ofStatements (settings.sections.flatMap Section.statements)
      = some (.table .declared settings.members) := by
    rw [ofStatements, builds_sections storable]
    rfl
  rw [read?, document, String.toList_ofList, parse?_print (readable_sections storable) noMark,
    built]
  exact ofToml?_members storable

end Reading

section Files

open FileTree

variable {settings : Settings} {host later : Host} {path : Path} {text : String}

theorem writeText_open (wrote : host.writeText path text = .ok later) :
    endsInSeparator path = false := by
  obtain ⟨files, wrote, _⟩ := bind_ok wrote
  obtain ⟨place, _, wrote⟩ := bind_ok wrote
  cases ends : endsInSeparator path with
  | false => rfl
  | true =>
      simp only [ends, if_true] at wrote
      split at wrote
      · cases wrote
      · cases wrote
      · split at wrote <;> cases wrote

/-- What was written to a file is read from it. -/
theorem readText_written (wrote : host.writeText path text = .ok later) :
    later.readText path = .ok text := by
  obtain ⟨files, written, _⟩ := bind_ok wrote
  obtain ⟨only, free, put⟩ := CacheStore.writeText_ok wrote
  have some' := nonempty_of_entry free
  have leads := locate_later (keepsDirectories_put (.file text.toUTF8 host.now) some'
    fun directory => absurd directory free) (writeBytes_ok written).1
  have read := readText_located leads (writeText_open wrote)
  rw [fileAt_put_file some', if_pos rfl, Option.bind_some, CacheStore.fromUTF8?_toUTF8,
    ← put] at read
  rw [Host.readText, only.here]
  exact ok_of_toOption read

/-- Whether no variable that may hold a key is set. -/
def Keyless (host : Host) : Prop :=
  ∀ (provider : Provider) name, provider.keyVariable? = some name → host.valueOf? name = none

theorem withEnvironment_keyless (keyless : Keyless host) :
    settings.withEnvironment host = settings := by
  rw [withEnvironment]
  split
  case h_1 => rfl
  case h_2 absent =>
    have none' : settings.advice.provider.keyVariable?.bind host.valueOf? = none := by
      cases variable' : settings.advice.provider.keyVariable? with
      | none => rfl
      | some name => exact keyless _ name variable'
    dsimp only
    rw [none', ← absent]

/-- A save that succeeds wrote the document, and changed nothing of the machine but its files. -/
theorem save_ok (saved : settings.save host path = .ok later) :
    CacheStore.OnlyFiles host later ∧ later.readText path = .ok settings.document := by
  rw [save] at saved
  split at saved
  case h_1 parent _ =>
    obtain ⟨between, made, wrote⟩ := bind_ok saved
    exact ⟨(CacheStore.makeDirectories_ok made).1.trans (CacheStore.writeText_ok wrote).1,
      readText_written wrote⟩
  case h_2 => exact ⟨(CacheStore.writeText_ok saved).1, readText_written saved⟩

/-- Settings survive being saved. Their document is read back as the settings it was written for,
whatever texts and lists they hold and whichever of their options are absent. A file they were saved
to holds that document, and where no key is in the environment they are loaded from it as they
were. -/
theorem saved_survive (storable : settings.Storable) :
    read? settings.document = some settings
      ∧ ∀ host later path, settings.save host path = .ok later →
        later.readText path = .ok settings.document
          ∧ (Keyless host → load later path = .ok settings) := by
  have back := read?_document storable
  refine ⟨back, fun host later path saved => ?_⟩
  obtain ⟨only, written⟩ := save_ok saved
  refine ⟨written, fun keyless => ?_⟩
  have still : Keyless later := by
    rw [show later = { host with files := later.files } from only]
    exact keyless
  rw [load, written]
  simp only [back, withEnvironment_keyless still]

end Files

/-! Texts with every kind of quotes, lists with nothing or only an empty text in them, and an option
that is absent. -/
namespace Awkward

def settings : Settings :=
  { default with
    configurationFile := "\"\"\"\"'''\\\n\t"
    fallbackDirectories := []
    ignoredDirectories := [""]
    sourceExtensions := ["'", "\"", "\\", "\r\n", "\x7f", "é"]
    cache := ⟨true, false, some ⟨""⟩⟩
    execution := ⟨false, some 9223372036854775807⟩
    advice := { defaultAdvice with baseUrl := some "\n" } }

def host : Host := { files := .empty, now := ⟨0, 0⟩ }

def path : Path := ⟨"/w/diagsweep.toml"⟩

theorem storable : settings.Storable := by decide +kernel

theorem keyless : Keyless host := fun _ _ _ => rfl

theorem saves : ∃ later, settings.save host path = .ok later := by
  have saved : (settings.save host path).toOption.isSome = true := by decide +kernel
  obtain ⟨later, found⟩ := Option.isSome_iff_exists.mp saved
  exact ⟨later, FileTree.ok_of_toOption found⟩

end Awkward

open Awkward in
theorem saved_survive_awkward :
    Awkward.settings.Storable ∧ Keyless host
      ∧ ∃ later, Awkward.settings.save host path = .ok later
        ∧ load later path = .ok Awkward.settings := by
  obtain ⟨later, saved⟩ := saves
  exact ⟨storable, keyless, later, saved,
    ((saved_survive storable).2 host later path saved).2 keyless⟩

end MonorepoCheck.Settings
