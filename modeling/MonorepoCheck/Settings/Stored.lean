import MonorepoCheck.Settings.Basic
import MonorepoCheck.Toml.Fields
import MonorepoCheck.Toml.Printer
import MonorepoCheck.Toml.Reader

/-!
Settings as a TOML document. What a document leaves out has its default, except that a command has
to name both its program and its arguments.
-/
namespace MonorepoCheck

open Toml in
/-- A command written as a table of its own. -/
def Command.ofToml? (value : Toml) : Option Command := do
  match ← value.fields? ["program", "args"] with
  | [program, arguments] =>
    pure ⟨← required text? program, ← required texts? arguments⟩
  | _ => none

namespace Settings

open Toml

def checker? (value : Toml) : Option CheckerSettings := do
  let absent := defaultChecker
  match ← value.fields? ["program", "args", "timeout_seconds"] with
  | [program, arguments, timeout] =>
    pure {
      command := ⟨← orElse absent.command.program text? program,
        ← orElse absent.command.arguments texts? arguments⟩
      timeoutSeconds := ← orElse absent.timeoutSeconds count? timeout }
  | _ => none

def remedy? (value : Toml) : Option RemedySettings := do
  let absent := defaultRemedy
  match ← value.fields? ["shallow", "deep", "timeout_seconds", "rescan_after_fix"] with
  | [shallow, deep, timeout, rescan] =>
    pure {
      shallow := ← orElse absent.shallow Command.ofToml? shallow
      deep := ← orElse absent.deep Command.ofToml? deep
      timeoutSeconds := ← orElse absent.timeoutSeconds count? timeout
      rescan := ← orElse absent.rescan bool? rescan }
  | _ => none

def cache? (value : Toml) : Option CacheSettings := do
  let absent := defaultCache
  match ← value.fields? ["enabled", "reuse", "directory"] with
  | [enabled, reuse, directory] =>
    pure {
      enabled := ← orElse absent.enabled bool? enabled
      reuse := ← orElse absent.reuse bool? reuse
      directory := (← optional text? directory).map Path.mk }
  | _ => none

def execution? (value : Toml) : Option ExecutionSettings := do
  let absent := defaultExecution
  match ← value.fields? ["parallel", "max_workers"] with
  | [parallel, maxWorkers] =>
    pure {
      parallel := ← orElse absent.parallel bool? parallel
      maxWorkers := ← optional count? maxWorkers }
  | _ => none

def adviceKeys : List String :=
  ["enabled", "provider", "api_key", "base_url", "model", "max_tokens", "temperature",
   "timeout_seconds", "max_suggestions"]

def advice? (value : Toml) : Option AdviceSettings := do
  let absent := defaultAdvice
  match ← value.fields? adviceKeys with
  | [enabled, provider, apiKey, baseUrl, model, maxTokens, temperature, timeout, most] =>
    pure {
      enabled := ← orElse absent.enabled bool? enabled
      provider := ← orElse absent.provider (constant? Provider.ofName?) provider
      apiKey := ← optional text? apiKey
      baseUrl := ← optional text? baseUrl
      model := ← orElse absent.model text? model
      maxTokens := ← orElse absent.maxTokens count? maxTokens
      temperature := ← orElse absent.temperature single? temperature
      timeoutSeconds := ← orElse absent.timeoutSeconds count? timeout
      maxSuggestions := ← orElse absent.maxSuggestions count? most }
  | _ => none

def keys : List String :=
  ["build_config_file", "fallback_dirs", "ignore_dirs", "source_extensions", "attach_snippets",
   "snippet_context_lines", "attach_suggestions", "checker", "remediation", "cache", "execution",
   "llm"]

def ofToml? (value : Toml) : Option Settings := do
  let absent := default
  match ← value.fields? keys with
  | [file, fallback, ignored, extensions, snippets, context, hints, checker, remedy, cache,
      execution, advice] =>
    pure {
      configurationFile := ← orElse absent.configurationFile text? file
      fallbackDirectories := ← orElse absent.fallbackDirectories texts? fallback
      ignoredDirectories := ← orElse absent.ignoredDirectories texts? ignored
      sourceExtensions := ← orElse absent.sourceExtensions texts? extensions
      attachSnippets := ← orElse absent.attachSnippets bool? snippets
      snippetContext := ← orElse absent.snippetContext count? context
      attachHints := ← orElse absent.attachHints bool? hints
      checker := ← orElse absent.checker checker? checker
      remedy := ← orElse absent.remedy remedy? remedy
      cache := ← orElse absent.cache cache? cache
      execution := ← orElse absent.execution execution? execution
      advice := ← orElse absent.advice advice? advice }
  | _ => none

/-- The settings that a document holds. -/
def read? (document : String) : Option Settings := do ofToml? (← Toml.parse? document.toList)

def fieldIfSome (key : String) (field : Option Field) : List (String × Field) :=
  match field with
  | some field => [(key, field)]
  | none => []

def commandFields (command : Command) : List (String × Field) :=
  [("program", .text command.program), ("args", .texts command.arguments)]

def generalSection (settings : Settings) : Section :=
  ⟨none,
    [("build_config_file", .text settings.configurationFile),
     ("fallback_dirs", .texts settings.fallbackDirectories),
     ("ignore_dirs", .texts settings.ignoredDirectories),
     ("source_extensions", .texts settings.sourceExtensions),
     ("attach_snippets", .bool settings.attachSnippets),
     ("snippet_context_lines", .count settings.snippetContext),
     ("attach_suggestions", .bool settings.attachHints)]⟩

def checkerSection (checker : CheckerSettings) : Section :=
  ⟨some "checker",
    commandFields checker.command ++ [("timeout_seconds", .count checker.timeoutSeconds)]⟩

def remedySection (remedy : RemedySettings) : Section :=
  ⟨some "remediation",
    [("timeout_seconds", .count remedy.timeoutSeconds), ("rescan_after_fix", .bool remedy.rescan)]⟩

def cacheSection (cache : CacheSettings) : Section :=
  ⟨some "cache",
    [("enabled", .bool cache.enabled), ("reuse", .bool cache.reuse)]
      ++ fieldIfSome "directory" (cache.directory.map fun path => .text path.text)⟩

def executionSection (execution : ExecutionSettings) : Section :=
  ⟨some "execution",
    ("parallel", .bool execution.parallel)
      :: fieldIfSome "max_workers" (execution.maxWorkers.map .count)⟩

def adviceSection (advice : AdviceSettings) : Section :=
  ⟨some "llm",
    [("enabled", .bool advice.enabled), ("provider", .text advice.provider.name)]
      ++ fieldIfSome "api_key" (advice.apiKey.map .text)
      ++ fieldIfSome "base_url" (advice.baseUrl.map .text)
      ++ [("model", .text advice.model),
          ("max_tokens", .count advice.maxTokens),
          ("temperature", .float advice.temperature),
          ("timeout_seconds", .count advice.timeoutSeconds),
          ("max_suggestions", .count advice.maxSuggestions)]⟩

/-- The tables of the document. The commands of a fix have tables of their own below its table. -/
def sections (settings : Settings) : List Section :=
  [generalSection settings,
   checkerSection settings.checker,
   remedySection settings.remedy,
   ⟨some "remediation.shallow", commandFields settings.remedy.shallow⟩,
   ⟨some "remediation.deep", commandFields settings.remedy.deep⟩,
   cacheSection settings.cache,
   executionSection settings.execution,
   adviceSection settings.advice]

/-- The document that holds the settings, absent ones left out. -/
def document (settings : Settings) : String := String.ofList (Toml.print settings.sections)

end Settings
end MonorepoCheck
