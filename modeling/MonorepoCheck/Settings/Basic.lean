import MonorepoCheck.Binary.Float
import MonorepoCheck.Command.Basic
import MonorepoCheck.Remedy.Level

/-!
Settings of a run: what marks a unit, how the checker and the fixes are called, where reports are
kept between runs, how many units are scanned at a time, and which language model gives advice.
-/
namespace MonorepoCheck

structure CheckerSettings where
  /-- in its arguments, the configuration placeholder stands for the unit's build configuration -/
  command : Command
  timeoutSeconds : Nat
  deriving DecidableEq, Repr, Inhabited

structure RemedySettings where
  shallow : Command
  deep : Command
  timeoutSeconds : Nat
  /-- whether the checker runs again after a fix, to count what is left -/
  rescan : Bool
  deriving DecidableEq, Repr, Inhabited

structure CacheSettings where
  enabled : Bool
  /-- whether kept reports stand in for scans; if not, they are still renewed -/
  reuse : Bool
  directory : Option Path
  deriving DecidableEq, Repr, Inhabited

structure ExecutionSettings where
  parallel : Bool
  maxWorkers : Option Nat
  deriving DecidableEq, Repr, Inhabited

/-- Who serves a language model. -/
inductive Provider where
  | openAI
  | ollama
  | anthropic
  deriving DecidableEq, Repr, Inhabited

namespace Provider

def name : Provider → String
  | openAI => "OpenAI"
  | ollama => "Ollama"
  | anthropic => "Anthropic"

def ofName? (text : String) : Option Provider :=
  [openAI, ollama, anthropic].find? fun provider => provider.name == text

/-- The environment variable that may hold the key. -/
def keyVariable? : Provider → Option String
  | openAI => some "OPENAI_API_KEY"
  | anthropic => some "ANTHROPIC_API_KEY"
  | ollama => none

end Provider

structure AdviceSettings where
  enabled : Bool
  provider : Provider
  apiKey : Option String
  baseUrl : Option String
  model : String
  maxTokens : Nat
  /-- in single precision -/
  temperature : Binary.Number
  timeoutSeconds : Nat
  /-- how many diagnostics of a run get advice at most -/
  maxSuggestions : Nat
  deriving DecidableEq, Repr, Inhabited

structure Settings where
  /-- the name of the file that marks a directory as a unit -/
  configurationFile : String
  /-- directories whose children may be units when the manifest names none -/
  fallbackDirectories : List String
  /-- directories in which no changed sources are looked for -/
  ignoredDirectories : List String
  /-- endings of files that the checker reads -/
  sourceExtensions : List String
  attachSnippets : Bool
  /-- lines shown before and after a reported line -/
  snippetContext : Nat
  attachHints : Bool
  checker : CheckerSettings
  remedy : RemedySettings
  cache : CacheSettings
  execution : ExecutionSettings
  advice : AdviceSettings
  deriving DecidableEq, Repr, Inhabited

namespace Settings

/-- The placeholder for a unit's build configuration in the arguments of the checker. -/
def configurationPlaceholder : String := "\x7bconfig\x7d"

def defaultChecker : CheckerSettings :=
  ⟨⟨"npx", ["tsc", "--noEmit", "--pretty", "false", "-p", configurationPlaceholder]⟩, 300⟩

def defaultRemedy : RemedySettings :=
  ⟨⟨"npx", ["eslint", ".", "--fix"]⟩, ⟨"npx", ["ts-migrate", "migrate", "."]⟩, 600, true⟩

def defaultCache : CacheSettings := ⟨true, true, none⟩

def defaultExecution : ExecutionSettings := ⟨true, none⟩

def defaultAdvice : AdviceSettings where
  enabled := false
  provider := .openAI
  apiKey := none
  baseUrl := none
  model := "gpt-4"
  maxTokens := 400
  temperature := Binary.single.round false 1 10
  timeoutSeconds := 60
  maxSuggestions := 20

def default : Settings where
  configurationFile := "tsconfig.json"
  fallbackDirectories := ["packages", "apps", "libs", "services"]
  ignoredDirectories :=
    ["node_modules", ".git", "dist", "build", "out", "coverage", ".next", ".turbo"]
  sourceExtensions := ["ts", "tsx", "mts", "cts", "js", "jsx", "json"]
  attachSnippets := true
  snippetContext := 2
  attachHints := true
  checker := defaultChecker
  remedy := defaultRemedy
  cache := defaultCache
  execution := defaultExecution
  advice := defaultAdvice

end Settings

/-- The command of a level; the level that fixes nothing has none. -/
def RemedySettings.command? (remedy : RemedySettings) : RemedyLevel → Option Command
  | .none => none
  | .shallow => some remedy.shallow
  | .deep => some remedy.deep

/-- The directory that reports are kept in, below the one for temporary files unless it is given. -/
def CacheSettings.resolvedDirectory (cache : CacheSettings) (temporary : Path) : Path :=
  cache.directory.getD (temporary.join ⟨"diagsweep-cache"⟩)

/-- The number of units scanned at a time, at least one. `available` is the number for which no
setting speaks. -/
def ExecutionSettings.workers (execution : ExecutionSettings) (available : Nat) : Nat :=
  max 1 (execution.maxWorkers.getD available)

end MonorepoCheck
