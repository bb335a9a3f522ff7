import MonorepoCheck.Text.Search

/-!
A document of settings with a remark on each, to start from.
-/
namespace MonorepoCheck.Settings

def documentedLines : List String :=
  ["# diagsweep configuration",
   "# Place this file at the workspace root as diagsweep.toml or pass --config.",
   "",
   "# File that marks a directory as a build unit",
   "build_config_file = \"tsconfig.json\"",
   "",
   "# Grouping directories scanned one level deep when package.json declares no workspaces",
   "fallback_dirs = [\"packages\", \"apps\", \"libs\", \"services\"]",
   "",
   "# Directories skipped when checking whether a unit changed since it was cached",
   "ignore_dirs = [\"node_modules\", \".git\", \"dist\", \"build\", \"out\", \"coverage\", \".next\", \".turbo\"]",
   "",
   "# Extensions whose modification time invalidates a cached unit",
   "source_extensions = [\"ts\", \"tsx\", \"mts\", \"cts\", \"js\", \"jsx\", \"json\"]",
   "",
   "# Attach the surrounding source lines to each diagnostic",
   "attach_snippets = true",
   "snippet_context_lines = 2",
   "",
   "# Attach generic remediation hints keyed on the diagnostic code",
   "attach_suggestions = true",
   "",
   "[checker]",
   "# \x7bconfig\x7d is replaced with the unit's build configuration path",
   "program = \"npx\"",
   "args = [\"tsc\", \"--noEmit\", \"--pretty\", \"false\", \"-p\", \"\x7bconfig\x7d\"]",
   "timeout_seconds = 300",
   "",
   "[remediation]",
   "timeout_seconds = 600",
   "# Re-run the checker after a fix and report the exact number of fixed diagnostics.",
   "# When false, a fixed share of the pre-fix count is assumed instead (deprecated).",
   "rescan_after_fix = true",
   "",
   "[remediation.shallow]",
   "program = \"npx\"",
   "args = [\"eslint\", \".\", \"--fix\"]",
   "",
   "[remediation.deep]",
   "program = \"npx\"",
   "args = [\"ts-migrate\", \"migrate\", \".\"]",
   "",
   "[cache]",
   "enabled = true",
   "# Set to false to rescan every unit while still refreshing the cache (same as --no-cache)",
   "reuse = true",
   "# directory = \"/tmp/diagsweep-cache\"",
   "",
   "[execution]",
   "parallel = true",
   "# max_workers = 4",
   "",
   "[llm]",
   "# Ask a language model for one extra fix suggestion per remaining diagnostic",
   "enabled = false",
   "",
   "# LLM Provider: \"OpenAI\", \"Ollama\", or \"Anthropic\"",
   "provider = \"OpenAI\"",
   "",
   "# API key for the provider (can also be set via environment variables)",
   "# OpenAI: OPENAI_API_KEY",
   "# Anthropic: ANTHROPIC_API_KEY",
   "# api_key = \"your-api-key-here\"",
   "",
   "# Base URL (mainly for Ollama local instances)",
   "# base_url = \"http://localhost:11434\"",
   "",
   "model = \"gpt-4\"",
   "max_tokens = 400",
   "temperature = 0.1",
   "timeout_seconds = 60",
   "max_suggestions = 20"]

/-- All settings at their defaults, each with a remark. -/
def documented : String :=
  String.ofList (documentedLines.flatMap fun line => line.toList ++ ['\n'])

end MonorepoCheck.Settings
