import MonorepoCheck.CommandLine.Request
import MonorepoCheck.Text.Lines

/-!
What the program says about itself.
-/
namespace MonorepoCheck.CommandLine

def programName : String := "diagsweep"

def version : String := "0.1.0"

def versionText : String := programName ++ " " ++ version ++ "\n"

/-- Told where the words are not understood. -/
def misuseText : String :=
  "error: the command line is not understood\n\nFor more information, try '--help'."

/-- A line of a table of two columns; the second starts after `width` characters of the first. -/
def tableRow (width : Nat) (entry : String × String) : String :=
  "  " ++ entry.1 ++ String.ofList (List.replicate (width - entry.1.length) ' ') ++ "  " ++ entry.2

/-- Columns as wide as their widest entry. -/
def table (entries : List (String × String)) : List String :=
  let width := (entries.map fun entry => entry.1.length).foldl max 0
  entries.map (tableRow width)

def verboseHelp : String × String := ("-v, --verbose...", "More log output (-v debug, -vv trace)")

def quietHelp : String × String := ("-q, --quiet", "Only log warnings and errors")

def helpHelp : String × String := ("-h, --help", "Print help")

def programHelp : List String :=
  ["Collect, fix and report compiler diagnostics across a monorepo", "",
   "Usage: diagsweep [OPTIONS] <COMMAND>", "", "Commands:"]
  ++ table
    [("scan", "Scan every build unit in a workspace"),
     ("config", "Generate a documented configuration file"),
     ("help", "Print this message or the help of the given subcommand(s)")]
  ++ ["", "Options:"]
  ++ table [verboseHelp, quietHelp, helpHelp, ("-V, --version", "Print version")]

def scanHelp : List String :=
  ["Scan every build unit in a workspace", "", "Usage: diagsweep scan [OPTIONS]", "", "Options:"]
  ++ table
    [("-r, --root <ROOT>", "Workspace root [default: .]"),
     verboseHelp,
     ("-c, --config <CONFIG>", "Configuration file (defaults to <root>/diagsweep.toml)"),
     quietHelp,
     ("    --fix <REMEDIATION>",
      "Automated remediation to apply [default: none] [possible values: none, shallow, deep]"),
     ("    --codes <CODES>", "Only count diagnostics with these codes (comma separated)"),
     ("    --files <FILES>",
      "Only count diagnostics in matching files (substring or glob, comma separated)"),
     ("-f, --format <FORMAT>",
      "Report format [default: text] [possible values: text, json, markdown, html]"),
     ("-o, --output <OUTPUT>", "Write the report here instead of stdout"),
     ("    --parallel", "Scan units concurrently (default unless disabled in config)"),
     ("    --sequential", "Scan one unit at a time"),
     ("    --dry-run", "Report what remediation would run without running it"),
     ("    --no-cache",
      "Rescan every unit instead of reusing cached reports (fresh reports are still cached)"),
     ("    --max-workers <MAX_WORKERS>", "Upper bound on concurrently scanned units"),
     ("    --no-snippets", "Do not attach source snippets to diagnostics"),
     ("    --suggest-ai", "Ask the configured language model for extra fix suggestions"),
     helpHelp]

def configHelp : List String :=
  ["Generate a documented configuration file", "", "Usage: diagsweep config [OPTIONS]", "",
   "Options:"]
  ++ table
    [("-o, --output <OUTPUT>", "Output path for the config file [default: diagsweep.toml]"),
     verboseHelp, quietHelp, helpHelp]

def helpHelpText : List String :=
  ["Print this message or the help of the given subcommand(s)", "",
   "Usage: diagsweep help [COMMAND]...", "", "Arguments:"]
  ++ table
    [("[COMMAND]...", "Print help for the subcommand(s)")]

def helpText : Topic → String
  | .program => Text.unlines programHelp
  | .scan => Text.unlines scanHelp
  | .config => Text.unlines configHelp
  | .help => Text.unlines helpHelpText

end MonorepoCheck.CommandLine
