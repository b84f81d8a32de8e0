import ReturnPaths.CommandLine.Arguments

/-!
# What the command line tells about itself

* `helpText` : the usage with all options.
* `versionText` : the name and version of the program.
* `misuseText` : what is wrong with some arguments.
-/

namespace ReturnPaths.CommandLine

/-- The name and version of the program. -/
def versionText : String := "noret 0.1.0\n"

/-- One line on how the program is called. -/
def usageLine : String := "Usage: noret [OPTIONS] [PATHS]...\n"

/-- The options with what they do. -/
def optionLines : List (String × String) :=
  [("    --format <FORMAT>", "Output format: raw, json, table, github"),
   ("    --json", "Shorthand for --format json"),
   ("    --check <ID>", "Checks to run (can be specified multiple times). Overrides config file"),
   ("    --config <PATH>", "Path to config file (default: auto-detect .noret.toml)"),
   ("    --no-config", "Ignore config files"),
   ("    --debug-log <PATH>", "Write a detailed analysis log to this file"),
   ("-v, --verbose", "Show verbose output"),
   ("    --list-checks", "List available checks and exit"),
   ("-h, --help", "Print help"),
   ("-V, --version", "Print version")]

/-- An option and what it does, on a line. -/
def optionLine (option : String × String) : String :=
  let gap := String.ofList (List.replicate (22 - option.1.length) ' ')
  s!"  {option.1}{gap}  {option.2}\n"

/-- The usage. -/
def helpText : String :=
  "Detects execution paths that complete without returning a value\n\n" ++ usageLine
    ++ "\nArguments:\n  [PATHS]...  Flow unit files or directories containing them\n"
    ++ "\nOptions:\n" ++ String.join (optionLines.map optionLine)

/-- What is wrong with some arguments. -/
def misuseText (error : UsageError) : String :=
  s!"error: {error.message}\n\n{usageLine}\nFor more information, try '--help'.\n"

end ReturnPaths.CommandLine
