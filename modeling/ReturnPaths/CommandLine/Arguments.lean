import ReturnPaths.Path.Basic

/-!
# Command line arguments

Arguments are read one after the other.  One that starts with two dashes names an option, with a
value after an equals sign or, if the option takes one, in the next argument; one that starts with
a single dash is a cluster of letters, each of which stands for an option without a value.  All
others are paths, and so is everything after a lone `--`.

* `Options.ofArguments` : the options of a run, or why there is no run (`Halt`).

What is wrong with a single argument is noticed when its turn comes, so a request for help before
it is answered; which options go together is looked at in the end.
-/

namespace ReturnPaths.CommandLine

/-- An option without a value. -/
inductive Flag where
  /-- Write the report in JSON. -/
  | json
  /-- Look at no configuration file. -/
  | noConfig
  /-- Tell what is done. -/
  | verbose
  /-- List the checks instead of running them. -/
  | listChecks
  /-- Show the usage. -/
  | help
  /-- Show the version. -/
  | version
  deriving DecidableEq, Repr

/-- An option with a value. -/
inductive Setting where
  /-- The format of the report. -/
  | format
  /-- A check to run. -/
  | check
  /-- The configuration file. -/
  | config
  /-- The log file. -/
  | debugLog
  deriving DecidableEq, Repr

/-- The names of the options without a value. -/
def Flag.names : List (String × Flag) :=
  [("json", .json), ("no-config", .noConfig), ("verbose", .verbose),
   ("list-checks", .listChecks), ("help", .help), ("version", .version)]

/-- The letters of the options that have one. -/
def Flag.letters : List (Char × Flag) :=
  [('v', .verbose), ('h', .help), ('V', .version)]

/-- The names of the options with a value. -/
def Setting.names : List (String × Setting) :=
  [("format", .format), ("check", .check), ("config", .config), ("debug-log", .debugLog)]

/-- How an option without a value is shown. -/
def Flag.label (flag : Flag) : String :=
  "--" ++ ((Flag.names.find? (·.2 = flag)).map (·.1)).getD ""

/-- How an option with a value is shown. -/
def Setting.label : Setting → String
  | format => "--format <FORMAT>"
  | check => "--check <ID>"
  | config => "--config <PATH>"
  | debugLog => "--debug-log <PATH>"

/-- What is wrong with a list of arguments. -/
inductive UsageError where
  /-- There is no such option. -/
  | unknownOption (text : String)
  /-- An option lacks its value. -/
  | missingValue (setting : Setting)
  /-- A path is empty. -/
  | emptyPath
  /-- An option was given a value and takes none. -/
  | unwantedValue (flag : Flag) (value : String)
  /-- An option stands twice that may stand once. -/
  | repeatedFlag (flag : Flag)
  /-- An option with a value stands twice that may stand once. -/
  | repeatedSetting (setting : Setting)
  /-- Two options exclude each other. -/
  | conflict (flag : Flag) (setting : Setting)
  /-- There is no path. -/
  | missingPaths
  deriving DecidableEq, Repr

/-- The wording of what is wrong. -/
def UsageError.message : UsageError → String
  | unknownOption text => s!"unexpected argument '{text}' found"
  | missingValue setting => s!"a value is required for '{setting.label}' but none was supplied"
  | emptyPath => "a value is required for '[PATHS]...' but none was supplied"
  | unwantedValue flag value =>
    s!"unexpected value '{value}' for '{flag.label}' found; no more were expected"
  | repeatedFlag flag => s!"the argument '{flag.label}' cannot be used multiple times"
  | repeatedSetting setting => s!"the argument '{setting.label}' cannot be used multiple times"
  | conflict flag setting =>
    s!"the argument '{flag.label}' cannot be used with '{setting.label}'"
  | missingPaths => "the following required arguments were not provided:\n  <PATHS>..."

/-- Why arguments lead to no run. -/
inductive Halt where
  /-- The usage was asked for. -/
  | help
  /-- The version was asked for. -/
  | version
  /-- Something is wrong with them. -/
  | misuse (error : UsageError)
  deriving DecidableEq, Repr

/-- The options of a run. -/
structure Options where
  /-- The files and directories to analyze. -/
  paths : List Path := []
  /-- The name of the format of the report. -/
  format : Option String := none
  /-- Whether the report is written in JSON. -/
  json : Bool := false
  /-- The checks to run; if there are none, the configuration decides. -/
  checks : List String := []
  /-- The configuration file. -/
  config : Option Path := none
  /-- Whether configuration files are passed over. -/
  noConfig : Bool := false
  /-- The log file. -/
  debugLog : Option Path := none
  /-- Whether to tell what is done. -/
  verbose : Bool := false
  /-- Whether to list the checks instead of running them. -/
  listChecks : Bool := false
  deriving DecidableEq, Repr

/-- An argument by its form. -/
inductive Argument where
  /-- A lone `--`. -/
  | separator
  /-- The name of an option, and the value after an equals sign. -/
  | long (name : String) (value : Option String)
  /-- Letters after a single dash. -/
  | cluster (letters : List Char)
  /-- Anything else. -/
  | plain (text : String)
  deriving DecidableEq, Repr

/-- The form of an argument. -/
def Argument.ofText (text : String) : Argument :=
  match text.toList with
  | ['-', '-'] => .separator
  | '-' :: '-' :: rest =>
    match rest.span (· ≠ '=') with
    | (name, _ :: value) => .long (String.ofList name) (some (String.ofList value))
    | (name, []) => .long (String.ofList name) none
  | '-' :: letter :: letters => .cluster (letter :: letters)
  | _ => .plain text

namespace Options

/-- Turns an option on that may be turned on once. -/
def turnOn (flag : Flag) (already : Bool) (options : Options) : Except Halt Options :=
  if already then .error (.misuse (.repeatedFlag flag)) else .ok options

/-- Takes in an option without a value. -/
def addFlag (options : Options) : Flag → Except Halt Options
  | .json => turnOn .json options.json { options with json := true }
  | .noConfig => turnOn .noConfig options.noConfig { options with noConfig := true }
  | .verbose => turnOn .verbose options.verbose { options with verbose := true }
  | .listChecks => turnOn .listChecks options.listChecks { options with listChecks := true }
  | .help => .error .help
  | .version => .error .version

/-- The value of an option that is a path. -/
def pathValue (setting : Setting) (value : String) : Except Halt Path :=
  if value.isEmpty then .error (.misuse (.missingValue setting)) else .ok ⟨value⟩

/-- Sets an option that may be set once. -/
def setOnce (setting : Setting) (already : Bool) (options : Options) : Except Halt Options :=
  if already then .error (.misuse (.repeatedSetting setting)) else .ok options

/-- Takes in an option with its value. -/
def addSetting (options : Options) (value : String) : Setting → Except Halt Options
  | .format => setOnce .format options.format.isSome { options with format := some value }
  | .check => .ok { options with checks := options.checks ++ [value] }
  | .config => do
    let path ← pathValue .config value
    setOnce .config options.config.isSome { options with config := some path }
  | .debugLog => do
    let path ← pathValue .debugLog value
    setOnce .debugLog options.debugLog.isSome { options with debugLog := some path }

/-- Takes in a path. -/
def addPath (options : Options) (text : String) : Except Halt Options :=
  if text.isEmpty then .error (.misuse .emptyPath)
  else .ok { options with paths := options.paths ++ [⟨text⟩] }

/-- Takes in a cluster of letters. -/
def addLetters : List Char → Options → Except Halt Options
  | [], options => .ok options
  | letter :: letters, options =>
    match Flag.letters.lookup letter with
    | none => .error (.misuse (.unknownOption ("-" ++ String.singleton letter)))
    | some flag => options.addFlag flag >>= addLetters letters

/-- The value that an argument can be for the option before it: any that is no option itself. -/
def valueOf? (text : String) : Option String :=
  match Argument.ofText text with
  | .plain text => some text
  | _ => none

/-- Takes in arguments, one after the other. -/
def addArguments (options : Options) : List String → Except Halt Options
  | [] => .ok options
  | text :: texts =>
    match Argument.ofText text with
    | .separator => texts.foldlM addPath options
    | .plain text => do (← options.addPath text).addArguments texts
    | .cluster letters => do (← addLetters letters options).addArguments texts
    | .long name value =>
      match Flag.names.lookup name, Setting.names.lookup name with
      | some flag, _ =>
        match value with
        | some value => .error (.misuse (.unwantedValue flag value))
        | none => do (← options.addFlag flag).addArguments texts
      | none, some setting =>
        match value with
        | some value => do (← options.addSetting value setting).addArguments texts
        | none =>
          match texts with
          | [] => .error (.misuse (.missingValue setting))
          | next :: texts =>
            match valueOf? next with
            | some value => do (← options.addSetting value setting).addArguments texts
            | none => .error (.misuse (.missingValue setting))
      | none, none => .error (.misuse (.unknownOption ("--" ++ name)))

/-- Whether the options go together. -/
def checked (options : Options) : Except Halt Options :=
  if options.json ∧ options.format.isSome then .error (.misuse (.conflict .json .format))
  else if options.noConfig ∧ options.config.isSome then
    .error (.misuse (.conflict .noConfig .config))
  else if options.paths.isEmpty ∧ ¬ options.listChecks then .error (.misuse .missingPaths)
  else .ok options

/-- The options that a list of arguments asks for. -/
def ofArguments (arguments : List String) : Except Halt Options := do
  (← addArguments {} arguments).checked

end Options

end ReturnPaths.CommandLine
