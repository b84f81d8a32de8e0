import ReturnPaths.Analysis.Analyzer
import ReturnPaths.CommandLine.Usage
import ReturnPaths.Report.Format

/-!
# Runs of the command line

A run opens the log if one is asked for, loads the configuration, settles the format of the report,
and then lists the checks or analyzes the paths.  The report goes to the standard output; what is
told on the way goes to the error output.  The exit code is 1 after a failure, or if the report has
an error; warnings alone, and units that cannot be loaded, leave it at 0.

* `run` : a run with some options.
* `execute` : what the program does with some arguments.
-/

namespace ReturnPaths.CommandLine

/-- What ends a run before its report. -/
inductive Failure where
  /-- The given configuration file does not exist. -/
  | configNotFound (path : Path)
  /-- The configuration cannot be loaded; the flag tells whether its file was searched for. -/
  | config (searched : Bool) (error : ConfigError)
  /-- There is no format of this name. -/
  | unknownFormat (name : String)
  /-- The analysis fails. -/
  | analysis (error : AnalysisError)
  deriving DecidableEq, Repr

/-- The wording of a failure, each message followed by that of its cause. -/
def Failure.messages : Failure → List String
  | configNotFound path => [s!"Configuration file not found: {path.text}"]
  | config searched error =>
    (if searched then ["Failed to load configuration"] else []) ++ [error.message, error.cause]
  | unknownFormat name =>
    let names := ", ".intercalate OutputFormat.names
    [s!"Invalid output format '{name}'. Valid options: {names}"]
  | analysis error => [error.message]

/-- What the program leaves behind. -/
structure Outcome where
  /-- The exit code. -/
  code : Nat
  /-- The standard output. -/
  output : String
  /-- The error output. -/
  errors : String
  deriving DecidableEq, Repr

/-- A run under way: its session, and what it has written to the error output. -/
structure Progress where
  /-- The session. -/
  session : Session
  /-- The lines of the error output. -/
  told : List String := []

/-- Steps of a run, which may end it. -/
abbrev Run := ExceptT Failure (StateM Progress)

/-- Writes a line to the error output. -/
def tell (line : String) : Run Unit :=
  modify fun progress => { progress with told := progress.told ++ [line] }

/-- A step on the session. -/
def onSession {α : Type} (step : StateM Session α) : Run α :=
  modifyGet fun progress =>
    let (result, session) := step progress.session
    (result, { progress with session })

/-- A step on the session that may end the run. -/
def orFail {ε α : Type} (failure : ε → Failure) (step : StateM Session (Except ε α)) : Run α := do
  match ← onSession step with
  | .ok result => return result
  | .error error => throw (failure error)

/-- Opens the log, if one is asked for.  A log that cannot be opened does not end the run. -/
def openLog (options : Options) : Run Unit :=
  match options.debugLog with
  | none => return
  | some path => do
    match ← onSession (startLog path) with
    | .ok () => if options.verbose then tell s!"Debug: Debug log writing to {path.text}"
    | .error error => tell s!"Warning: Failed to initialize debug log: {error.message}"

/-- Tells which configuration file is used. -/
def tellConfig (options : Options) (path : Path) : Run Unit :=
  if options.verbose then tell s!"Using config: {path.text}" else return

/-- The configuration: of the given file, else of the nearest one, else the empty one. -/
def loadSettings (options : Options) : Run Config := do
  let files := (← get).session.files
  if options.noConfig then return {}
  else match options.config with
    | some path => do
      unless files.denotes path do throw (.configNotFound path)
      let config ← orFail (.config false) (loadConfig path)
      tellConfig options path
      return config
    | none => do
      match ← orFail (.config true) loadConfigHere with
      | some (config, path) =>
        tellConfig options path
        return config
      | none => return {}

/-- The format of the report: the options win over the configuration. -/
def resolveFormat (options : Options) (config : Config) : Except Failure OutputFormat :=
  if options.json then .ok .json
  else match options.format <|> config.format with
    | none => .ok .standard
    | some name =>
      match OutputFormat.ofName? name with
      | some format => .ok format
      | none => .error (.unknownFormat name)

/-- A check in the list of checks. -/
def describeCheck (check : Check) : String :=
  let groups := " / ".intercalate check.groupPath
  s!"  {check.id} ({check.shortName}) - {check.displayName} [{groups}]\n"
    ++ s!"      {check.description}\n"

/-- The list of checks. -/
def describeChecks (registry : Registry) : String :=
  "Available checks:\n" ++ String.join (registry.checks.map describeCheck)

/-- The exit code after a report. -/
def exitCode (issues : IssueCollection) : Nat :=
  if issues.errorCount > 0 then 1 else 0

/-- The analysis of the given paths, with the selected checks. -/
def analyze (options : Options) (analyzer : Analyzer) : Run IssueCollection := do
  let analyzer ← MonadExcept.ofExcept ((analyzer.select options.checks).mapError .analysis)
  if options.verbose then
    tell ("Analyzing: " ++ ", ".intercalate (options.paths.map (·.text)))
  let analysis ← orFail .analysis (analyzer.analyzePaths options.paths)
  analysis.failures.forM fun failure => tell s!"Warning: {failure.message}"
  return analysis.issues

/-- A run with some options: the exit code and the standard output. -/
def run (options : Options) : Run (Nat × String) := do
  openLog options
  let config ← loadSettings options
  let format ← MonadExcept.ofExcept (resolveFormat options config)
  let analyzer : Analyzer := { config }
  if options.listChecks then return (0, describeChecks analyzer.registry)
  else
    let issues ← analyze options analyzer
    return (exitCode issues, format.render issues)

/-- Lines of text, each with its end. -/
def unlines (lines : List String) : String :=
  String.join (lines.map (· ++ "\n"))

/-- What a run with some options leaves behind. -/
def runToEnd (options : Options) (session : Session) : Outcome × Session :=
  match (run options).run ⟨session, []⟩ with
  | (.ok (code, output), progress) => (⟨code, output, unlines progress.told⟩, progress.session)
  | (.error failure, progress) =>
    let last := "Error: " ++ ": ".intercalate failure.messages
    (⟨1, "", unlines (progress.told ++ [last])⟩, progress.session)

/-- What the program leaves behind when it is called with some arguments. -/
def execute (arguments : List String) (session : Session) : Outcome × Session :=
  match Options.ofArguments arguments with
  | .ok options => runToEnd options session
  | .error .help => (⟨0, helpText, ""⟩, session)
  | .error .version => (⟨0, versionText, ""⟩, session)
  | .error (.misuse error) => (⟨2, "", misuseText error⟩, session)

end ReturnPaths.CommandLine
