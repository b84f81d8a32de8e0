import ReturnPaths.Path.Basic
import ReturnPaths.Obligation

/-!
# What is logged

A run is recorded as a sequence of events; each event is written as one or more messages
(`Event.messages`), and each message becomes a line of the log with a time stamp in front of it.
-/

namespace ReturnPaths

/-- Something that is worth a line in the log. -/
inductive Event where
  /-- A message as it is. -/
  | note (text : String)
  /-- The title of a part of the log. -/
  | heading (title : String)
  /-- The title of a smaller part of the log. -/
  | subheading (title : String)
  /-- A configuration file is about to be read. -/
  | configLoading (path : Path)
  /-- What a run was configured to do: its checks and the number of exclude patterns. -/
  | configSummary (checks : List String) (excludes : Nat)
  /-- The analysis of a number of units starts. -/
  | analysisStart (units : Nat)
  /-- A unit was loaded: its path, its source file and the number of its subjects. -/
  | unitLoaded (path file : Path) (subjects : Nat)
  /-- A unit could not be loaded. -/
  | unitFailed (path : Path) (error : String)
  /-- What was found for a subject. -/
  | verdict (subject : String) (obligation : Obligation) (exits : Nat) (missing : Bool)
  /-- A diagnostic was dropped, because the subject has no element to attach it to. -/
  | noAnchor (subject : String)
  /-- The analysis is over. -/
  | complete (units errors warnings : Nat)
  deriving DecidableEq, Repr

namespace Event

/-- A title between two lines of one character. -/
def framed (character : Char) (width : Nat) (title : String) : List String :=
  let line := String.ofList (List.replicate width character)
  [line, title, line]

/-- The messages of a heading. -/
def headingMessages (title : String) : List String :=
  framed '=' 60 title

/-- The messages of a smaller heading. -/
def subheadingMessages (title : String) : List String :=
  framed '-' 40 title

/-- The messages an event is written as. -/
def messages : Event → List String
  | note text => [text]
  | heading title => headingMessages title
  | subheading title => subheadingMessages title
  | configLoading path =>
    headingMessages "CONFIGURATION LOADING" ++ [s!"Loading config from: {path.text}"]
  | configSummary checks excludes =>
    headingMessages "CONFIGURATION SUMMARY" ++
      ["Enabled checks: " ++ ", ".intercalate checks, s!"Exclude patterns: {excludes}"]
  | analysisStart units =>
    headingMessages "ANALYSIS START" ++ [s!"Analyzing {units} flow units"]
  | unitLoaded path file subjects =>
    subheadingMessages s!"UNIT {path.text}" ++
      [s!"Source file: {file.text}", s!"Subjects (including nested closures): {subjects}"]
  | unitFailed path error => [s!"FAILED to load: {path.text}", s!"  Error: {error}"]
  | verdict subject obligation exits missing =>
    let outcome := if missing then "MISSING RETURN" else "ok"
    [s!"{subject} [{obligation.label}] exits={exits} -> {outcome}"]
  | noAnchor subject => [s!"  No anchor for {subject}, diagnostic dropped"]
  | complete units errors warnings =>
    headingMessages "ANALYSIS COMPLETE" ++
      [s!"Flow units analyzed: {units}", s!"Errors reported: {errors}",
       s!"Warnings reported: {warnings}"]

end Event

end ReturnPaths
