import ReturnPaths.Log.Logger

/-!
# Sessions

A session is what a run works on: the files, the log if one is kept, and the time of its time
stamps.  The log is a file of the same tree, so what is recorded can be read back later on.

* `record` : writes an event to the log, if one is kept.
* `startLog` : keeps the log in a fresh file from now on.
-/

namespace ReturnPaths

/-- The files a run works on, and its log. -/
structure Session where
  /-- The files. -/
  files : FileTree
  /-- The log, if one is kept. -/
  log : Option Logger := none
  /-- The time of the time stamps. -/
  now : Timestamp := ⟨0⟩

namespace Session

/-- The session after an event was recorded. -/
def recorded (session : Session) (event : Event) : Session :=
  match session.log with
  | none => session
  | some logger =>
    let (logger, files) := logger.record session.now event session.files
    { session with files, log := some logger }

/-- The session with a fresh log at a path. -/
def logging (session : Session) (path : Path) : Except FileError Session := do
  let (logger, files) ← Logger.create path session.files
  .ok { session with files, log := some logger }

end Session

/-- Writes an event to the log, if one is kept. -/
def record (event : Event) : StateM Session Unit :=
  modify (·.recorded event)

/-- Writes events to the log, one after the other. -/
def recordAll : List Event → StateM Session Unit
  | [] => pure ()
  | event :: events => do
    record event
    recordAll events

/-- Keeps the log in a fresh file from now on; the log so far is left as it is if this fails. -/
def startLog (path : Path) : StateM Session (Except FileError Unit) := do
  match (← get).logging path with
  | .ok session =>
    set session
    return .ok ()
  | .error error => return .error error

end ReturnPaths
