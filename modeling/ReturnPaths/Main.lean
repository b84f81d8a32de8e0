import ReturnPaths.CommandLine.Run

/-!
# The program

Everything the program does is decided by `CommandLine.execute` on a tree of files.  What is left
for here is to read the files it may look at into such a tree, and to write out what it leaves
behind: the two outputs, the exit code and the log.
-/

namespace ReturnPaths.Program

/-- A file, or a directory with everything below it; nothing if it cannot be read. -/
partial def readNode (entry : IO.FS.DirEntry) : IO (Option Node) := do
  try
    if ← entry.path.isDir then
      let inner ← entry.path.readDir
      let nodes ← inner.toList.filterMapM fun entry => do
        return (← readNode entry).map fun node => (entry.fileName, node)
      return some (.directory nodes)
    else
      return some (.file (← IO.FS.readBinFile entry.path))
  catch _ =>
    return none

/-- The directory entry at a position below the root. -/
def entryAt (position : List String) : IO.FS.DirEntry :=
  { root := "/", fileName := "/".intercalate position }

/-- Reads everything at and below a position into a tree. -/
def readPosition (files : FileTree) (position : List String) : IO FileTree := do
  match ← readNode (entryAt position) with
  | some node => return files.put position node
  | none => return files

/-- Adds the directories on the way to where a path leads, and gives its position. -/
def readWay (files : FileTree) (position : List String) :
    List (List Char) → IO (FileTree × List String)
  | [] => return (files, position)
  | piece :: pieces => do
    let position :=
      if piece = [] ∨ piece = ['.'] then position
      else if piece = ['.', '.'] then position.dropLast
      else position ++ [String.ofList piece]
    let isNew := (files.root.get? position).isNone
    if isNew && (← (entryAt position).path.isDir) then
      readWay (files.put position (.directory [])) position pieces
    else
      readWay files position pieces

/-- Reads what a path denotes. -/
def readPath (files : FileTree) (path : Path) : IO FileTree := do
  let (files, position) ← readWay files (files.start path) (Path.pieces path.text.toList)
  readPosition files position

/-- Reads the directory of a file that is to be written. -/
def readParent (files : FileTree) (path : Path) : IO FileTree := do
  let pieces := Path.pieces path.text.toList
  return (← readWay files (files.start path) pieces).1

/-- Reads the configuration files that may apply in the working directory. -/
def readConfigs (files : FileTree) : IO FileTree :=
  files.workingPath.ancestors.foldlM
    (fun files directory => readPath files (directory.join ⟨configFileName⟩)) files

/-- The tree with the working directory alone, which is not there if it has been removed. -/
def readWorkingDirectory : IO FileTree := do
  try
    let directory := Path.pieces (← IO.currentDir).toString.toList
    let position := (directory.map String.ofList).filter (· ≠ "")
    let start : FileTree := { root := .directory [], workingDirectory := position }
    return start.put position (.directory [])
  catch _ =>
    -- it cannot be told where it was, and no entry has so long a name
    let name := String.ofList (List.replicate (FileTree.nameLimit + 1) 'x')
    return { root := .directory [], workingDirectory := [name] }

/-- Reads all files that a run with some options may look at. -/
def readFiles (options : CommandLine.Options) : IO FileTree := do
  let files ← readConfigs (← readWorkingDirectory)
  let files ← (options.config.toList ++ options.paths).foldlM readPath files
  options.debugLog.toList.foldlM readParent files

/-- The time, as the file system tells it. -/
def currentTime : IO Timestamp := do
  let (_, path) ← IO.FS.createTempFile
  let time := (← path.metadata).modified
  IO.FS.removeFile path
  return ⟨(time.sec * 1000 + time.nsec.toNat / 1000000).toNat⟩

/-- Writes the log out, if one was kept. -/
def writeLog (session : Session) : IO Unit :=
  match session.log with
  | none => return
  | some logger =>
    match session.files.root.get? logger.position with
    | some (.file content) => IO.FS.writeBinFile (entryAt logger.position).path content
    | _ => return

/-- Runs the program with some arguments. -/
def run (arguments : List String) : IO UInt32 := do
  let options := (CommandLine.Options.ofArguments arguments).toOption.getD {}
  let files ← readFiles options
  let now ← if options.debugLog.isSome then currentTime else pure ⟨0⟩
  let (outcome, session) := CommandLine.execute arguments { files, now }
  writeLog session
  (← IO.getStderr).putStr outcome.errors
  (← IO.getStdout).putStr outcome.output
  return outcome.code.toUInt32

end ReturnPaths.Program

/-- The entry point of the program. -/
def main (arguments : List String) : IO UInt32 :=
  ReturnPaths.Program.run arguments
