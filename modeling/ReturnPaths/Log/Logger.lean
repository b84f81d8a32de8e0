import ReturnPaths.FileTree.Basic
import ReturnPaths.Log.Event
import ReturnPaths.Log.Timestamp

/-!
# Log files

A logger writes into a file that it created, or emptied, when it was opened.  It remembers how far
it has written, and goes on from there even if the file was changed in the meantime.

* `Logger.create` : a logger on a fresh file.
* `Logger.record` : the file tree after an event was written.
-/

namespace ReturnPaths

/-- A log file that is being written. -/
structure Logger where
  /-- The path it was opened with. -/
  path : Path
  /-- The position of the file. -/
  position : List String
  /-- The number of bytes written. -/
  offset : Nat := 0
  deriving DecidableEq, Repr

namespace Logger

/-- Opens a log at a path. -/
def create (path : Path) (tree : FileTree) : Except FileError (Logger × FileTree) := do
  let (position, tree) ← tree.create path
  .ok ({ path, position }, tree)

/-- A message as a line of the log. -/
def line (now : Timestamp) (message : String) : String :=
  s!"[{now.render}] {message}\n"

/-- Content with some bytes written over it from an offset on; a gap is filled with zeros. -/
def overwrite (content : ByteArray) (offset : Nat) (bytes : ByteArray) : ByteArray :=
  let gap := ⟨Array.replicate (offset - content.size) 0⟩
  content.extract 0 offset ++ gap ++ bytes ++ content.extract (offset + bytes.size) content.size

/-- Writes some text. -/
def write (logger : Logger) (text : String) (tree : FileTree) : Logger × FileTree :=
  let content := match tree.root.get? logger.position with
    | some (.file content) => content
    | _ => ByteArray.empty
  let bytes := text.toUTF8
  ({ logger with offset := logger.offset + bytes.size },
    tree.put logger.position (.file (overwrite content logger.offset bytes)))

/-- Writes an event. -/
def record (logger : Logger) (now : Timestamp) (event : Event) (tree : FileTree) :
    Logger × FileTree :=
  logger.write (String.join (event.messages.map (line now))) tree

end Logger

end ReturnPaths
