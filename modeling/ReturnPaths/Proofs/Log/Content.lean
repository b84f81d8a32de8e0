import ReturnPaths.Proofs.FileTree.Creation
import ReturnPaths.Proofs.Log.Lines

/-!
# What a log file contains

A log that nothing else writes to consists of the lines that were recorded, and recording changes no
other file.

* `Logger.Holds` : the file of a logger contains some lines, and the logger goes on after them.
* `Logger.record_spec` : recording adds lines, and leaves all other files as they are.
-/

namespace ReturnPaths

namespace Logger

theorem overwrite_end (content bytes : ByteArray) :
    overwrite content content.size bytes = content ++ bytes := by
  have hgap :
      (⟨Array.replicate (content.size - content.size) 0⟩ : ByteArray) = ByteArray.empty := by
    rw [Nat.sub_self]
    rfl
  have hend : content.extract (content.size + bytes.size) content.size = ByteArray.empty := by
    rw [ByteArray.extract_eq_empty_iff]
    omega
  simp only [overwrite, hgap, hend, ByteArray.extract_zero_size, ByteArray.append_empty]

/-- The log file contains these lines and nothing else, and the logger stands at its end. -/
structure Holds (logger : Logger) (tree : FileTree) (lines : List (Timestamp × String)) :
    Prop where
  /-- The file contains the lines. -/
  content : tree.root.get? logger.position = some (.file (written lines).toUTF8)
  /-- What comes next is written after them. -/
  offset : logger.offset = (written lines).toUTF8.size

variable {logger : Logger} {tree tree' : FileTree} {lines : List (Timestamp × String)}

/-- A log that was just opened is empty. -/
theorem holds_create {path : Path} (h : Logger.create path tree = .ok (logger, tree')) :
    logger.Holds tree' [] := by
  rw [Logger.create] at h
  cases hcreate : tree.create path with
  | error error => rw [hcreate] at h; cases h
  | ok created =>
    obtain ⟨position, tree''⟩ := created
    rw [hcreate] at h
    cases h
    exact ⟨FileTree.create_eq_ok hcreate, rfl⟩

/-- **What recording changes**: the log file grows, and nothing else is different. -/
theorem record_spec (h : logger.Holds tree lines) (now : Timestamp) (event : Event) :
    ∃ offset root,
      logger.record now event tree = ({ logger with offset }, { tree with root }) ∧
        Logger.Holds { logger with offset } { tree with root }
          (lines ++ event.messages.map fun message => (now, message)) ∧
            ∃ content, Node.Overwritten logger.position content tree.root root := by
  have hmessages : String.join (event.messages.map (line now)) =
      written (event.messages.map fun message => (now, message)) := by
    rw [written, List.map_map]
    rfl
  have hbytes : (written lines).toUTF8 ++
      (written (event.messages.map fun message => (now, message))).toUTF8 =
        (written (lines ++ event.messages.map fun message => (now, message))).toUTF8 := by
    rw [written_append]
    simp
  obtain ⟨root, hput, hroot⟩ := Node.put?_file h.content
    (written (lines ++ event.messages.map fun message => (now, message))).toUTF8
  refine ⟨(written (lines ++ event.messages.map fun message => (now, message))).toUTF8.size, root,
    ?_, ⟨hroot.content, rfl⟩, _, hroot⟩
  simp only [Logger.record, Logger.write, h.content, hmessages, h.offset, overwrite_end, hbytes,
    FileTree.put, hput, Option.getD_some]
  rw [← hbytes]
  simp

end Logger

end ReturnPaths
