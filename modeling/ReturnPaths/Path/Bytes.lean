import ReturnPaths.Path.Basic
import ReturnPaths.Text.Bytes

/-!
# Paths of any bytes

The path of a file can be any bytes, whether they are those of a text or not.  Such a path has the
same components as one that is a text, since slashes and dots are single bytes, and names are
ordered by their bytes.  Paths that differ can be shown as the same text.

* `BytePath.compare`, `BytePath.same` : the order of such paths, and when they are the same path.
* `BytePath.text` : the text that a path is shown as.
* `Path.toBytes` : the bytes of a path that is a text.
-/

namespace ReturnPaths

/-- A path of any bytes. -/
structure BytePath where
  /-- The bytes of the path. -/
  bytes : List UInt8
  deriving DecidableEq, Repr, Inhabited

namespace BytePath

/-- The path with a character for each byte, the one with its number. -/
def spelled (path : BytePath) : Path :=
  ⟨String.ofList (path.bytes.map Char.ofUInt8)⟩

/-- The order of paths, by their components. -/
def compare (a b : BytePath) : Ordering :=
  a.spelled.compare b.spelled

/-- Whether two paths have the same components. -/
def same (a b : BytePath) : Bool :=
  a.spelled.same b.spelled

/-- The text that a path is shown as. -/
def text (path : BytePath) : String :=
  Text.ofBytes path.bytes

end BytePath

/-- The bytes of a path. -/
def Path.toBytes (path : Path) : BytePath :=
  ⟨Text.bytes path.text⟩

instance : Coe Path BytePath := ⟨Path.toBytes⟩

end ReturnPaths
