/-!
# Paths

A path is kept as the text it was written with, and read as a list of components: the root, a
leading `.`, `..` steps and names.  Repeated and trailing slashes and every `.` that does not lead
the path are no components.

* `Path.components` : the components of a path.  Two paths are the same path (`Path.same`) if
  their components are, and paths are ordered by their components (`Path.compare`), which is not
  the order of their texts: `a/b` comes before `a-b`.
* `Path.parents` : the paths above a path, nearest first, by removing components from the right.
  Nothing is looked up and no `..` is resolved.
* `Path.join` : a path below another; an absolute path replaces it.
-/

namespace ReturnPaths

/-- A path, as it was written. -/
structure Path where
  /-- The text of the path. -/
  text : String
  deriving DecidableEq, Repr, Inhabited

/-- A component of a path. -/
inductive Component where
  /-- The root directory. -/
  | root
  /-- A `.` that leads the path. -/
  | current
  /-- A step to the directory above. -/
  | parent
  /-- A step into the named entry. -/
  | name (text : String)
  deriving DecidableEq, Repr

namespace Component

/-- The place of a kind of component in the order of components. -/
def rank : Component → Nat
  | root => 0
  | current => 1
  | parent => 2
  | name _ => 3

/-- The text of a name; other components compare by their rank alone. -/
def key : Component → String
  | name text => text
  | _ => ""

/-- The root comes first, then `.`, `..` and the names in the order of their characters. -/
def compare (a b : Component) : Ordering :=
  if a.rank < b.rank ∨ (a.rank = b.rank ∧ a.key < b.key) then .lt
  else if a = b then .eq
  else .gt

/-- The component that a piece of a path between slashes stands for, if any. -/
def ofPiece : List Char → Option Component
  | [] => none
  | ['.'] => none
  | ['.', '.'] => some .parent
  | piece => some (.name (String.ofList piece))

end Component

namespace Path

/-- The pieces of a text between slashes; there is always at least one. -/
def pieces : List Char → List (List Char)
  | [] => [[]]
  | c :: cs =>
    if c = '/' then [] :: pieces cs
    else match pieces cs with
      | [] => [[c]]
      | piece :: rest => (c :: piece) :: rest

/-- Puts pieces together with slashes between them. -/
def ofPieces : List (List Char) → List Char
  | [] => []
  | [piece] => piece
  | piece :: rest => piece ++ '/' :: ofPieces rest

/-- A text split into what leads it, a slash or a lone `.`, and the pieces that follow. -/
def split (chars : List Char) : List Char × List (List Char) :=
  match chars with
  | '/' :: rest => (['/'], pieces rest)
  | ['.'] => (['.'], [])
  | '.' :: '/' :: rest => (['.'], [] :: pieces rest)
  | chars => ([], pieces chars)

/-- The component that leads a path, if it is the root or a `.`. -/
def leading : List Char → List Component
  | ['/'] => [.root]
  | ['.'] => [.current]
  | _ => []

/-- The components of a path. -/
def components (path : Path) : List Component :=
  let (lead, rest) := split path.text.toList
  leading lead ++ rest.filterMap Component.ofPiece

/-- The order of lists of components, the first difference deciding. -/
def compareComponents : List Component → List Component → Ordering
  | [], [] => .eq
  | [], _ :: _ => .lt
  | _ :: _, [] => .gt
  | a :: as, b :: bs => (a.compare b).then (compareComponents as bs)

/-- The order of paths. -/
def compare (a b : Path) : Ordering :=
  compareComponents a.components b.components

/-- Whether one path does not come after another. -/
def le (a b : Path) : Bool :=
  (a.compare b).isLE

/-- Whether two texts are spellings of the same path. -/
def same (a b : Path) : Bool :=
  a.components == b.components

/-- Whether the path starts at the root. -/
def isAbsolute (path : Path) : Bool :=
  path.text.toList.head? == some '/'

/-- The name a path ends in, if its last component is a name. -/
def fileName? (path : Path) : Option String :=
  match path.components.getLast? with
  | some (.name text) => some text
  | _ => none

/-- What follows the last dot of the file name; a dot that starts the name does not count. -/
def extension? (path : Path) : Option String := do
  let name ← path.fileName?
  let (after, before) := name.toList.reverse.span (· ≠ '.')
  match before with
  | _ :: _ :: _ => some (String.ofList after.reverse)
  | _ => none

/-- The path `b` seen from `a`. -/
def join (a b : Path) : Path :=
  if b.isAbsolute then b
  else if a.text.isEmpty || a.text.endsWith "/" then ⟨a.text ++ b.text⟩
  else ⟨a.text ++ "/" ++ b.text⟩

/-- Removes the pieces that stand for no component from the front. -/
def dropBlank (rest : List (List Char)) : List (List Char) :=
  rest.dropWhile fun piece => (Component.ofPiece piece).isNone

/-- The parents of a path with this lead and these pieces in reverse order. -/
def parentsOf (lead : List Char) : List (List Char) → List Path
  | [] => if lead = ['.'] then [⟨""⟩] else []
  | piece :: rest =>
    if (Component.ofPiece piece).isNone then parentsOf lead rest
    else ⟨String.ofList (lead ++ ofPieces (dropBlank rest).reverse)⟩ :: parentsOf lead rest

/-- The paths above a path, nearest first. -/
def parents (path : Path) : List Path :=
  let (lead, rest) := split path.text.toList
  parentsOf lead rest.reverse

/-- The path and the paths above it, nearest first. -/
def ancestors (path : Path) : List Path :=
  path :: path.parents

end Path

end ReturnPaths
