import ReturnPaths.FileTree.Node
import ReturnPaths.Path.Basic

/-!
# File trees

A file tree has a root directory and a working directory, from which relative paths start.  Finding
what a path denotes goes down from there piece by piece; unlike the components of a path, a `..`
goes to the directory above, and a trailing slash asks for a directory.  There are no links.  The
working directory may have been removed: `.` still denotes it, but it is empty and stays so.

* `FileTree.locate` : what a path denotes, or why it denotes nothing.
* `FileTree.isFile`, `FileTree.isDirectory`, `FileTree.denotes` : whether it denotes something.
* `FileTree.currentDirectory` : the path of the working directory, if it is still there.
* `FileTree.readText` : the text of a file.
* `FileTree.create` : the tree with an empty file at a path.
-/

namespace ReturnPaths

/-- Why a file cannot be read or created. -/
inductive FileError where
  /-- There is no such file or directory. -/
  | notFound
  /-- A file stands where a directory is needed. -/
  | notDirectory
  /-- A directory stands where a file is needed. -/
  | isDirectory
  /-- A name or a whole path is too long. -/
  | nameTooLong
  /-- The path contains a null character. -/
  | nullCharacter
  /-- The content of the file is not text in UTF-8. -/
  | notText
  deriving DecidableEq, Repr

/-- The wording of a file error. -/
def FileError.message : FileError → String
  | notFound => "No such file or directory (os error 2)"
  | notDirectory => "Not a directory (os error 20)"
  | isDirectory => "Is a directory (os error 21)"
  | nameTooLong => "File name too long (os error 36)"
  | nullCharacter => "file name contained an unexpected NUL byte"
  | notText => "stream did not contain valid UTF-8"

/-- A tree of files with a working directory. -/
structure FileTree where
  /-- The root directory. -/
  root : Node
  /-- The position of the working directory.  If there is no directory, it has been removed. -/
  workingDirectory : List String

namespace FileTree

/-- The greatest number of bytes of a name. -/
def nameLimit : Nat := 255

/-- The number of bytes that a path stays below. -/
def pathLimit : Nat := 4096

/-- The absolute path of the working directory. -/
def workingPath (tree : FileTree) : Path :=
  ⟨"/" ++ "/".intercalate tree.workingDirectory⟩

/-- The absolute path of the working directory, if the directory is still there. -/
def currentDirectory (tree : FileTree) : Except FileError Path :=
  match tree.root.directory? tree.workingDirectory with
  | some _ => .ok tree.workingPath
  | none => .error .notFound

/-- The position where the search for a path starts. -/
def start (tree : FileTree) (path : Path) : List String :=
  if path.isAbsolute then [] else tree.workingDirectory

/-- Why a name that is too long is not found.  In a directory that has been removed no name is even
looked at. -/
def lengthError (root : Node) (position : List String) : FileError :=
  match root.directory? position with
  | some _ => .nameTooLong
  | none => .notFound

/-- Goes down from the node at a position, piece by piece. -/
def follow (root : Node) : List (List Char) → List String → Node →
    Except FileError (List String × Node)
  | [], position, node => .ok (position, node)
  | _ :: _, _, .file _ => .error .notDirectory
  | piece :: rest, position, .directory entries =>
    if piece = [] ∨ piece = ['.'] then follow root rest position (.directory entries)
    else if piece = ['.', '.'] then
      follow root rest position.dropLast (root.directoryAt position.dropLast)
    else
      let name := String.ofList piece
      if name.utf8ByteSize > nameLimit then .error (lengthError root position)
      else match entries.lookup name with
        | some node => follow root rest (position ++ [name]) node
        | none => .error .notFound

/-- Goes down from where a path starts. -/
def descend (tree : FileTree) (path : Path) (pieces : List (List Char)) :
    Except FileError (List String × Node) :=
  if '\x00' ∈ path.text.toList then .error .nullCharacter
  else if path.text.isEmpty then .error .notFound
  else if path.text.utf8ByteSize ≥ pathLimit then .error .nameTooLong
  else follow tree.root pieces (tree.start path) (tree.root.directoryAt (tree.start path))

/-- What a path denotes, and its position. -/
def locate (tree : FileTree) (path : Path) : Except FileError (List String × Node) :=
  tree.descend path (Path.pieces path.text.toList)

/-- The file or directory that a path denotes. -/
def node? (tree : FileTree) (path : Path) : Option Node :=
  match tree.locate path with
  | .ok (_, node) => some node
  | .error _ => none

/-- Whether a path denotes a file. -/
def isFile (tree : FileTree) (path : Path) : Bool :=
  match tree.node? path with
  | some (.file _) => true
  | _ => false

/-- Whether a path denotes a directory. -/
def isDirectory (tree : FileTree) (path : Path) : Bool :=
  match tree.node? path with
  | some (.directory _) => true
  | _ => false

/-- Whether a path denotes anything. -/
def denotes (tree : FileTree) (path : Path) : Bool :=
  (tree.node? path).isSome

/-- The text of the file that a path denotes. -/
def readText (tree : FileTree) (path : Path) : Except FileError String := do
  match ← tree.locate path with
  | (_, .directory _) => .error .isDirectory
  | (_, .file content) =>
    match String.fromUTF8? content with
    | some text => .ok text
    | none => .error .notText

/-- The tree with a node put at a position. -/
def put (tree : FileTree) (position : List String) (node : Node) : FileTree :=
  { tree with root := (Node.put? node position tree.root).getD tree.root }

/-- The position of the file to be created at a path.  Its directory has to be there; a path that
ends in a slash, `.` or `..` denotes a directory. -/
def createPosition (tree : FileTree) (path : Path) : Except FileError (List String) :=
  let pieces := Path.pieces path.text.toList
  let named := pieces.reverse.dropWhile (· = [])
  match named with
  | [] => do
    let _ ← tree.descend path []
    .error .isDirectory
  | last :: above => do
    match ← tree.descend path above.reverse with
    | (_, .file _) => .error .notDirectory
    | (position, .directory entries) =>
      let name := String.ofList last
      if last = ['.'] ∨ last = ['.', '.'] ∨ named.length < pieces.length then .error .isDirectory
      else if tree.root.directory? position = none then .error .notFound
      else if name.utf8ByteSize > nameLimit then .error .nameTooLong
      else match entries.lookup name with
        | some (.directory _) => .error .isDirectory
        | _ => .ok (position ++ [name])

/-- The tree with an empty file at a path, and the position of the file. -/
def create (tree : FileTree) (path : Path) : Except FileError (List String × FileTree) := do
  let position ← tree.createPosition path
  .ok (position, tree.put position (.file ByteArray.empty))

end FileTree

end ReturnPaths
