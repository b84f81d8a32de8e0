/-!
# Files and directories

A node of a file tree is a file with its bytes, or a directory with its named entries.  Positions
in the tree are given by the names on the way down to them.

* `Node.get?` and `Node.put?` : what is at a position, and the tree with a node put there.
* `Node.directory?` and `Node.directoryAt` : the directory at a position, if there still is one, and
  what is left of it otherwise.
* `Node.files` : the positions of all files below a node.
-/

namespace ReturnPaths

/-- A file or a directory. -/
inductive Node where
  /-- A file with its content. -/
  | file (content : ByteArray)
  /-- A directory with its entries. -/
  | directory (entries : List (String × Node))

namespace Node

/-- The entries of a directory; a file has none. -/
def entries : Node → List (String × Node)
  | file _ => []
  | directory entries => entries

/-- What is at a position. -/
def get? : List String → Node → Option Node
  | [], node => some node
  | name :: names, node => (node.entries.lookup name).bind (get? names)

/-- The entries of the directory at a position, if there is one. -/
def directory? (position : List String) (root : Node) : Option (List (String × Node)) :=
  match root.get? position with
  | some (directory entries) => some entries
  | _ => none

/-- The directory at a position; of one that has been removed, an empty directory is left. -/
def directoryAt (position : List String) (root : Node) : Node :=
  directory ((root.directory? position).getD [])

/-- Entries with one of them set. -/
def setEntry (name : String) (node : Node) : List (String × Node) → List (String × Node)
  | [] => [(name, node)]
  | (other, old) :: rest =>
    if other = name then (name, node) :: rest else (other, old) :: setEntry name node rest

/-- The tree with a node put at a position, where missing directories on the way are added.
Nothing can be put below a file. -/
def put? (new : Node) : List String → Node → Option Node
  | [], _ => some new
  | _ :: _, file _ => none
  | name :: names, directory entries =>
    (put? new names ((entries.lookup name).getD (directory []))).map fun child =>
      directory (setEntry name child entries)

mutual

/-- The positions of the files at and below a node. -/
def files : Node → List (List String)
  | file _ => [[]]
  | directory entries => filesIn entries

/-- The positions of the files in and below the entries of a directory. -/
def filesIn : List (String × Node) → List (List String)
  | [] => []
  | (name, node) :: rest => (files node).map (name :: ·) ++ filesIn rest

end

end Node

end ReturnPaths
