import ReturnPaths.Toml.Moment
import ReturnPaths.Toml.Number

/-!
# TOML documents

A document is a sequence of lines: a key with its value, or a header that tells which table the
keys after it belong to.

* `parse?` : the entries of a document, if it is well formed.
* `readValue` : a value, by recursion on how deeply lists and tables may still be nested in it.
* `readKey` : a key, in parts with dots between them.

The number of elements that are read is bounded by the length of the text.
-/

namespace ReturnPaths.Toml

/-- The number of parts that a key stays below, and so does the nesting of lists and tables. -/
def depthLimit : Nat := 80

/-- Whether a character may stand in a key without quotes. -/
def isBareChar (c : Char) : Bool :=
  c.isAlphanum || c == '_' || c == '-'

/-- Reads a part of a key. -/
def readKeyPart (text : List Char) : Option (String × List Char) :=
  match text with
  | '"' :: _ | '\'' :: _ => readLineText text
  | text =>
    match text.span isBareChar with
    | ([], _) => none
    | (part, rest) => some (String.ofList part, rest)

/-- Reads a key of at most so many parts: the parts before the last one, and the last one. -/
def readKey : (parts : Nat) → List Char → Option ((List String × String) × List Char)
  | 0, _ => none
  | parts + 1, text => do
    let (part, rest) ← readKeyPart (skipBlank text)
    match skipBlank rest with
    | '.' :: rest =>
      let ((path, key), rest) ← readKey parts rest
      return ((part :: path, key), rest)
    | rest => return (([], part), rest)

/-- Reads the key and the equals sign before a value. -/
def readKeyOfValue (text : List Char) : Option ((List String × String) × List Char) := do
  match ← readKey (depthLimit - 1) text with
  | (key, '=' :: rest) => return (key, skipBlank rest)
  | _ => none

/-! ### Values -/

/-- Reads a value that is no list and no table. -/
def readScalar (text : List Char) : Option (Value × List Char) :=
  match text with
  | '"' :: _ | '\'' :: _ => (readText text).map fun (value, rest) => (.text value, rest)
  | 't' :: 'r' :: 'u' :: 'e' :: rest => some (.flag true, rest)
  | 'f' :: 'a' :: 'l' :: 's' :: 'e' :: rest => some (.flag false, rest)
  | text => readMoment text <|> readNumber text

section

variable (readInner : List Char → Option (Value × List Char))

/-- Reads the elements of a list and its end; `read` are those so far, the last one first. -/
def readElements (read : List Value) (text : List Char) :
    (steps : Nat) → Option (Value × List Char)
  | 0 => none
  | steps + 1 => do
    match ← skipLines false text with
    | ']' :: rest => return (.list read.reverse, rest)
    | rest =>
      let (value, rest) ← readInner rest
      match ← skipLines false rest with
      | ',' :: rest => readElements (value :: read) rest steps
      | ']' :: rest => return (.list (value :: read).reverse, rest)
      | _ => none

/-- Reads the entries of a table in braces and its end, at least one entry. -/
def readEntries (table : Table) (text : List Char) : (steps : Nat) → Option (Value × List Char)
  | 0 => none
  | steps + 1 => do
    let ((path, key), rest) ← readKeyOfValue text
    let (value, rest) ← readInner rest
    let table ← table.define path key value
    match skipBlank rest with
    | ',' :: rest => readEntries table rest steps
    | '\x7d' :: rest => return (.table .closed table.entries, rest)
    | _ => none

/-- Reads a table after its opening brace. -/
def readInlineTable (text : List Char) (steps : Nat) : Option (Value × List Char) :=
  match skipBlank text with
  | '\x7d' :: rest => some (.table .closed [], rest)
  | rest => readEntries readInner { origin := .stated } rest steps

end

/-- Reads a value in which lists and tables are nested to at most this depth. -/
def readValue (steps : Nat) : (depth : Nat) → List Char → Option (Value × List Char)
  | 0, '[' :: _ | 0, '\x7b' :: _ => none
  | depth + 1, '[' :: rest => readElements (readValue steps depth) [] rest steps
  | depth + 1, '\x7b' :: rest => readInlineTable (readValue steps depth) rest steps
  | _, text => readScalar text

/-! ### Lines -/

/-- A document up to some line: its entries, and the table that keys now belong to. -/
structure State where
  /-- The whole document. -/
  document : Table := { origin := .stated }
  /-- The path of the table that the last header named. -/
  current : List String := []

/-- Reads a line with a key and its value. -/
def readAssignment (steps : Nat) (state : State) (text : List Char) :
    Option (State × List Char) := do
  let ((path, key), rest) ← readKeyOfValue text
  let (value, rest) ← readValue steps (depthLimit - 1) rest
  let document ← state.document.alter .implied (Table.define path key value) state.current
  return ({ state with document }, rest)

/-- Reads a header. -/
def readHeader (state : State) (text : List Char) : Option (State × List Char) := do
  match text with
  | '[' :: '[' :: text =>
    match ← readKey (depthLimit - 1) text with
    | ((path, key), ']' :: ']' :: rest) =>
      return (⟨← state.document.openElement path key, path ++ [key]⟩, rest)
    | _ => none
  | '[' :: text =>
    match ← readKey (depthLimit - 1) text with
    | ((path, key), ']' :: rest) =>
      return (⟨← state.document.openTable path key, path ++ [key]⟩, rest)
    | _ => none
  | _ => none

/-- What follows the end of a line, if only a comment stands before it. -/
def readLineEnd (text : List Char) : Option (List Char) :=
  match skipBlank text with
  | [] => some []
  | rest@('#' :: _) | rest@('\n' :: _) | rest@('\r' :: '\n' :: _) => skipLines false rest
  | _ => none

/-- Reads all lines from the start of one. -/
def readDocument (length : Nat) (state : State) (text : List Char) : (steps : Nat) → Option State
  | 0 => none
  | steps + 1 => do
    match ← skipLines false text with
    | [] => return state
    | text@('[' :: _) =>
      let (state, rest) ← readHeader state text
      readDocument length state (← readLineEnd rest) steps
    | text =>
      let (state, rest) ← readAssignment length state text
      readDocument length state (← readLineEnd rest) steps

/-- A text without the byte order mark that it may start with. -/
def dropMark : List Char → List Char
  | '\ufeff' :: rest => rest
  | text => text

/-- The entries of a document, if it is well formed. -/
def parse? (text : String) : Option (List (String × Value)) := do
  let text := dropMark text.toList
  let state ← readDocument (text.length + 1) {} text (text.length + 1)
  return state.document.entries

end ReturnPaths.Toml
