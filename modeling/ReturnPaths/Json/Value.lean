/-!
# Writing JSON

A small tree of JSON values, as far as this library writes them, and its two layouts.

* `Json.Value.compact` : no blanks at all.
* `Json.Value.pretty` : one member or element a line, indented by two blanks a level; an empty list
  or object stays on its line.

Members are written in the order of the tree.  In strings, quotes, backslashes and control
characters are escaped and all else stands for itself.  Both layouts are written in front of a
tail (`write`, `writePretty`), so that what is written first can be read off first.
-/

namespace ReturnPaths.Json

/-- A JSON value; numbers are natural. -/
inductive Value where
  /-- The null value. -/
  | null
  /-- A truth value. -/
  | flag (value : Bool)
  /-- A number. -/
  | natural (value : Nat)
  /-- A string. -/
  | text (value : String)
  /-- A list. -/
  | list (elements : List Value)
  /-- An object. -/
  | object (members : List (String × Value))

/-- A hexadecimal digit. -/
def hexDigit (n : Nat) : Char :=
  Nat.digitChar (n % 16)

/-- A character as it is written in a string. -/
def escape (c : Char) : List Char :=
  match c with
  | '"' => ['\\', '"']
  | '\\' => ['\\', '\\']
  | '\x08' => ['\\', 'b']
  | '\x0c' => ['\\', 'f']
  | '\n' => ['\\', 'n']
  | '\r' => ['\\', 'r']
  | '\t' => ['\\', 't']
  | c =>
    if c.toNat < 0x20 then ['\\', 'u', '0', '0', hexDigit (c.toNat / 16), hexDigit c.toNat]
    else [c]

/-- A string in quotes, in front of a tail. -/
def writeText (text : String) (tail : List Char) : List Char :=
  '"' :: (text.toList.flatMap escape ++ '"' :: tail)

namespace Value

mutual

/-- A value without blanks, in front of a tail. -/
def write (tail : List Char) : Value → List Char
  | null => "null".toList ++ tail
  | flag true => "true".toList ++ tail
  | flag false => "false".toList ++ tail
  | natural n => Nat.toDigits 10 n ++ tail
  | text s => writeText s tail
  | list [] => '[' :: ']' :: tail
  | list (v :: vs) => '[' :: v.write (writeElements tail vs)
  | object [] => '\x7b' :: '\x7d' :: tail
  | object ((k, v) :: ms) => '\x7b' :: writeText k (':' :: v.write (writeMembers tail ms))

/-- The elements after the first one and the end of a list. -/
def writeElements (tail : List Char) : List Value → List Char
  | [] => ']' :: tail
  | v :: vs => ',' :: v.write (writeElements tail vs)

/-- The members after the first one and the end of an object. -/
def writeMembers (tail : List Char) : List (String × Value) → List Char
  | [] => '\x7d' :: tail
  | (k, v) :: ms => ',' :: writeText k (':' :: v.write (writeMembers tail ms))

end

/-- A new line at some level of nesting. -/
def lineBreak (level : Nat) (tail : List Char) : List Char :=
  '\n' :: (List.replicate (2 * level) ' ' ++ tail)

mutual

/-- A value in lines that start at some level of nesting, in front of a tail. -/
def writePretty (level : Nat) (tail : List Char) : Value → List Char
  | list [] => '[' :: ']' :: tail
  | list (v :: vs) =>
    '[' :: lineBreak (level + 1)
      (v.writePretty (level + 1) (writePrettyElements level tail vs))
  | object [] => '\x7b' :: '\x7d' :: tail
  | object ((k, v) :: ms) =>
    '\x7b' :: lineBreak (level + 1)
      (writeText k (':' :: ' ' :: v.writePretty (level + 1) (writePrettyMembers level tail ms)))
  | null => write tail .null
  | flag b => write tail (.flag b)
  | natural n => write tail (.natural n)
  | text s => write tail (.text s)

/-- The elements after the first one and the end of a list at some level. -/
def writePrettyElements (level : Nat) (tail : List Char) : List Value → List Char
  | [] => lineBreak level (']' :: tail)
  | v :: vs =>
    ',' :: lineBreak (level + 1)
      (v.writePretty (level + 1) (writePrettyElements level tail vs))

/-- The members after the first one and the end of an object at some level. -/
def writePrettyMembers (level : Nat) (tail : List Char) : List (String × Value) → List Char
  | [] => lineBreak level ('\x7d' :: tail)
  | (k, v) :: ms =>
    ',' :: lineBreak (level + 1)
      (writeText k (':' :: ' ' :: v.writePretty (level + 1) (writePrettyMembers level tail ms)))

end

/-- The text of a value without blanks. -/
def compact (value : Value) : String :=
  String.ofList (value.write [])

/-- The text of a value with a line for each member and element. -/
def pretty (value : Value) : String :=
  String.ofList (value.writePretty 0 [])

end Value

end ReturnPaths.Json
