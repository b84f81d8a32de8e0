import ReturnPaths.Text.Digits

/-!
# Strings and blanks of TOML

There are four kinds of strings: between double quotes, where a backslash starts an escape, or
between single quotes, where nothing is escaped; and each between single marks on one line, or
between triple marks on several lines.

* `readText` : the string at the start of a text, of any of the four kinds.
* `skipBlank` : passes over blanks within a line.
* `skipLines` : passes over blanks, line breaks and comments.

A line break is a line feed, with or without a carriage return before it.  Control characters other
than the tab stand nowhere, not even in comments.
-/

namespace ReturnPaths.Toml

open Text (hexValue?)

/-- The part of a text that was read, given what is left of it. -/
def written (text rest : List Char) : String :=
  String.ofList (text.take (text.length - rest.length))

/-- Whether a character may stand in strings and comments. -/
def isTextChar (c : Char) : Bool :=
  c == '\t' || (' ' ≤ c && c != '\x7f')

/-- The two blanks within a line. -/
def isBlank (c : Char) : Bool :=
  c == ' ' || c == '\t'

/-- Passes over blanks. -/
def skipBlank (text : List Char) : List Char :=
  text.dropWhile isBlank

/-- Passes over blanks, line breaks and comments; the flag tells whether a comment is going on. -/
def skipLines : (comment : Bool) → List Char → Option (List Char)
  | _, [] => some []
  | _, '\n' :: rest => skipLines false rest
  | _, '\r' :: '\n' :: rest => skipLines false rest
  | true, c :: rest => if isTextChar c then skipLines true rest else none
  | false, c :: rest =>
    if c = '#' then skipLines true rest
    else if isBlank c then skipLines false rest
    else some (c :: rest)

/-- A kind of strings. -/
structure Style where
  /-- The quotation mark. -/
  mark : Char
  /-- Whether a backslash starts an escape. -/
  escapes : Bool
  /-- Whether the string goes over several lines, between triple marks. -/
  multiline : Bool
  deriving DecidableEq, Repr

/-- The character a one-letter escape stands for. -/
def shortEscape? : Char → Option Char
  | '"' => some '"'
  | '\\' => some '\\'
  | 'b' => some '\x08'
  | 'f' => some '\x0c'
  | 'n' => some '\n'
  | 'r' => some '\r'
  | 't' => some '\t'
  | _ => none

/-- The character with a code point; surrogates and numbers beyond the last one have none. -/
def charOf? (code : Nat) : Option Char :=
  if code.isValidChar then some (Char.ofNat code) else none

/-- Where a reader of strings stands. -/
inductive TextState where
  /-- Outside an escape. -/
  | plain
  /-- After a backslash. -/
  | escape
  /-- Within an escape with a code point: the digits still to come, and the value of those read. -/
  | code (left value : Nat)
  /-- After a backslash that hides a line break and the blanks around it; the flag tells whether
  the line break was already seen. -/
  | fold (broken : Bool)
  deriving DecidableEq, Repr

/-- The state after a hidden line break: blanks and further line breaks are hidden too. -/
def foldState : List Char → TextState
  | ' ' :: _ | '\t' :: _ | '\n' :: _ | '\r' :: '\n' :: _ => .fold true
  | _ => .plain

/-- The state after a character that follows a backslash and may lead up to a hidden line break. -/
def foldStart? (c : Char) (rest : List Char) : Option TextState :=
  if c = '\n' then some (foldState rest)
  else if isBlank c || (c == '\r' && rest.head? == some '\n') then some (.fold false)
  else none

/-- The end of a string of several lines, after the first of its three closing marks: what follows
it and the marks of the string in front of it, two at the most. -/
def closing? (mark : Char) : List Char → Option (List Char × List Char)
  | a :: b :: rest =>
    if a = mark ∧ b = mark then
      let marks := (rest.take 2).takeWhile (· == mark)
      some (marks, rest.drop marks.length)
    else none
  | _ => none

/-- Reads on from some state; `read` are the characters so far, the last one first. -/
def readTextFrom (style : Style) (read : List Char) :
    TextState → List Char → Option (String × List Char)
  | _, [] => none
  | .plain, c :: rest =>
    if c = style.mark then
      if style.multiline then
        match closing? style.mark rest with
        | some (marks, after) => some (String.ofList (marks ++ read).reverse, after)
        | none => readTextFrom style (c :: read) .plain rest
      else some (String.ofList read.reverse, rest)
    else if c = '\\' ∧ style.escapes then readTextFrom style read .escape rest
    else if isTextChar c then readTextFrom style (c :: read) .plain rest
    else if style.multiline ∧ c = '\n' then readTextFrom style (c :: read) .plain rest
    else if style.multiline ∧ c = '\r' ∧ rest.head? = some '\n' then
      readTextFrom style read .plain rest
    else none
  | .escape, c :: rest =>
    if c = 'u' then readTextFrom style read (.code 4 0) rest
    else if c = 'U' then readTextFrom style read (.code 8 0) rest
    else match shortEscape? c with
      | some escaped => readTextFrom style (escaped :: read) .plain rest
      | none =>
        match if style.multiline then foldStart? c rest else none with
        | some state => readTextFrom style read state rest
        | none => none
  | .code left value, c :: rest =>
    match hexValue? c with
    | none => none
    | some digit =>
      if left ≤ 1 then
        match charOf? (16 * value + digit) with
        | some unit => readTextFrom style (unit :: read) .plain rest
        | none => none
      else readTextFrom style read (.code (left - 1) (16 * value + digit)) rest
  | .fold false, c :: rest =>
    match foldStart? c rest with
    | some state => readTextFrom style read state rest
    | none => none
  | .fold true, _ :: rest => readTextFrom style read (foldState rest) rest

/-- Leaves out a line break at the start of a text. -/
def dropBreak : List Char → List Char
  | '\n' :: rest => rest
  | '\r' :: '\n' :: rest => rest
  | rest => rest

/-- Reads a string on one line, starting at its quotation mark. -/
def readLineText : List Char → Option (String × List Char)
  | '"' :: rest => readTextFrom ⟨'"', true, false⟩ [] .plain rest
  | '\'' :: rest => readTextFrom ⟨'\'', false, false⟩ [] .plain rest
  | _ => none

/-- Reads a string of any kind, starting at its first quotation mark. -/
def readText : List Char → Option (String × List Char)
  | '"' :: '"' :: '"' :: rest => readTextFrom ⟨'"', true, true⟩ [] .plain (dropBreak rest)
  | '\'' :: '\'' :: '\'' :: rest => readTextFrom ⟨'\'', false, true⟩ [] .plain (dropBreak rest)
  | text => readLineText text

end ReturnPaths.Toml
