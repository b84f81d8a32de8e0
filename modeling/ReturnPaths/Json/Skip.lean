import ReturnPaths.Json.Token

/-!
# Passing over JSON values

`skipValue` passes over one value that nobody looks at.  The value has to be well formed, but
there is no limit on its nesting, on the size of its numbers or on surrogates in its strings.

The walk keeps the open lists and objects, innermost first (`skipFrom`).  It takes one step for
each value, comma and bracket, so the length of the text bounds the number of steps.
-/

namespace ReturnPaths.Json

/-- What encloses a value. -/
inductive Bracket where
  /-- A list. -/
  | list
  /-- An object. -/
  | object
  deriving DecidableEq, Repr

/-- The fault of a text that ends inside a bracket. -/
def Bracket.atEnd : Bracket → Fault
  | list => .here [] .endInList
  | object => .here [] .endInObject

/-- Passes over a key and its colon. -/
def skipKey (text : List Char) : Except Fault (List Char) :=
  match skipBlank text with
  | '"' :: rest => skipText rest >>= readColon
  | [] => .error (.here [] .endInObject)
  | rest => .error (.here rest .expectedKey)

/-- Passes over a word, a number or a string. -/
def skipScalar (text : List Char) : Except Fault (List Char) :=
  match text with
  | 'n' :: rest => readWord "ull".toList rest
  | 't' :: rest => readWord "rue".toList rest
  | 'f' :: rest => readWord "alse".toList rest
  | '-' :: rest => skipNumber rest
  | '"' :: rest => skipText rest
  | [] => .error (.here [] .endInValue)
  | c :: _ => if c.isDigit then skipNumber text else .error (.here text .expectedValue)

/-- What comes next on the walk over a value. -/
inductive SkipState where
  /-- A value. -/
  | value
  /-- What follows a value in the innermost bracket. -/
  | after
  deriving DecidableEq, Repr

/-- Goes on with a walk inside the open brackets, innermost first. -/
def skipFrom (state : SkipState) (brackets : List Bracket) (text : List Char) :
    (steps : Nat) → Except Fault (List Char)
  | 0 => .error (.here [] .endInValue)
  | steps + 1 =>
    match state, brackets with
    | .value, brackets =>
      match skipBlank text with
      | '[' :: rest =>
        match skipBlank rest with
        | ']' :: rest => skipFrom .after brackets rest steps
        | [] => .error Bracket.list.atEnd
        | rest => skipFrom .value (.list :: brackets) rest steps
      | '\x7b' :: rest =>
        match skipBlank rest with
        | '\x7d' :: rest => skipFrom .after brackets rest steps
        | rest => skipKey rest >>= fun rest => skipFrom .value (.object :: brackets) rest steps
      | text => skipScalar text >>= fun rest => skipFrom .after brackets rest steps
    | .after, [] => .ok text
    | .after, .list :: outer =>
      match skipBlank text with
      | ',' :: rest => skipFrom .value brackets rest steps
      | ']' :: rest => skipFrom .after outer rest steps
      | [] => .error Bracket.list.atEnd
      | rest => .error (.here rest .expectedListEnd)
    | .after, .object :: outer =>
      match skipBlank text with
      | ',' :: rest => skipKey rest >>= fun rest => skipFrom .value brackets rest steps
      | '\x7d' :: rest => skipFrom .after outer rest steps
      | [] => .error Bracket.object.atEnd
      | rest => .error (.here rest .expectedObjectEnd)

/-- What follows the value that starts here; `steps` is at least the length of the text. -/
def skipValue (steps : Nat) (text : List Char) : Except Fault (List Char) :=
  skipFrom .value [] text (steps + 1)

end ReturnPaths.Json
