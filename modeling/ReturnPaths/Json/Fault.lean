import ReturnPaths.Text.Quoted
import ReturnPaths.Decimal.Shortest

/-!
# Why a JSON text is refused

Reading goes through the text once, from left to right, and stops at the first thing that is
wrong: the text may end too early, break the grammar, or be a JSON document that is not of the
expected form.  What is wrong is a `Reason`.  Where it was noticed is kept as what was left to read
(`Fault`), and turned into a line and a column of the whole text in the end (`Fault.locate`).

Lines count from 1.  A column is the number of bytes since the last line break, so a fault that is
noticed on a byte has the column of that byte counted from 1.
-/

namespace ReturnPaths.Json

/-- What was found instead of what was expected. -/
inductive Found where
  /-- The null value. -/
  | null
  /-- A truth value. -/
  | flag (value : Bool)
  /-- A number without fraction or exponent. -/
  | integer (value : Int)
  /-- Any other number. -/
  | float (negative : Bool) (magnitude : Binary64)
  /-- A string. -/
  | text (value : String)
  /-- A list. -/
  | list
  /-- An object. -/
  | object
  deriving DecidableEq, Repr

/-- How a message names what was found. -/
def Found.describe : Found → String
  | null => "null"
  | flag true => "boolean `true`"
  | flag false => "boolean `false`"
  | integer value => s!"integer `{value}`"
  | float negative magnitude => s!"floating point `{magnitude.render negative}`"
  | text value => s!"string {Text.quoted value}"
  | list => "sequence"
  | object => "map"

/-- Why a text is refused. -/
inductive Reason where
  /-- The text ends where a value or a member has to follow. -/
  | endInValue
  /-- The text ends in a list. -/
  | endInList
  /-- The text ends in an object. -/
  | endInObject
  /-- The text ends in a string. -/
  | endInString
  /-- No value starts like this. -/
  | expectedValue
  /-- A word other than `null`, `true` and `false`. -/
  | expectedWord
  /-- A key is not followed by a colon. -/
  | expectedColon
  /-- An element is followed neither by another nor by the end of the list. -/
  | expectedListEnd
  /-- A member is followed neither by another nor by the end of the object. -/
  | expectedObjectEnd
  /-- A member does not start with a string. -/
  | expectedKey
  /-- A comma with nothing after it. -/
  | trailingComma
  /-- Something follows what should be the last thing. -/
  | trailingText
  /-- No number is written like this. -/
  | invalidNumber
  /-- A number beyond the largest floating point number. -/
  | numberTooLarge
  /-- No escape is written like this. -/
  | invalidEscape
  /-- A control character in a string. -/
  | controlCharacter
  /-- The second half of a surrogate pair without the first, or a first half before no second. -/
  | loneSurrogate
  /-- The first half of a surrogate pair with no escape after it. -/
  | openSurrogate
  /-- Lists and objects are nested too deeply. -/
  | tooDeep
  /-- A value of another kind than expected. -/
  | wrongKind (found : Found) (expected : String)
  /-- A number out of the expected range. -/
  | outOfRange (found : Int) (expected : String)
  /-- A list that ends before the fields that must be given; it has this many elements. -/
  | tooShort (length : Nat) (expected : String)
  /-- A name that is none of the known ones. -/
  | unknownName (name : String) (known : List String)
  /-- A field that must be given is not. -/
  | missingField (name : String)
  /-- A field is given twice. -/
  | repeatedField (name : String)
  deriving DecidableEq, Repr

/-- The three classes of reasons. -/
inductive Category where
  /-- The text is no JSON document. -/
  | grammar
  /-- The document is not of the expected form. -/
  | form
  /-- The text ends too early. -/
  | incomplete
  deriving DecidableEq, Repr

namespace Reason

/-- The class of a reason. -/
def category : Reason → Category
  | endInValue | endInList | endInObject | endInString => .incomplete
  | wrongKind .. | outOfRange .. | tooShort .. | unknownName .. | missingField _
  | repeatedField _ => .form
  | _ => .grammar

/-- A name between backquotes. -/
def backquoted (name : String) : String :=
  "`" ++ name ++ "`"

/-- The wording of a reason. -/
def describe : Reason → String
  | endInValue => "EOF while parsing a value"
  | endInList => "EOF while parsing a list"
  | endInObject => "EOF while parsing an object"
  | endInString => "EOF while parsing a string"
  | expectedValue => "expected value"
  | expectedWord => "expected ident"
  | expectedColon => "expected `:`"
  | expectedListEnd => "expected `,` or `]`"
  | expectedObjectEnd => "expected `,` or `\x7d`"
  | expectedKey => "key must be a string"
  | trailingComma => "trailing comma"
  | trailingText => "trailing characters"
  | invalidNumber => "invalid number"
  | numberTooLarge => "number out of range"
  | invalidEscape => "invalid escape"
  | controlCharacter => "control character (\\u0000-\\u001F) found while parsing a string"
  | loneSurrogate => "lone leading surrogate in hex escape"
  | openSurrogate => "unexpected end of hex escape"
  | tooDeep => "recursion limit exceeded"
  | wrongKind found expected => s!"invalid type: {found.describe}, expected {expected}"
  | outOfRange found expected => s!"invalid value: integer `{found}`, expected {expected}"
  | tooShort length expected => s!"invalid length {length}, expected {expected}"
  | unknownName name known =>
    s!"unknown variant {backquoted name}, expected one of "
      ++ ", ".intercalate (known.map backquoted)
  | missingField name => s!"missing field {backquoted name}"
  | repeatedField name => s!"duplicate field {backquoted name}"

end Reason

/-- A reason with the place where it was noticed. -/
structure Fault where
  /-- What is wrong. -/
  reason : Reason
  /-- What was left to read. -/
  rest : List Char
  /-- How many bytes of it had been looked at. -/
  ahead : Nat
  deriving DecidableEq, Repr

namespace Fault

/-- A fault noticed after everything up to here was read. -/
def before (rest : List Char) (reason : Reason) : Fault :=
  ⟨reason, rest, 0⟩

/-- A fault noticed on the next byte, or at the end of the text. -/
def here (rest : List Char) (reason : Reason) : Fault :=
  ⟨reason, rest, 1⟩

end Fault

/-- The number of bytes of a text. -/
def byteCount (text : List Char) : Nat :=
  text.foldl (fun count c => count + c.utf8Size) 0

/-- The line and column reached after a number of bytes, from a line and column. -/
def advance (line column : Nat) : Nat → List Char → Nat × Nat
  | _, [] => (line, column)
  | bytes, c :: cs =>
    if bytes < c.utf8Size then (line, column + bytes)
    else if c = '\n' then advance (line + 1) 0 (bytes - c.utf8Size) cs
    else advance line (column + c.utf8Size) (bytes - c.utf8Size) cs

/-- A refused text: the reason, and the line and column of the text where it was noticed. -/
structure Refusal where
  /-- What is wrong. -/
  reason : Reason
  /-- The line, counted from 1. -/
  line : Nat
  /-- The column, in bytes. -/
  column : Nat
  deriving DecidableEq, Repr

/-- The place of a fault in the whole text. -/
def Fault.locate (text : List Char) (fault : Fault) : Refusal :=
  let (line, column) := advance 1 0 (byteCount text - byteCount fault.rest + fault.ahead) text
  ⟨fault.reason, line, column⟩

/-- The message for a refused text. -/
def Refusal.message (refusal : Refusal) : String :=
  s!"{refusal.reason.describe} at line {refusal.line} column {refusal.column}"

end ReturnPaths.Json
