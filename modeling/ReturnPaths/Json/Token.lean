import ReturnPaths.Json.Text
import ReturnPaths.Json.Number

/-!
# Blanks, words and punctuation of JSON

The small readers that all forms of values share.  Each gives what is left to read.

* `skipBlank` : passes over blanks.
* `readWord` : the rest of one of the three words.
* `readColon` : the colon between a key and its value.
* `mismatch` : the fault of finding a value of another kind than expected.
-/

namespace ReturnPaths.Json

/-- The four blanks of JSON. -/
def isBlank (c : Char) : Bool :=
  c == ' ' || c == '\t' || c == '\n' || c == '\r'

/-- Passes over blanks. -/
def skipBlank (text : List Char) : List Char :=
  text.dropWhile isBlank

/-- Reads the given letters. -/
def readWord : List Char → List Char → Except Fault (List Char)
  | [], rest => .ok rest
  | _ :: _, [] => .error (.before [] .endInValue)
  | letter :: letters, c :: rest =>
    if c = letter then readWord letters rest else .error (.here (c :: rest) .expectedWord)

/-- Reads the colon after a key. -/
def readColon (text : List Char) : Except Fault (List Char) :=
  match skipBlank text with
  | ':' :: rest => .ok rest
  | [] => .error (.here [] .endInObject)
  | rest => .error (.here rest .expectedColon)

/-- The fault of finding the value that starts here where another kind is expected.  Numbers,
strings and words are read to the end first; lists and objects are not entered. -/
def mismatch (expected : String) (text : List Char) : Fault :=
  let wrong (found : Found) (rest : List Char) : Fault :=
    .before rest (.wrongKind found expected)
  let word (letters : String) (found : Found) (rest : List Char) : Fault :=
    match readWord letters.toList rest with
    | .ok rest => wrong found rest
    | .error fault => fault
  let number (positive : Bool) (rest : List Char) : Fault :=
    match readNumber positive rest with
    | .ok (.natural n, rest) => wrong (.integer n) rest
    | .ok (.negative n, rest) => wrong (.integer (-n)) rest
    | .ok (.float negative magnitude, rest) => wrong (.float negative magnitude) rest
    | .error fault => fault
  match text with
  | 'n' :: rest => word "ull" .null rest
  | 't' :: rest => word "rue" (.flag true) rest
  | 'f' :: rest => word "alse" (.flag false) rest
  | '-' :: rest => number false rest
  | '"' :: rest =>
    match readText rest with
    | .ok (found, rest) => wrong (.text found) rest
    | .error fault => fault
  | '[' :: _ => wrong .list text
  | '\x7b' :: _ => wrong .object text
  | [] => .here [] .expectedValue
  | c :: _ => if c.isDigit then number true text else .here text .expectedValue

end ReturnPaths.Json
