import ReturnPaths.FlowUnit.Layout
import ReturnPaths.Json.Skip

/-!
# Reading flow units

A record is written either as an object with its fields in any order, or as a list of its fields in
the order of the layout with some of the last ones left out.  Members of an object that are no
fields are passed over.  A name is written as a string, or as an object with the name as its only
key and null below it.

Values are read as the text goes by: the first thing that is wrong stops the reading, be it the
grammar or the layout.  Lists and objects may be nested to a given depth, not counting those that
are passed over; reading is by recursion on this depth (`readShape`).  The number of steps that the
readers of members and elements may take is bounded by the length of the text.

* `readWhole` : a whole text as a value of some shape.
* `FlowUnit.ofJson` : a whole text as a flow unit.
-/

namespace ReturnPaths

open Json

/-- What a reader gives: a value and what is left to read. -/
abbrev Parsed (α : Type) := α × List Char

/-- A reader of values from the front of a text. -/
abbrev Reader (α : Type) := List Char → Except Fault (Parsed α)

/-- How deeply lists and objects may be nested. -/
def depthLimit : Nat := 127

/-! ### Scalars -/

/-- Reads a string; `expected` names what it is for. -/
def readString (expected : String) (text : List Char) : Except Fault (Parsed String) :=
  match skipBlank text with
  | '"' :: rest => readText rest
  | [] => .error (.here [] .endInValue)
  | rest => .error (mismatch expected rest)

/-- Reads a truth value. -/
def readFlag (text : List Char) : Except Fault (Parsed Bool) :=
  match skipBlank text with
  | 't' :: rest => (readWord "rue".toList rest).map (true, ·)
  | 'f' :: rest => (readWord "alse".toList rest).map (false, ·)
  | [] => .error (.here [] .endInValue)
  | rest => .error (mismatch "a boolean" rest)

/-- The number below a limit that was read, or the fault of reading another one. -/
def boundedNatural (expected : String) (limit : Nat) :
    Parsed Number → Except Fault (Parsed Nat)
  | (.natural n, rest) =>
    if n < limit then .ok (n, rest) else .error (.before rest (.outOfRange n expected))
  | (.negative n, rest) => .error (.before rest (.outOfRange (-n) expected))
  | (.float negative magnitude, rest) =>
    .error (.before rest (.wrongKind (.float negative magnitude) expected))

/-- Reads a natural number below a limit. -/
def readNatural (expected : String) (limit : Nat) (text : List Char) : Except Fault (Parsed Nat) :=
  match skipBlank text with
  | '-' :: rest => readNumber false rest >>= boundedNatural expected limit
  | [] => .error (.here [] .endInValue)
  | c :: rest =>
    if c.isDigit then readNumber true (c :: rest) >>= boundedNatural expected limit
    else .error (mismatch expected (c :: rest))

/-- Reads the null below a name. -/
def readNull (text : List Char) : Except Fault (List Char) :=
  match skipBlank text with
  | 'n' :: rest => readWord "ull".toList rest
  | [] => .error (.here [] .endInValue)
  | rest => .error (mismatch "unit" rest)

/-- Reads one of the given names after its opening quote. -/
def readKnown {α : Type} (names : List (String × α)) (text : List Char) :
    Except Fault (Parsed α) := do
  let (name, rest) ← readText text
  match names.lookup name with
  | some value => .ok (value, rest)
  | none => .error (.before rest (.unknownName name (names.map (·.1))))

/-- Reads one of the given names. -/
def readName {α : Type} (depth : Nat) (names : List (String × α)) (text : List Char) :
    Except Fault (Parsed α) :=
  match skipBlank text with
  | '"' :: rest => readKnown names rest
  | '\x7b' :: rest =>
    if depth = 0 then .error (.here ('\x7b' :: rest) .tooDeep)
    else match skipBlank rest with
      | '"' :: rest => do
        let (value, rest) ← readKnown names rest
        let rest ← readColon rest
        let rest ← readNull rest
        match skipBlank rest with
        | '\x7d' :: rest => .ok (value, rest)
        | [] => .error (.before [] .endInObject)
        | rest => .error (.before rest .expectedValue)
      | '\x7d' :: rest => .error (.here ('\x7d' :: rest) .expectedValue)
      | [] => .error (.here [] .endInObject)
      | rest => .error (.here rest .expectedKey)
  | [] => .error (.here [] .endInValue)
  | rest => .error (.here rest .expectedValue)

/-- Reads a scalar. -/
def readScalar (depth : Nat) (text : List Char) :
    (scalar : Scalar) → Except Fault (Parsed scalar.Value)
  | .text => readString "a string" text
  | .path => (readString "path string" text).map fun (path, rest) => (⟨path⟩, rest)
  | .word32 =>
    (readNatural "u32" UInt32.size text).map fun (n, rest) => (UInt32.ofNat n, rest)
  | .word64 =>
    (readNatural "usize" UInt64.size text).map fun (n, rest) => (UInt64.ofNat n, rest)
  | .flag => readFlag text
  | .subjectKind => readName depth SubjectKind.names text
  | .typeKind => readName depth TypeKind.names text
  | .instruction => readName depth Instruction.names text

/-! ### Lists and objects -/

/-- Where the next element of a list starts, if there is one; else where the list ends. -/
def nextElement (first : Bool) (text : List Char) : Except Fault (Parsed Bool) :=
  match skipBlank text with
  | ']' :: rest => .ok (false, ']' :: rest)
  | [] => .error (.here [] .endInList)
  | ',' :: rest =>
    if first then .ok (true, ',' :: rest)
    else match skipBlank rest with
      | ']' :: rest => .error (.here (']' :: rest) .trailingComma)
      | [] => .error (.here [] .endInValue)
      | rest => .ok (true, rest)
  | rest => if first then .ok (true, rest) else .error (.here rest .expectedListEnd)

/-- Reads the end of a list after which nothing else is wanted. -/
def readListEnd (text : List Char) : Except Fault (List Char) :=
  match skipBlank text with
  | ']' :: rest => .ok rest
  | [] => .error (.here [] .endInList)
  | ',' :: rest =>
    match skipBlank rest with
    | ']' :: rest => .error (.here (']' :: rest) .trailingComma)
    | rest => .error (.here rest .trailingText)
  | rest => .error (.here rest .trailingText)

/-- Reads the elements of a list up to its end; `read` are those so far, the last one first. -/
def readElements {α : Type} (element : Reader α) (read : List α) (text : List Char) :
    (steps : Nat) → Except Fault (Parsed (List α))
  | 0 => .error (.here [] .endInList)
  | steps + 1 => do
    let (more, rest) ← nextElement read.isEmpty text
    if more then
      let (value, rest) ← element rest
      readElements element (value :: read) rest steps
    else
      let rest ← readListEnd rest
      .ok (read.reverse, rest)

/-- Reads the next key of an object, if there is one; else passes over the end of the object. -/
def nextKey (first : Bool) (text : List Char) : Except Fault (Parsed (Option String)) :=
  let key : Reader (Option String) := fun rest =>
    (readText rest).map fun (name, rest) => (some name, rest)
  match skipBlank text with
  | '\x7d' :: rest => .ok (none, rest)
  | [] => .error (.here [] .endInObject)
  | '"' :: rest =>
    if first then key rest else .error (.here ('"' :: rest) .expectedObjectEnd)
  | ',' :: rest =>
    if first then .error (.here (',' :: rest) .expectedKey)
    else match skipBlank rest with
      | '"' :: rest => key rest
      | '\x7d' :: rest => .error (.here ('\x7d' :: rest) .trailingComma)
      | [] => .error (.here [] .endInValue)
      | rest => .error (.here rest .expectedKey)
  | rest => .error (.here rest (if first then .expectedKey else .expectedObjectEnd))

/-- The fault of a field that is given again; it is noticed on the token after its key. -/
def repeated (name : String) (text : List Char) : Fault :=
  match skipBlank text with
  | '\x7d' :: rest => .before rest (.repeatedField name)
  | rest => .before rest (.repeatedField name)

/-! ### Records -/

section

variable (steps : Nat) (readInner : (shape : Shape) → Reader shape.Value)

/-- Reads what a field holds. -/
def readSlot (text : List Char) : (slot : Slot) → Except Fault (Parsed slot.Value)
  | .given shape => readInner shape text
  | .nullable shape =>
    match skipBlank text with
    | 'n' :: rest => (readWord "ull".toList rest).map (none, ·)
    | rest => (readInner shape rest).map fun (value, rest) => (some value, rest)

/-- Reads the value of the member with this key into a draft, or passes over it. -/
def readMember (key : String) (text : List Char) :
    (fields : List Field) → Draft fields → Except Fault (Parsed (Draft fields))
  | [], () => do
    let rest ← readColon text
    let rest ← skipValue steps rest
    .ok ((), rest)
  | field :: fields, (held, draft) => do
    if field.name = key then
      if held.isSome then .error (repeated key text)
      else
        let rest ← readColon text
        let (value, rest) ← readSlot readInner rest field.slot
        .ok ((some value, draft), rest)
    else
      let (draft, rest) ← readMember key text fields draft
      .ok ((held, draft), rest)

/-- Reads the members of an object and its end into a draft. -/
def readMembers (fields : List Field) (first : Bool) (draft : Draft fields) (text : List Char) :
    (fuel : Nat) → Except Fault (Parsed (Draft fields))
  | 0 => .error (.here [] .endInObject)
  | fuel + 1 => do
    match ← nextKey first text with
    | (none, rest) => .ok (draft, rest)
    | (some key, rest) =>
      let (draft, rest) ← readMember steps readInner key rest fields draft
      readMembers fields false draft rest fuel

/-- Reads the values of fields from a list, up to its end or to the last field.  `read` fields
came before these. -/
def readPositional (expected : String) (read : Nat) (text : List Char) :
    (fields : List Field) → Except Fault (Parsed (Values fields))
  | [] => .ok ((), text)
  | field :: fields => do
    let (more, rest) ← nextElement (read == 0) text
    if more then
      let (value, rest) ← readSlot readInner rest field.slot
      let (values, rest) ← readPositional expected (read + 1) rest fields
      .ok ((value, values), rest)
    else match Draft.complete (field :: fields) (Draft.blank _) with
      | .ok values => .ok (values, rest)
      | .error _ => .error (.before (rest.drop 1) (.tooShort read expected))

/-- Reads a record. -/
def readRecord (form : Form) (text : List Char) : Except Fault (Parsed form.Value) :=
  match skipBlank text with
  | '[' :: rest => do
    let (values, rest) ← readPositional readInner form.titleWithSize 0 rest form.fields
    let rest ← readListEnd rest
    .ok (form.build values, rest)
  | '\x7b' :: rest => do
    let (draft, rest) ←
      readMembers steps readInner form.fields true (Draft.blank form.fields) rest (steps + 1)
    match Draft.complete form.fields draft with
    | .ok values => .ok (form.build values, rest)
    | .error name => .error (.before rest (.missingField name))
  | [] => .error (.here [] .endInValue)
  | rest => .error (mismatch form.title rest)

/-- Reads a list of records. -/
def readRecords (form : Form) (text : List Char) : Except Fault (Parsed (List form.Value)) :=
  match skipBlank text with
  | '[' :: rest => readElements (readInner (.record form)) [] rest (steps + 1)
  | [] => .error (.here [] .endInValue)
  | rest => .error (mismatch "a sequence" rest)

end

/-- Refuses a list or object where no further nesting is allowed; `expected` names what should
be here, and `allowed` tells the brackets it may start with. -/
def readTooDeep {α : Type} (expected : String) (allowed : Char → Bool) (text : List Char) :
    Except Fault (Parsed α) :=
  match skipBlank text with
  | [] => .error (.here [] .endInValue)
  | c :: rest =>
    .error (if allowed c then .here (c :: rest) .tooDeep else mismatch expected (c :: rest))

/-- Reads a value of some shape whose lists and objects are nested to at most this depth. -/
def readShape (steps : Nat) : (depth : Nat) → (shape : Shape) → Reader shape.Value
  | depth, .scalar scalar, text => readScalar depth text scalar
  | 0, .record form, text => readTooDeep form.title (fun c => c == '[' || c == '\x7b') text
  | 0, .records _, text => readTooDeep "a sequence" (· == '[') text
  | depth + 1, .record form, text => readRecord steps (readShape steps depth) form text
  | depth + 1, .records form, text => readRecords steps (readShape steps depth) form text

/-- A whole text as a value of some shape. -/
def readWhole (shape : Shape) (text : String) : Except Refusal shape.Value :=
  let chars := text.toList
  let result := do
    let (value, rest) ← readShape chars.length depthLimit shape chars
    match skipBlank rest with
    | [] => .ok value
    | rest => .error (Fault.here rest .trailingText)
  result.mapError (Fault.locate chars)

/-- A whole text as a flow unit. -/
def FlowUnit.ofJson (text : String) : Except Refusal FlowUnit :=
  readWhole (.record .unit) text

/-- A whole text as a body. -/
def Body.ofJson (text : String) : Except Refusal Body :=
  readWhole (.record .body) text

/-- A whole text as a syntax element. -/
def Element.ofJson (text : String) : Except Refusal Element :=
  readWhole (.record .element) text

/-- A whole text as an exit instruction. -/
def Instruction.ofJson (text : String) : Except Refusal Instruction :=
  readWhole (.scalar .instruction) text

end ReturnPaths
