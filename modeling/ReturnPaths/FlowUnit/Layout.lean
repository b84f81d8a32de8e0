import ReturnPaths.FlowUnit.Basic

/-!
# The layout of flow units in JSON

Flow units, and all that is nested in them, are records.  The layout says, as plain data, which
fields each form of record has, in which order, what each of them holds and what stands for it when
it is left out.  Reading follows the layout and knows nothing else about the forms.

* `Form` : the forms of records, `Form.fields` their fields and `Form.Value` the type they denote.
* `Shape` and `Slot` : what a value is made of, and whether null may stand for no value.
* `Values` : values for a list of fields, and `Form.build` the record made of them.
-/

namespace ReturnPaths

/-- Values that are not made of other values. -/
inductive Scalar where
  /-- A string. -/
  | text
  /-- A string that is a path. -/
  | path
  /-- A number of 32 bits. -/
  | word32
  /-- A number of 64 bits. -/
  | word64
  /-- A truth value. -/
  | flag
  /-- The name of a kind of subject. -/
  | subjectKind
  /-- The name of a kind of type. -/
  | typeKind
  /-- The name of an exit instruction. -/
  | instruction
  deriving DecidableEq, Repr

/-- The forms of records. -/
inductive Form where
  /-- A flow unit. -/
  | unit
  /-- A subject. -/
  | subject
  /-- A return type. -/
  | typeInfo
  /-- A body. -/
  | body
  /-- An exit. -/
  | exit
  /-- A syntax element. -/
  | element
  /-- A range of a source file. -/
  | range
  /-- A position in a source file. -/
  | location
  deriving DecidableEq, Repr

/-- What a value is made of. -/
inductive Shape where
  /-- A scalar. -/
  | scalar (scalar : Scalar)
  /-- A record. -/
  | record (form : Form)
  /-- A list of records. -/
  | records (form : Form)
  deriving DecidableEq, Repr

/-- What a field holds. -/
inductive Slot where
  /-- A value. -/
  | given (shape : Shape)
  /-- A value, or null for none. -/
  | nullable (shape : Shape)
  deriving DecidableEq, Repr

/-- The type of a scalar. -/
abbrev Scalar.Value : Scalar → Type
  | text => String
  | path => Path
  | word32 => UInt32
  | word64 => UInt64
  | flag => Bool
  | subjectKind => SubjectKind
  | typeKind => TypeKind
  | instruction => Instruction

/-- The type that a form of records denotes. -/
abbrev Form.Value : Form → Type
  | unit => FlowUnit
  | subject => Subject
  | typeInfo => TypeInfo
  | body => Body
  | exit => Exit
  | element => Element
  | range => TextRange
  | location => Location

/-- The type of the values of a shape. -/
abbrev Shape.Value : Shape → Type
  | scalar s => s.Value
  | record form => form.Value
  | records form => List form.Value

/-- The type of what a field holds. -/
abbrev Slot.Value : Slot → Type
  | given shape => shape.Value
  | nullable shape => Option shape.Value

/-- A field of a record. -/
structure Field where
  /-- The key of the field. -/
  name : String
  /-- What it holds. -/
  slot : Slot
  /-- What stands for it when it is left out; without this it has to be given. -/
  default : Option slot.Value

/-- The names of the kinds of subjects. -/
def SubjectKind.names : List (String × SubjectKind) :=
  [("method", .method), ("closure", .closure), ("other", .other)]

/-- The names of the kinds of types. -/
def TypeKind.names : List (String × TypeKind) :=
  [("void", .void), ("primitive", .primitive), ("class", .concrete),
   ("type_parameter", .typeParameter), ("unresolved", .unresolved)]

/-- The names of the exit instructions. -/
def Instruction.names : List (String × Instruction) :=
  [("return", .explicitReturn), ("maybe_return", .maybeReturn), ("throw", .raise),
   ("fall_through", .fallThrough)]

namespace Form

/-- The fields of a form, in order; those that have to be given come first. -/
abbrev fields : Form → List Field
  | unit =>
    [⟨"file", .given (.scalar .path), none⟩,
     ⟨"subjects", .given (.records .subject), some []⟩]
  | subject =>
    [⟨"name", .given (.scalar .text), none⟩,
     ⟨"kind", .given (.scalar .subjectKind), none⟩,
     ⟨"declared", .given (.scalar .flag), some false⟩,
     ⟨"return_type", .nullable (.record .typeInfo), some none⟩,
     ⟨"body", .nullable (.record .body), some none⟩,
     ⟨"closures", .given (.records .subject), some []⟩]
  | typeInfo =>
    [⟨"name", .given (.scalar .text), none⟩,
     ⟨"kind", .given (.scalar .typeKind), none⟩]
  | body =>
    [⟨"exits", .given (.records .exit), some []⟩,
     ⟨"last_child", .nullable (.record .element), some none⟩]
  | exit =>
    [⟨"instruction", .given (.scalar .instruction), none⟩,
     ⟨"value", .nullable (.scalar .text), some none⟩,
     ⟨"may_return_value", .given (.scalar .flag), some false⟩]
  | element =>
    [⟨"range", .given (.record .range), none⟩,
     ⟨"location", .given (.record .location), some .start⟩,
     ⟨"valid", .given (.scalar .flag), some true⟩,
     ⟨"physical", .given (.scalar .flag), some true⟩]
  | range =>
    [⟨"start", .given (.scalar .word32), none⟩,
     ⟨"end", .given (.scalar .word32), none⟩]
  | location =>
    [⟨"line", .given (.scalar .word64), none⟩,
     ⟨"column", .given (.scalar .word64), none⟩]

/-- How messages name a form. -/
def title : Form → String
  | unit => "struct FlowUnit"
  | subject => "struct SubjectNode"
  | typeInfo => "struct TypeInfo"
  | body => "struct BodyNode"
  | exit => "struct ExitNode"
  | element => "struct ElementNode"
  | range => "struct TextRange"
  | location => "struct Location"

/-- How messages name a form with the number of its fields. -/
def titleWithSize (form : Form) : String :=
  s!"{form.title} with {form.fields.length} elements"

end Form

/-- Values for a list of fields. -/
abbrev Values : List Field → Type
  | [] => Unit
  | field :: fields => field.slot.Value × Values fields

/-- Values for some of a list of fields. -/
abbrev Draft : List Field → Type
  | [] => Unit
  | field :: fields => Option field.slot.Value × Draft fields

/-- The draft with no value at all. -/
def Draft.blank : (fields : List Field) → Draft fields
  | [] => ()
  | _ :: fields => (none, blank fields)

/-- Fills a draft up with what stands for the fields left out; if some field has to be given, the
name of the first one that was not. -/
def Draft.complete : (fields : List Field) → Draft fields → Except String (Values fields)
  | [], () => .ok ()
  | field :: fields, (value, draft) =>
    match value <|> field.default with
    | none => .error field.name
    | some value => (complete fields draft).map fun values => (value, values)

/-- The record of a form that is made of the values of its fields. -/
def Form.build : (form : Form) → Values form.fields → form.Value
  | .unit, (file, subjects, ()) => { file, subjects }
  | .subject, (name, kind, declared, type, block, closures, ()) =>
    { name, kind, declared, returnType := type, body := block, closures }
  | .typeInfo, (name, kind, ()) => { name, kind }
  | .body, (exits, lastChild, ()) => { exits, lastChild }
  | .exit, (instruction, value, mayReturnValue, ()) => { instruction, value, mayReturnValue }
  | .element, (span, place, valid, physical, ()) =>
    { range := span, location := place, valid, physical }
  | .range, (start, stop, ()) => { start, stop }
  | .location, (line, column, ()) => { line, column }

end ReturnPaths
