import ReturnPaths.FlowUnit.Layout
import ReturnPaths.Json.Value

/-!
# Writing flow units

Every record is written as an object with all of its fields, in the order of the layout; a field
that holds nothing is written as null.

* `FlowUnit.toJson` : the text of a flow unit without blanks.
-/

namespace ReturnPaths

open Json (Value)

/-- The name of a value in a list of names. -/
def nameIn {α : Type} [DecidableEq α] (names : List (String × α)) (value : α) : String :=
  ((names.find? (·.2 = value)).map (·.1)).getD ""

/-- A value if there is one, else null. -/
def orNull {α : Type} (write : α → Value) : Option α → Value
  | none => .null
  | some value => write value

/-- A range as an object. -/
def TextRange.json (range : TextRange) : Value :=
  .object [("start", .natural range.start.toNat), ("end", .natural range.stop.toNat)]

/-- A position as an object. -/
def Location.json (location : Location) : Value :=
  .object [("line", .natural location.line.toNat), ("column", .natural location.column.toNat)]

/-- A syntax element as an object. -/
def Element.json (element : Element) : Value :=
  .object
    [("range", element.range.json), ("location", element.location.json),
     ("valid", .flag element.valid), ("physical", .flag element.physical)]

/-- An exit as an object. -/
def Exit.json (exit : Exit) : Value :=
  .object
    [("instruction", .text (nameIn Instruction.names exit.instruction)),
     ("value", orNull .text exit.value), ("may_return_value", .flag exit.mayReturnValue)]

/-- A body as an object. -/
def Body.json (body : Body) : Value :=
  .object
    [("exits", .list (body.exits.map Exit.json)),
     ("last_child", orNull Element.json body.lastChild)]

/-- A return type as an object. -/
def TypeInfo.json (type : TypeInfo) : Value :=
  .object [("name", .text type.name), ("kind", .text (nameIn TypeKind.names type.kind))]

namespace Subject

mutual

/-- A subject as an object. -/
def json : Subject → Value
  | { name, kind, declared, returnType, body, closures } =>
    .object
      [("name", .text name), ("kind", .text (nameIn SubjectKind.names kind)),
       ("declared", .flag declared), ("return_type", orNull TypeInfo.json returnType),
       ("body", orNull Body.json body), ("closures", .list (jsonAll closures))]

/-- Subjects as objects. -/
def jsonAll : List Subject → List Value
  | [] => []
  | subject :: subjects => subject.json :: jsonAll subjects

end

end Subject

/-- A flow unit as an object. -/
def FlowUnit.json (unit : FlowUnit) : Value :=
  .object [("file", .text unit.file.text), ("subjects", .list (Subject.jsonAll unit.subjects))]

/-- The text of a flow unit. -/
def FlowUnit.toJson (unit : FlowUnit) : String :=
  unit.json.compact

end ReturnPaths
