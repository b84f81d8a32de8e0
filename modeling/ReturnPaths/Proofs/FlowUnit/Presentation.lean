import ReturnPaths.Analysis.Analyzer
import ReturnPaths.Proofs.FlowUnit.Reading
import ReturnPaths.Proofs.Json.Writing

/-!
# Documents that present a flow unit

There are many ways to write the same flow unit: records as objects, with their members in any
order, with unknown members among them and without those that have a default, or as lists without
some of the last fields; names as strings or as objects with a single key; strings with or without
escapes.  All of them are read as the same unit.

* `PresentsRecord` : a document presents a record, given by what stands for each of its fields.
* `FlowUnit.PresentedBy` : a document presents a flow unit, with lists and objects nested to at most
  some depth, not counting those in unknown members.
* `FlowUnit.ofJson_presentedBy` : whichever of these documents a text writes, the unit is read.
-/

namespace ReturnPaths

open Json

/-! ### Records -/

/-- What may stand for a field of a record. -/
structure Item where
  /-- The name of the field. -/
  name : String
  /-- A document presents the value of the field. -/
  Presents : Tree → Prop
  /-- The value of the field is the default, so that it may be left out. -/
  Omissible : Prop

/-- The elements of a list present fields in order; some of the last ones may be left out. -/
def PresentsList : List Item → List Tree → Prop
  | [], [] => True
  | [], _ :: _ => False
  | item :: items, [] => item.Omissible ∧ PresentsList items []
  | item :: items, tree :: trees => item.Presents tree ∧ PresentsList items trees

/-- The members of an object present fields, in any order and among any other members. -/
structure PresentsObject (items : List Item) (members : List (List Piece × Tree)) : Prop where
  /-- Every key is a string. -/
  keys : ∀ member ∈ members, ∃ name, Piece.content? member.1 = some name
  /-- A field is given once, or it is left out. -/
  fields : ∀ item ∈ items, (valuesOf item.name members = [] ∧ item.Omissible) ∨
    ∃ tree, valuesOf item.name members = [tree] ∧ item.Presents tree

/-- A document presents a record whose fields are nested to at most the depth that is left. -/
inductive PresentsRecord (items : ℕ → List Item) : ℕ → Tree → Prop
  /-- As a list. -/
  | list {levels : ℕ} {elements : List Tree} (h : PresentsList (items levels) elements) :
      PresentsRecord items (levels + 1) (.list elements)
  /-- As an object. -/
  | object {levels : ℕ} {members : List (List Piece × Tree)}
      (h : PresentsObject (items levels) members) :
      PresentsRecord items (levels + 1) (.object members)

/-- A document presents a list of records. -/
inductive PresentsRecords (Present : ℕ → List Tree → Prop) : ℕ → Tree → Prop
  /-- As a list. -/
  | list {levels : ℕ} {elements : List Tree} (h : Present levels elements) :
      PresentsRecords Present (levels + 1) (.list elements)

/-- A document presents a value, or is null if there is none. -/
def PresentsOption {α : Type} (Presents : α → Tree → Prop) : Option α → Tree → Prop
  | none, tree => tree = .null
  | some value, tree => Presents value tree

/-! ### Flow units -/

/-- A document presents a range. -/
def TextRange.PresentedBy (range : TextRange) : ℕ → Tree → Prop :=
  PresentsRecord fun _ =>
    [⟨"start", Tree.IsNatural range.start.toNat, False⟩,
     ⟨"end", Tree.IsNatural range.stop.toNat, False⟩]

/-- A document presents a position. -/
def Location.PresentedBy (location : Location) : ℕ → Tree → Prop :=
  PresentsRecord fun _ =>
    [⟨"line", Tree.IsNatural location.line.toNat, False⟩,
     ⟨"column", Tree.IsNatural location.column.toNat, False⟩]

/-- A document presents a syntax element. -/
def Element.PresentedBy (element : Element) : ℕ → Tree → Prop :=
  PresentsRecord fun levels =>
    [⟨"range", element.range.PresentedBy levels, False⟩,
     ⟨"location", element.location.PresentedBy levels, element.location = ⟨1, 1⟩⟩,
     ⟨"valid", (· = .flag element.valid), element.valid = true⟩,
     ⟨"physical", (· = .flag element.physical), element.physical = true⟩]

/-- The name of an exit instruction. -/
def Instruction.word : Instruction → String
  | explicitReturn => "return"
  | maybeReturn => "maybe_return"
  | raise => "throw"
  | fallThrough => "fall_through"

/-- A document presents an exit. -/
def Exit.PresentedBy (exit : Exit) : ℕ → Tree → Prop :=
  PresentsRecord fun levels =>
    [⟨"instruction", Tree.IsName levels exit.instruction.word, False⟩,
     ⟨"value", PresentsOption Tree.IsText exit.value, exit.value = none⟩,
     ⟨"may_return_value", (· = .flag exit.mayReturnValue), exit.mayReturnValue = false⟩]

/-- A document presents a body. -/
def Body.PresentedBy (body : Body) : ℕ → Tree → Prop :=
  PresentsRecord fun levels =>
    [⟨"exits",
      PresentsRecords (fun levels => List.Forall₂ (·.PresentedBy levels) body.exits) levels,
      body.exits = []⟩,
     ⟨"last_child", PresentsOption (·.PresentedBy levels) body.lastChild, body.lastChild = none⟩]

/-- The name of a kind of type. -/
def TypeKind.word : TypeKind → String
  | void => "void"
  | primitive => "primitive"
  | concrete => "class"
  | typeParameter => "type_parameter"
  | unresolved => "unresolved"

/-- A document presents a return type. -/
def TypeInfo.PresentedBy (type : TypeInfo) : ℕ → Tree → Prop :=
  PresentsRecord fun levels =>
    [⟨"name", Tree.IsText type.name, False⟩,
     ⟨"kind", Tree.IsName levels type.kind.word, False⟩]

/-- The name of a kind of subject. -/
def SubjectKind.word : SubjectKind → String
  | method => "method"
  | closure => "closure"
  | other => "other"

namespace Subject

mutual

/-- A document presents a subject. -/
def PresentedBy : Subject → ℕ → Tree → Prop
  | { name, kind, declared, returnType, body, closures } =>
    PresentsRecord fun levels =>
      [⟨"name", Tree.IsText name, False⟩,
       ⟨"kind", Tree.IsName levels kind.word, False⟩,
       ⟨"declared", (· = .flag declared), declared = false⟩,
       ⟨"return_type", PresentsOption (·.PresentedBy levels) returnType, returnType = none⟩,
       ⟨"body", PresentsOption (·.PresentedBy levels) body, body = none⟩,
       ⟨"closures", PresentsRecords (AllPresentedBy closures) levels, closures = []⟩]

/-- Documents present subjects, one each. -/
def AllPresentedBy : List Subject → ℕ → List Tree → Prop
  | [], _, [] => True
  | subject :: subjects, levels, tree :: trees =>
    subject.PresentedBy levels tree ∧ AllPresentedBy subjects levels trees
  | _, _, _ => False

end

end Subject

/-- A document presents a flow unit. -/
def FlowUnit.PresentedBy (unit : FlowUnit) : ℕ → Tree → Prop :=
  PresentsRecord fun levels =>
    [⟨"file", Tree.IsText unit.file.text, False⟩,
     ⟨"subjects", PresentsRecords (Subject.AllPresentedBy unit.subjects) levels,
      unit.subjects = []⟩]

/-! ### What the documents denote -/

section Denote

variable {inner : (shape : Shape) → Tree → Option shape.Value}

/-- Whatever may stand for a field denotes its value. -/
structure Field.Described (inner : (shape : Shape) → Tree → Option shape.Value) (field : Field)
    (value : field.slot.Value) (item : Item) : Prop where
  /-- The field has this name. -/
  name_eq : item.name = field.name
  /-- The documents that present the value denote it. -/
  decode_eq : ∀ tree, item.Presents tree → field.slot.decode inner tree = some value
  /-- If the field may be left out, the value is the default. -/
  default_eq : item.Omissible → field.default = some value

/-- Whatever may stand for the fields of a record denotes their values. -/
inductive Described (inner : (shape : Shape) → Tree → Option shape.Value) :
    (fields : List Field) → Values fields → List Item → Prop
  /-- No fields. -/
  | nil : Described inner [] () []
  /-- A field and the other ones. -/
  | cons {field : Field} {fields : List Field} {value : field.slot.Value} {values : Values fields}
      {item : Item} {items : List Item} (hfield : field.Described inner value item)
      (hfields : Described inner fields values items) :
      Described inner (field :: fields) (value, values) (item :: items)

variable {fields : List Field} {values : Values fields} {items : List Item}

theorem Described.decodeList_eq (h : Described inner fields values items) {elements : List Tree}
    (hpresents : PresentsList items elements) : decodeList inner fields elements = some values := by
  induction h generalizing elements with
  | nil =>
    cases elements with
    | nil => rfl
    | cons element elements => exact hpresents.elim
  | cons hfield _ ih =>
    cases elements with
    | nil =>
      obtain ⟨hdefault, hpresents⟩ := hpresents
      rw [decodeList, hfield.default_eq hdefault, ih hpresents]
      rfl
    | cons element elements =>
      obtain ⟨helement, hpresents⟩ := hpresents
      rw [decodeList, hfield.decode_eq element helement, ih hpresents]
      rfl

theorem Described.decodeObject_eq (h : Described inner fields values items)
    {members : List (List Piece × Tree)} (hpresents : PresentsObject items members) :
    decodeObject inner members fields = some values := by
  induction h with
  | nil =>
    exact if_pos fun member hmember => Option.isSome_iff_exists.2 (hpresents.keys member hmember)
  | @cons field fields value values item items hfield _ ih =>
    have hvalue : field.decode inner members = some value := by
      rw [Field.decode, ← hfield.name_eq]
      rcases hpresents.fields item List.mem_cons_self with ⟨hnone, hdefault⟩ | ⟨tree, hone, htree⟩
      · rw [hnone]
        exact hfield.default_eq hdefault
      · rw [hone]
        exact hfield.decode_eq tree htree
    have hvalues := ih ⟨hpresents.keys, fun item hitem =>
      hpresents.fields item (List.mem_cons_of_mem _ hitem)⟩
    rw [decodeObject, hvalue, hvalues]
    rfl

/-- A document that presents a record denotes it, if whatever may stand for its fields denotes their
values. -/
theorem decode_of_presentsRecord (form : Form) (values : Values form.fields)
    {items : ℕ → List Item} {levels : ℕ} {tree : Tree} (h : PresentsRecord items levels tree)
    (hdescribed : ∀ below, Described (decode below) form.fields values (items below)) :
    decode levels (.record form) tree = some (form.build values) := by
  cases h with
  | @list below elements h =>
    rw [decode, Form.decode, (hdescribed below).decodeList_eq h, Option.map_some]
  | @object below members h =>
    rw [decode, Form.decode, (hdescribed below).decodeObject_eq h, Option.map_some]

theorem decode_of_presentsRecords {form : Form} {values : List form.Value}
    {Present : ℕ → List Tree → Prop} {levels : ℕ} {tree : Tree}
    (h : PresentsRecords Present levels tree)
    (hpresent : ∀ below elements, Present below elements →
      elements.mapM (decode below (.record form)) = some values) :
    decode levels (.records form) tree = some values := by
  cases h with
  | list h =>
    rw [decode]
    exact hpresent _ _ h

theorem decode_of_presentsOption {shape : Shape} {levels : ℕ} {tree : Tree}
    {value : Option shape.Value} {Presents : shape.Value → Tree → Prop}
    (h : PresentsOption Presents value tree)
    (hnull : decode levels shape .null = none)
    (hpresents : ∀ value tree, Presents value tree → decode levels shape tree = some value) :
    (Slot.nullable shape).decode (decode levels) tree = some value := by
  cases value with
  | none =>
    rw [show tree = .null from h]
    rfl
  | some value =>
    have hvalue := hpresents value tree h
    unfold Slot.decode
    split
    · rw [hnull] at hvalue
      cases hvalue
    · change (decode levels shape tree).map some = some (some value)
      rw [hvalue, Option.map_some]

section Scalars

variable {levels : ℕ} {tree : Tree}

theorem decode_text {content : String} (h : tree.IsText content) :
    decode levels (.scalar .text) tree = some content := by
  rw [decode_scalar]
  exact Tree.text?_eq_some.2 h

theorem decode_path {path : Path} (h : tree.IsText path.text) :
    decode levels (.scalar .path) tree = some path := by
  rw [decode_scalar, Scalar.decode, Tree.text?_eq_some.2 h]
  rfl

theorem decode_word32 {n : UInt32} (h : tree.IsNatural n.toNat) :
    decode levels (.scalar .word32) tree = some n := by
  rw [decode_scalar, Scalar.decode, Tree.below?_eq_some.2 ⟨h, n.toNat_lt⟩, Option.map_some,
    UInt32.ofNat_toNat]

theorem decode_word64 {n : UInt64} (h : tree.IsNatural n.toNat) :
    decode levels (.scalar .word64) tree = some n := by
  rw [decode_scalar, Scalar.decode, Tree.below?_eq_some.2 ⟨h, n.toNat_lt⟩, Option.map_some,
    UInt64.ofNat_toNat]

theorem decode_flag {value : Bool} (h : tree = .flag value) :
    decode levels (.scalar .flag) tree = some value := by
  rw [decode_scalar]
  exact Tree.flag?_eq_some.2 h

theorem decode_subjectKind {kind : SubjectKind} (h : tree.IsName levels kind.word) :
    decode levels (.scalar .subjectKind) tree = some kind := by
  rw [decode_scalar]
  exact Tree.name?_eq_some.2 ⟨_, h, by cases kind <;> rfl⟩

theorem decode_typeKind {kind : TypeKind} (h : tree.IsName levels kind.word) :
    decode levels (.scalar .typeKind) tree = some kind := by
  rw [decode_scalar]
  exact Tree.name?_eq_some.2 ⟨_, h, by cases kind <;> rfl⟩

theorem decode_instruction {instruction : Instruction} (h : tree.IsName levels instruction.word) :
    decode levels (.scalar .instruction) tree = some instruction := by
  rw [decode_scalar]
  exact Tree.name?_eq_some.2 ⟨_, h, by cases instruction <;> rfl⟩

end Scalars

/-! ### What the documents of each form denote -/

section Forms

variable {levels : ℕ} {tree : Tree}

theorem TextRange.decode_eq {range : TextRange} (h : range.PresentedBy levels tree) :
    decode levels (.record .range) tree = some range := by
  refine decode_of_presentsRecord .range (range.start, range.stop, ()) h
    fun below => ?_
  refine .cons ⟨rfl, fun tree => decode_word32, False.elim⟩ ?_
  refine .cons ⟨rfl, fun tree => decode_word32, False.elim⟩ ?_
  exact .nil

theorem Location.decode_eq {location : Location} (h : location.PresentedBy levels tree) :
    decode levels (.record .location) tree = some location := by
  refine decode_of_presentsRecord .location (location.line, location.column, ()) h fun below => ?_
  refine .cons ⟨rfl, fun tree => decode_word64, False.elim⟩ ?_
  refine .cons ⟨rfl, fun tree => decode_word64, False.elim⟩ ?_
  exact .nil

theorem Element.decode_eq {element : Element} (h : element.PresentedBy levels tree) :
    decode levels (.record .element) tree = some element := by
  refine decode_of_presentsRecord .element
    (element.range, element.location, element.valid, element.physical, ()) h fun below => ?_
  refine .cons ⟨rfl, fun tree => TextRange.decode_eq, False.elim⟩ ?_
  refine .cons ⟨rfl, fun tree => Location.decode_eq, fun h => congrArg some h.symm⟩ ?_
  refine .cons ⟨rfl, fun tree => decode_flag, fun h => congrArg some h.symm⟩ ?_
  refine .cons ⟨rfl, fun tree => decode_flag, fun h => congrArg some h.symm⟩ ?_
  exact .nil

theorem Exit.decode_eq {exit : Exit} (h : exit.PresentedBy levels tree) :
    decode levels (.record .exit) tree = some exit := by
  refine decode_of_presentsRecord .exit (exit.instruction, exit.value, exit.mayReturnValue, ()) h
    fun below => ?_
  refine .cons ⟨rfl, fun tree => decode_instruction, False.elim⟩ ?_
  refine .cons ⟨rfl, fun tree h => ?_, fun h => congrArg some h.symm⟩ ?_
  · exact decode_of_presentsOption h (decode_scalar below .text .null) fun _ _ => decode_text
  refine .cons ⟨rfl, fun tree => decode_flag, fun h => congrArg some h.symm⟩ ?_
  exact .nil

theorem Body.decode_eq {body : Body} (h : body.PresentedBy levels tree) :
    decode levels (.record .body) tree = some body := by
  refine decode_of_presentsRecord .body (body.exits, body.lastChild, ()) h
    fun below => ?_
  refine .cons ⟨rfl, fun tree h => ?_, fun h => congrArg some h.symm⟩ ?_
  · refine decode_of_presentsRecords h fun below elements h => mapM_eq_some.2 ?_
    exact h.flip.imp fun _ _ => Exit.decode_eq
  refine .cons ⟨rfl, fun tree h => ?_, fun h => congrArg some h.symm⟩ ?_
  · exact decode_of_presentsOption h (decode_record_null below .element) fun _ _ =>
      Element.decode_eq
  exact .nil

theorem TypeInfo.decode_eq {type : TypeInfo} (h : type.PresentedBy levels tree) :
    decode levels (.record .typeInfo) tree = some type := by
  refine decode_of_presentsRecord .typeInfo (type.name, type.kind, ()) h
    fun below => ?_
  refine .cons ⟨rfl, fun tree => decode_text, False.elim⟩ ?_
  refine .cons ⟨rfl, fun tree => decode_typeKind, False.elim⟩ ?_
  exact .nil

namespace Subject

mutual

theorem decode_eq : (subject : Subject) → ∀ {levels : ℕ} {tree : Tree},
    subject.PresentedBy levels tree → decode levels (.record .subject) tree = some subject
  | { name, kind, declared, returnType, body, closures }, levels, tree, h => by
    refine decode_of_presentsRecord .subject
      (name, kind, declared, returnType, body, closures, ()) h fun below => ?_
    refine .cons ⟨rfl, fun tree => decode_text, False.elim⟩ ?_
    refine .cons ⟨rfl, fun tree => decode_subjectKind, False.elim⟩ ?_
    refine .cons ⟨rfl, fun tree => decode_flag, fun h => congrArg some h.symm⟩ ?_
    refine .cons ⟨rfl, fun tree h => ?_, fun h => congrArg some h.symm⟩ ?_
    · exact decode_of_presentsOption h (decode_record_null below .typeInfo) fun _ _ =>
        TypeInfo.decode_eq
    refine .cons ⟨rfl, fun tree h => ?_, fun h => congrArg some h.symm⟩ ?_
    · exact decode_of_presentsOption h (decode_record_null below .body) fun _ _ => Body.decode_eq
    refine .cons ⟨rfl, fun tree h => ?_, fun h => congrArg some h.symm⟩ ?_
    · exact decode_of_presentsRecords h fun _ _ => decode_all closures
    exact .nil

theorem decode_all : (subjects : List Subject) → ∀ {levels : ℕ} {elements : List Tree},
    AllPresentedBy subjects levels elements →
      elements.mapM (decode levels (.record .subject)) = some subjects
  | [], _, [], _ => rfl
  | subject :: subjects, levels, element :: elements, h => by
    rw [List.mapM_cons, decode_eq subject h.1, decode_all subjects h.2]
    rfl

end

end Subject

theorem FlowUnit.decode_eq {unit : FlowUnit} (h : unit.PresentedBy levels tree) :
    decode levels (.record .unit) tree = some unit := by
  refine decode_of_presentsRecord .unit (unit.file, unit.subjects, ()) h
    fun below => ?_
  refine .cons ⟨rfl, fun tree => decode_path, False.elim⟩ ?_
  refine .cons ⟨rfl, fun tree h => ?_, fun h => congrArg some h.symm⟩ ?_
  · exact decode_of_presentsRecords h fun _ _ => Subject.decode_all unit.subjects
  exact .nil

end Forms

end Denote

/-- **Presentation independence.**  A text that writes a document that presents a flow unit is read
as this unit, so an analysis finds the same in all of these texts. -/
theorem FlowUnit.ofJson_presentedBy {text : String} {tree : Tree} {unit : FlowUnit}
    (hwrites : Writes text tree) (hpresented : unit.PresentedBy 127 tree) :
    FlowUnit.ofJson text = .ok unit ∧
      ∀ (analyzer : Analyzer) (text' : String) (tree' : Tree), Writes text' tree' →
        unit.PresentedBy 127 tree' → ∃ unit', FlowUnit.ofJson text' = .ok unit' ∧
          analyzer.analyzeUnit unit' = analyzer.analyzeUnit unit := by
  have hread (text : String) (tree : Tree) (hwrites : Writes text tree)
      (hpresented : unit.PresentedBy 127 tree) : FlowUnit.ofJson text = .ok unit :=
    readWhole_eq_ok hwrites (decode_eq hpresented)
  refine ⟨hread text tree hwrites hpresented, ?_⟩
  intro analyzer text' tree' hwrites' hpresented'
  exact ⟨unit, hread text' tree' hwrites' hpresented', rfl⟩

/-- A unit written with its members in another order, the subject as a list, the kind as an object,
and an unknown member, repeated, in the body. -/
theorem FlowUnit.ofJson_presentedBy_mixed :
    let body : Value := .object
      [("x", .natural 1), ("exits", .list [.list [.text "throw"]]), ("x", .list [])]
    let value : Value := .object
      [("subjects", .list
        [.list [.text "f", .object [("method", .null)], .flag true, .null, body]]),
       ("file", .text "A")]
    let unit : FlowUnit :=
      ⟨⟨"A"⟩, [⟨"f", .method, true, none, some ⟨[⟨.raise, none, false⟩], none⟩, []⟩]⟩
    Writes value.compact value.tree ∧ unit.PresentedBy 127 value.tree ∧
      FlowUnit.ofJson value.compact = .ok unit := by
  intro body value unit
  have hwrites : Writes value.compact value.tree := value.writes_compact
  have htext (s : String) : (Tree.text (Piece.ofText s)).IsText s :=
    ⟨_, rfl, Piece.content?_ofText s⟩
  have hexit : Exit.PresentedBy ⟨.raise, none, false⟩ 122 (.list [.text (Piece.ofText "throw")]) :=
    .list ⟨.text (Piece.content?_ofText _), rfl, rfl, trivial⟩
  have hbody : Body.PresentedBy ⟨[⟨.raise, none, false⟩], none⟩ 124 body.tree := by
    refine .object ⟨fun _ => Value.content?_of_mem_treeMembers, ?_⟩
    simp only [Value.valuesOf_treeMembers]
    have hexits : PresentsRecords
        (fun levels => List.Forall₂ (Exit.PresentedBy · levels) [⟨.raise, none, false⟩]) 123
        (Value.list [.list [.text "throw"]]).tree := .list (.cons hexit .nil)
    simpa using hexits
  have hpresented : unit.PresentedBy 127 value.tree := by
    refine .object ⟨fun _ => Value.content?_of_mem_treeMembers, ?_⟩
    simp only [Value.valuesOf_treeMembers]
    have hsubject : Subject.PresentedBy
        ⟨"f", .method, true, none, some ⟨[⟨.raise, none, false⟩], none⟩, []⟩ 125
        (.list [.text (Piece.ofText "f"), .object [(Piece.ofText "method", .null)], .flag true,
          .null, body.tree]) :=
      .list ⟨htext "f", .key (Piece.content?_ofText _) (by decide), rfl, rfl, hbody, rfl, trivial⟩
    simpa using ⟨htext "A", PresentsRecords.list ⟨hsubject, trivial⟩⟩
  exact ⟨hwrites, hpresented, (ofJson_presentedBy hwrites hpresented).1⟩

end ReturnPaths
