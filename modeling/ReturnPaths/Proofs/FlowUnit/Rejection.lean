import ReturnPaths.Proofs.Analysis.Collection
import ReturnPaths.Proofs.Analysis.Running
import ReturnPaths.Proofs.FlowUnit.Reading
import ReturnPaths.Proofs.Json.Writing

/-!
# Malformed flow units

A document is refused as a whole as soon as something is wrong with any record in it, however deeply
it is nested and whatever else the document holds.

* `Form.members`, `Form.required` : the members of a record, and those that have to be given.
* `Position` : where a document that is read as a flow unit is read as a record.
* `Defect` : what can be wrong with a record.
* `FlowUnit.ofJson_defect` : a unit with a defect anywhere is refused, and it has no issues.
-/

namespace ReturnPaths

open Json

/-! ### Records in a document -/

/-- The members of a record, in order. -/
def Form.members : Form → List String
  | unit => ["file", "subjects"]
  | subject => ["name", "kind", "declared", "return_type", "body", "closures"]
  | typeInfo => ["name", "kind"]
  | body => ["exits", "last_child"]
  | exit => ["instruction", "value", "may_return_value"]
  | element => ["range", "location", "valid", "physical"]
  | range => ["start", "end"]
  | location => ["line", "column"]

/-- The members of a record that have to be given; they come first. -/
def Form.required : Form → List String
  | unit => ["file"]
  | subject => ["name", "kind"]
  | typeInfo => ["name", "kind"]
  | body => []
  | exit => ["instruction"]
  | element => ["range"]
  | range => ["start", "end"]
  | location => ["line", "column"]

/-- A record gives a value for one of its members. -/
inductive Gives (form : Form) (name : String) (value : Tree) : Tree → Prop
  /-- An object does so by the name. -/
  | object {members : List (List Piece × Tree)} (h : value ∈ valuesOf name members) :
      Gives form name value (.object members)
  /-- A list does so by the place. -/
  | list {i : ℕ} {elements : List Tree} (hname : form.members[i]? = some name)
      (hvalue : elements[i]? = some value) : Gives form name value (.list elements)

/-- A member that is written is given. -/
theorem gives_member {form : Form} {name : String} {value : Value}
    {members : List (String × Value)} (h : (name, value) ∈ members) :
    Gives form name value.tree (Value.object members).tree := by
  refine .object ?_
  rw [Value.valuesOf_treeMembers]
  exact List.mem_map.2 ⟨(name, value), List.mem_filter.2 ⟨h, decide_eq_true rfl⟩, rfl⟩

/-- The members that are records. -/
def recordMembers : List (Form × String × Form) :=
  [(.subject, "return_type", .typeInfo), (.subject, "body", .body),
   (.body, "last_child", .element), (.element, "range", .range),
   (.element, "location", .location)]

/-- The members that are lists of records. -/
def listMembers : List (Form × String × Form) :=
  [(.unit, "subjects", .subject), (.subject, "closures", .subject), (.body, "exits", .exit)]

/-- Where a document that is read as a flow unit is read as a record of some form. -/
inductive Position (root : Tree) : Form → Tree → Prop
  /-- At the root, as a flow unit. -/
  | root : Position root .unit root
  /-- At a member that is a record. -/
  | member {form inner : Form} {name : String} {tree value : Tree}
      (houter : Position root form tree) (hmember : (form, name, inner) ∈ recordMembers)
      (hgives : Gives form name value tree) (hnull : value ≠ .null) : Position root inner value
  /-- At an element of a member that is a list. -/
  | element {form inner : Form} {name : String} {tree value : Tree} {elements : List Tree}
      (houter : Position root form tree) (hmember : (form, name, inner) ∈ listMembers)
      (hgives : Gives form name (.list elements) tree) (hvalue : value ∈ elements) :
      Position root inner value

/-! ### Defects -/

/-- The value of a member is not what it has to be. -/
inductive Malformed : Form → String → Tree → Prop
  /-- A list is null. -/
  | list {form : Form} {name : String}
      (h : (form, name) ∈ [(.unit, "subjects"), (.subject, "closures"), (.body, "exits")]) :
      Malformed form name .null
  /-- A truth value is null. -/
  | flag {form : Form} {name : String}
      (h : (form, name) ∈ [(.subject, "declared"), (.exit, "may_return_value"),
        (.element, "valid"), (.element, "physical")]) :
      Malformed form name .null
  /-- A location is null. -/
  | location : Malformed .element "location" .null
  /-- A string is no string. -/
  | text {form : Form} {name : String} {value : Tree}
      (h : (form, name) ∈ [(.unit, "file"), (.subject, "name"), (.typeInfo, "name")])
      (hvalue : ∀ content, ¬ value.IsText content) : Malformed form name value
  /-- The text of a returned value is neither a string nor null. -/
  | value {value : Tree} (hvalue : ∀ content, ¬ value.IsText content) (hnull : value ≠ .null) :
      Malformed .exit "value" value
  /-- A name is none of the known ones. -/
  | name {form : Form} {name : String} {names : List String} {value : Tree}
      (h : (form, name, names) ∈
        [(.subject, "kind", ["method", "closure", "other"]),
         (.typeInfo, "kind", ["void", "primitive", "class", "type_parameter", "unresolved"]),
         (.exit, "instruction", ["return", "maybe_return", "throw", "fall_through"])])
      (hvalue : ∀ levels, ∀ known ∈ names, ¬ value.IsName levels known) :
      Malformed form name value
  /-- A bound of a range is no number of 32 bits. -/
  | bound {name : String} {value : Tree} (h : name ∈ ["start", "end"])
      (hvalue : ∀ n, value.IsNatural n → 2 ^ 32 ≤ n) : Malformed .range name value
  /-- A line or column is no number of 64 bits. -/
  | place {name : String} {value : Tree} (h : name ∈ ["line", "column"])
      (hvalue : ∀ n, value.IsNatural n → 2 ^ 64 ≤ n) : Malformed .location name value

/-- What can be wrong with a record. -/
inductive Defect : Form → Tree → Prop
  /-- A member is given twice. -/
  | repeated {form : Form} {name : String} {members : List (List Piece × Tree)}
      (h : name ∈ form.members) (hvalues : 2 ≤ (valuesOf name members).length) :
      Defect form (.object members)
  /-- An object lacks a member that has to be given. -/
  | missing {form : Form} {name : String} {members : List (List Piece × Tree)}
      (h : name ∈ form.required) (hvalues : valuesOf name members = []) :
      Defect form (.object members)
  /-- A list lacks a member that has to be given. -/
  | short {form : Form} {elements : List Tree} (h : elements.length < form.required.length) :
      Defect form (.list elements)
  /-- A member is malformed. -/
  | member {form : Form} {name : String} {tree value : Tree} (hgives : Gives form name value tree)
      (h : Malformed form name value) : Defect form tree

/-! ### What a record that is read consists of -/

/-- What the member of a record with some name holds. -/
def Form.slot? (form : Form) (name : String) : Option Slot :=
  (form.fields.find? (·.name = name)).map Field.slot

theorem Form.members_eq (form : Form) : form.members = form.fields.map Field.name := by
  cases form <;> rfl

theorem Form.required_eq (form : Form) : form.required =
    (form.fields.takeWhile fun field => field.default.isNone).map Field.name := by
  cases form <;> rfl

section Records

variable {inner : (shape : Shape) → Tree → Option shape.Value} {fields : List Field}
  {members : List (List Piece × Tree)} {elements : List Tree} {field : Field} {value : Tree}

theorem eq_some_of_bind_map {α β : Type} {first : Option α} {rest : Option β} {result : α × β}
    (h : (first.bind fun value => rest.map (value, ·)) = some result) :
    first = some result.1 ∧ rest = some result.2 := by
  obtain ⟨value, hfirst, hresult⟩ := Option.bind_eq_some_iff.1 h
  obtain ⟨values, hrest, rfl⟩ := Option.map_eq_some_iff.1 hresult
  exact ⟨hfirst, hrest⟩

theorem exists_decode_of_decodeObject {values : Values fields}
    (h : decodeObject inner members fields = some values) (hfield : field ∈ fields) :
    ∃ content, field.decode inner members = some content := by
  induction fields with
  | nil => cases hfield
  | cons first fields ih =>
    obtain ⟨hfirst, hrest⟩ := eq_some_of_bind_map h
    rcases List.mem_cons.1 hfield with rfl | hfield
    · exact ⟨_, hfirst⟩
    · exact ih hrest hfield

/-- A member that is given has one value, and this is what it has to be. -/
theorem Field.exists_decode_slot {content : field.slot.Value}
    (h : field.decode inner members = some content) (hvalue : value ∈ valuesOf field.name members) :
    field.slot.decode inner value = some content := by
  unfold decode at h
  split at h
  · rename_i hnone
    rw [hnone] at hvalue
    cases hvalue
  · rename_i tree hone
    rw [hone, List.mem_singleton] at hvalue
    rw [hvalue]
    exact h
  · cases h

theorem exists_decode_of_decodeList {values : Values fields}
    (h : decodeList inner fields elements = some values) {i : ℕ} (hfield : fields[i]? = some field)
    (hvalue : elements[i]? = some value) :
    ∃ content, field.slot.decode inner value = some content := by
  induction fields generalizing elements i with
  | nil => cases hfield
  | cons first fields ih =>
    cases elements with
    | nil => cases hvalue
    | cons element elements =>
      obtain ⟨hfirst, hrest⟩ := eq_some_of_bind_map h
      cases i with
      | zero =>
        cases hfield
        cases hvalue
        exact ⟨_, hfirst⟩
      | succ i => exact ih hrest hfield hvalue

/-- A list gives all fields without a default. -/
theorem lt_length_of_decodeList {values : Values fields}
    (h : decodeList inner fields elements = some values) {i : ℕ} (hfield : fields[i]? = some field)
    (hdefault : field.default = none) : i < elements.length := by
  induction fields generalizing elements i with
  | nil => cases hfield
  | cons first fields ih =>
    cases elements with
    | nil =>
      obtain ⟨hfirst, hrest⟩ := eq_some_of_bind_map h
      cases i with
      | zero =>
        cases hfield
        rw [hdefault] at hfirst
        cases hfirst
      | succ i => exact absurd (ih hrest hfield) (Nat.not_lt_zero i)
    | cons element elements =>
      obtain ⟨-, hrest⟩ := eq_some_of_bind_map h
      cases i with
      | zero => exact Nat.succ_pos _
      | succ i => exact Nat.succ_lt_succ (ih hrest hfield)

/-- Whatever a record that is read gives for a member is read. -/
theorem exists_decode_of_gives {form : Form} {record : form.Value} {tree : Tree}
    (h : form.decode inner tree = some record) {name : String} (hgives : Gives form name value tree)
    {slot : Slot} (hslot : form.slot? name = some slot) :
    ∃ content, slot.decode inner value = some content := by
  obtain ⟨field, hfind, rfl⟩ := Option.map_eq_some_iff.1 hslot
  have hfield : field ∈ form.fields := List.mem_of_find?_eq_some hfind
  have hname : field.name = name := by simpa using List.find?_some hfind
  cases hgives with
  | object hvalue =>
    obtain ⟨values, hvalues, -⟩ := Option.map_eq_some_iff.1 h
    obtain ⟨content, hcontent⟩ := exists_decode_of_decodeObject hvalues hfield
    rw [← hname] at hvalue
    exact ⟨content, Field.exists_decode_slot hcontent hvalue⟩
  | list hplace hvalue =>
    obtain ⟨values, hvalues, -⟩ := Option.map_eq_some_iff.1 h
    rw [form.members_eq, List.getElem?_map] at hplace
    obtain ⟨other, hother, hname'⟩ := Option.map_eq_some_iff.1 hplace
    -- the field at the place is the one with the name, since names are different
    have heq : other = field := List.inj_on_of_nodup_map form.fields_nodup
      (List.mem_of_getElem? hother) hfield (hname'.trans hname.symm)
    rw [heq] at hother
    exact exists_decode_of_decodeList hvalues hother hvalue

end Records

/-! ### Records with defects -/

section Defects

variable {form : Form} {levels : ℕ} {tree : Tree}

theorem decode_record_eq_some {record : form.Value}
    (h : decode levels (.record form) tree = some record) :
    ∃ below, form.decode (decode below) tree = some record := by
  cases levels with
  | zero => cases h
  | succ below => exact ⟨below, h⟩

theorem exists_slot_of_recordMembers {inner : Form} {name : String}
    (h : (form, name, inner) ∈ recordMembers) :
    form.slot? name = some (.given (.record inner)) ∨
      form.slot? name = some (.nullable (.record inner)) := by
  simp only [recordMembers, List.mem_cons, Prod.mk.injEq, List.not_mem_nil, or_false] at h
  rcases h with ⟨rfl, rfl, rfl⟩ | ⟨rfl, rfl, rfl⟩ | ⟨rfl, rfl, rfl⟩ | ⟨rfl, rfl, rfl⟩ |
    ⟨rfl, rfl, rfl⟩
  · exact .inr rfl
  · exact .inr rfl
  · exact .inr rfl
  · exact .inl rfl
  · exact .inl rfl

theorem slot_of_listMembers {inner : Form} {name : String}
    (h : (form, name, inner) ∈ listMembers) :
    form.slot? name = some (.given (.records inner)) := by
  simp only [listMembers, List.mem_cons, Prod.mk.injEq, List.not_mem_nil, or_false] at h
  rcases h with ⟨rfl, rfl, rfl⟩ | ⟨rfl, rfl, rfl⟩ | ⟨rfl, rfl, rfl⟩ <;> rfl

theorem Slot.exists_decode_nullable {inner : (shape : Shape) → Tree → Option shape.Value}
    {shape : Shape} {content : Option shape.Value}
    (h : (Slot.nullable shape).decode inner tree = some content) (hnull : tree ≠ .null) :
    ∃ value, inner shape tree = some value := by
  cases tree with
  | null => exact absurd rfl hnull
  | _ =>
    obtain ⟨value, hvalue, -⟩ := Option.map_eq_some_iff.1 h
    exact ⟨value, hvalue⟩

/-- In a document that is read, there is a record wherever one is read. -/
theorem Position.exists_decode {root : Tree} {unit : FlowUnit}
    (h : Position root form tree) (hroot : decode levels (.record .unit) root = some unit) :
    ∃ (below : ℕ) (record : form.Value), decode below (.record form) tree = some record := by
  induction h with
  | root => exact ⟨levels, unit, hroot⟩
  | member _ hmember hgives hnull ih =>
    obtain ⟨_, record, hrecord⟩ := ih
    obtain ⟨below, hrecord⟩ := decode_record_eq_some hrecord
    rcases exists_slot_of_recordMembers hmember with hslot | hslot
    · obtain ⟨value, hvalue⟩ := exists_decode_of_gives hrecord hgives hslot
      exact ⟨below, value, hvalue⟩
    · obtain ⟨content, hcontent⟩ := exists_decode_of_gives hrecord hgives hslot
      obtain ⟨value, hvalue⟩ := Slot.exists_decode_nullable hcontent hnull
      exact ⟨below, value, hvalue⟩
  | element _ hmember hgives hvalue ih =>
    obtain ⟨_, record, hrecord⟩ := ih
    obtain ⟨below, hrecord⟩ := decode_record_eq_some hrecord
    obtain ⟨values, hvalues⟩ :=
      exists_decode_of_gives hrecord hgives (slot_of_listMembers hmember)
    cases below with
    | zero => cases hvalues
    | succ below =>
      obtain ⟨value, -, hvalue⟩ := exists_of_forall₂ (mapM_eq_some.1 hvalues) hvalue
      exact ⟨below, value, hvalue⟩

section Scalars

variable {value : Tree}

theorem text?_eq_none (h : ∀ content, ¬ value.IsText content) : value.text? = none :=
  Option.eq_none_iff_forall_ne_some.2 fun content hcontent =>
    h content (Tree.text?_eq_some.1 hcontent)

theorem name?_eq_none {α : Type} {names : List (String × α)} (levels : ℕ)
    (h : ∀ levels, ∀ known ∈ names.map Prod.fst, ¬ value.IsName levels known) :
    value.name? levels names = none := by
  refine Option.eq_none_iff_forall_ne_some.2 fun content hcontent => ?_
  obtain ⟨name, hname, hlookup⟩ := Tree.name?_eq_some.1 hcontent
  obtain ⟨before, after, heq, -⟩ := List.lookup_eq_some_iff.1 hlookup
  exact h levels name (by simp [heq]) hname

theorem below?_eq_none {limit : ℕ} (h : ∀ n, value.IsNatural n → limit ≤ n) :
    value.below? limit = none := by
  refine Option.eq_none_iff_forall_ne_some.2 fun n hn => ?_
  obtain ⟨hn, hlt⟩ := Tree.below?_eq_some.1 hn
  exact Nat.not_lt.2 (h n hn) hlt

end Scalars

/-- A malformed value is not what its member holds. -/
theorem Malformed.exists_slot {name : String} {value : Tree} (h : Malformed form name value) :
    ∃ slot, form.slot? name = some slot ∧ ∀ levels, slot.decode (decode levels) value = none := by
  cases h with
  | list h =>
    simp only [List.mem_cons, Prod.mk.injEq, List.not_mem_nil, or_false] at h
    rcases h with ⟨rfl, rfl⟩ | ⟨rfl, rfl⟩ | ⟨rfl, rfl⟩
    all_goals exact ⟨_, rfl, fun levels => by cases levels <;> rfl⟩
  | flag h =>
    simp only [List.mem_cons, Prod.mk.injEq, List.not_mem_nil, or_false] at h
    rcases h with ⟨rfl, rfl⟩ | ⟨rfl, rfl⟩ | ⟨rfl, rfl⟩ | ⟨rfl, rfl⟩
    all_goals exact ⟨_, rfl, fun levels => by cases levels <;> rfl⟩
  | location => exact ⟨_, rfl, fun levels => by cases levels <;> rfl⟩
  | text h hvalue =>
    have hnone := text?_eq_none hvalue
    simp only [List.mem_cons, Prod.mk.injEq, List.not_mem_nil, or_false] at h
    rcases h with ⟨rfl, rfl⟩ | ⟨rfl, rfl⟩ | ⟨rfl, rfl⟩
    all_goals
      refine ⟨_, rfl, fun levels => ?_⟩
      simp only [Slot.decode, decode_scalar, Scalar.decode, hnone, Option.map_none]
  | value hvalue hnull =>
    refine ⟨.nullable (.scalar .text), rfl, fun levels => ?_⟩
    refine Option.eq_none_iff_forall_ne_some.2 fun content hcontent => ?_
    obtain ⟨text, htext⟩ := Slot.exists_decode_nullable hcontent hnull
    rw [decode_scalar, Scalar.decode, text?_eq_none hvalue] at htext
    cases htext
  | name h hvalue =>
    simp only [List.mem_cons, Prod.mk.injEq, List.not_mem_nil, or_false] at h
    rcases h with ⟨rfl, rfl, rfl⟩ | ⟨rfl, rfl, rfl⟩ | ⟨rfl, rfl, rfl⟩
    all_goals
      refine ⟨_, rfl, fun levels => ?_⟩
      rw [Slot.decode, decode_scalar]
      exact name?_eq_none levels hvalue
  | bound h hvalue =>
    simp only [List.mem_cons, List.not_mem_nil, or_false] at h
    rcases h with rfl | rfl
    all_goals
      refine ⟨_, rfl, fun levels => ?_⟩
      have hnone : value.below? UInt32.size = none := below?_eq_none hvalue
      rw [Slot.decode, decode_scalar, Scalar.decode, hnone, Option.map_none]
  | place h hvalue =>
    simp only [List.mem_cons, List.not_mem_nil, or_false] at h
    rcases h with rfl | rfl
    all_goals
      refine ⟨_, rfl, fun levels => ?_⟩
      have hnone : value.below? UInt64.size = none := below?_eq_none hvalue
      rw [Slot.decode, decode_scalar, Scalar.decode, hnone, Option.map_none]

theorem default_eq_none_of_mem {field : Field}
    (h : field ∈ form.fields.takeWhile fun field => field.default.isNone) :
    field.default = none := by
  have hnone := List.mem_takeWhile_imp h
  exact Option.isNone_iff_eq_none.1 hnone

theorem exists_default_of_required {name : String} (h : name ∈ form.required) :
    ∃ field ∈ form.fields, field.name = name ∧ field.default = none := by
  rw [form.required_eq] at h
  obtain ⟨field, hfield, hname⟩ := List.mem_map.1 h
  exact ⟨field, (List.takeWhile_sublist _).subset hfield, hname, default_eq_none_of_mem hfield⟩

theorem default_of_lt_required {i : ℕ} (h : i < form.required.length) :
    ∃ field, form.fields[i]? = some field ∧ field.default = none := by
  rw [form.required_eq, List.length_map] at h
  exact ⟨_, List.prefix_iff_getElem?.1 (List.takeWhile_prefix _) i h,
    default_eq_none_of_mem (List.getElem_mem h)⟩

/-- A record with a defect denotes nothing. -/
theorem Defect.decode_eq_none (h : Defect form tree) (levels : ℕ) :
    decode levels (.record form) tree = none := by
  refine Option.eq_none_iff_forall_ne_some.2 fun record hrecord => ?_
  obtain ⟨below, hrecord⟩ := decode_record_eq_some hrecord
  cases h with
  | repeated hname hvalues =>
    rw [form.members_eq] at hname
    obtain ⟨field, hfield, rfl⟩ := List.mem_map.1 hname
    obtain ⟨values, hrecord, -⟩ := Option.map_eq_some_iff.1 hrecord
    obtain ⟨content, hcontent⟩ := exists_decode_of_decodeObject hrecord hfield
    unfold Field.decode at hcontent
    split at hcontent
    · rename_i hnone
      rw [hnone] at hvalues
      cases hvalues
    · rename_i hone
      rw [hone] at hvalues
      exact absurd hvalues (Nat.not_succ_le_self 1)
    · cases hcontent
  | missing hname hvalues =>
    obtain ⟨field, hfield, rfl, hdefault⟩ := exists_default_of_required hname
    obtain ⟨values, hrecord, -⟩ := Option.map_eq_some_iff.1 hrecord
    obtain ⟨content, hcontent⟩ := exists_decode_of_decodeObject hrecord hfield
    rw [Field.decode, hvalues] at hcontent
    simp only [hdefault] at hcontent
    cases hcontent
  | short hlength =>
    obtain ⟨field, hfield, hdefault⟩ := default_of_lt_required hlength
    obtain ⟨values, hrecord, -⟩ := Option.map_eq_some_iff.1 hrecord
    exact absurd (lt_length_of_decodeList hrecord hfield hdefault) (Nat.lt_irrefl _)
  | member hgives hvalue =>
    obtain ⟨slot, hslot, hnone⟩ := hvalue.exists_slot
    obtain ⟨content, hcontent⟩ := exists_decode_of_gives hrecord hgives hslot
    rw [hnone] at hcontent
    cases hcontent

end Defects

/-! ### Runs -/

/-- A file has this text. -/
def FileTree.holdsText (files : FileTree) (text : String) (path : Path) : Bool :=
  match files.readText path with
  | .ok other => other = text
  | .error _ => false

namespace Analyzer

variable (analyzer : Analyzer) {session : Session} {text : String}

theorem issuesAt_refused {refusal : Json.Refusal}
    (hrefused : FlowUnit.ofJson text = .error refusal) {path : Path}
    (hpath : session.files.holdsText text path = true) : analyzer.issuesAt session path = [] := by
  unfold FileTree.holdsText at hpath
  split at hpath
  · rename_i other hother
    rw [issuesAt_eq, loadUnit, hother, of_decide_eq_true hpath]
    simp [Except.mapError, hrefused, bind, Except.bind]
  · cases hpath

/-- Files with a text that is refused make no difference. -/
theorem flatMap_issuesAt_refused {refusal : Json.Refusal}
    (hrefused : FlowUnit.ofJson text = .error refusal) (units : List Path) :
    units.flatMap (analyzer.issuesAt session) =
      (units.filter fun path => !session.files.holdsText text path).flatMap
        (analyzer.issuesAt session) := by
  induction units with
  | nil => rfl
  | cons unit units ih =>
    rw [List.flatMap_cons, List.filter_cons, ih]
    by_cases hunit : session.files.holdsText text unit = true
    · rw [hunit, analyzer.issuesAt_refused hrefused hunit]
      rfl
    · rw [Bool.not_eq_true] at hunit
      rw [hunit]
      rfl

end Analyzer

/-- **All or nothing.**  A text that writes a document with a defect in any record is refused as a
whole.  The issues of a run are those of the other units: a file with such a text has none. -/
theorem FlowUnit.ofJson_defect {text : String} {root tree : Tree} {form : Form}
    (hwrites : Writes text root) (hposition : Position root form tree)
    (hdefect : Defect form tree) :
    (∃ refusal, FlowUnit.ofJson text = .error refusal) ∧
      ∀ (analyzer : Analyzer) (session : Session) (paths units : List Path), session.Sound →
        analyzer.collectUnits session.files paths = .ok units →
          ∃ analysis last, (analyzer.analyzePaths paths).run session = (.ok analysis, last) ∧
            StablySorted Issue.compare
              ((units.filter fun path => !session.files.holdsText text path).flatMap
                (analyzer.issuesAt session)) analysis.issues.toList := by
  have hnone : decode depthLimit (.record .unit) root = none := by
    refine Option.eq_none_iff_forall_ne_some.2 fun unit hunit => ?_
    obtain ⟨below, record, hrecord⟩ := hposition.exists_decode hunit
    rw [hdefect.decode_eq_none] at hrecord
    cases hrecord
  obtain ⟨refusal, hrefused⟩ := readWhole_eq_error hwrites hnone
  refine ⟨⟨refusal, hrefused⟩, ?_⟩
  intro analyzer session paths units hsession hunits
  rw [← analyzer.flatMap_issuesAt_refused hrefused]
  exact analyzer.run_analyzePaths_sorted hsession hunits

/-- An unknown instruction in an exit of a closure. -/
theorem FlowUnit.ofJson_defect_unknownInstruction :
    let exit : Value := .object [("value", .null), ("instruction", .text "jump")]
    let body : Value := .object [("exits", .list [exit])]
    let closure : Value := .object [("body", body)]
    let subject : Value := .object [("closures", .list [closure])]
    let unit : Value := .object [("file", .text "A"), ("subjects", .list [subject])]
    Writes unit.compact unit.tree ∧ Position unit.tree .exit exit.tree ∧ Defect .exit exit.tree ∧
      ∃ refusal, FlowUnit.ofJson unit.compact = .error refusal := by
  intro exit body closure subject unit
  have hwrites : Writes unit.compact unit.tree := unit.writes_compact
  have hsubjects : Gives .unit "subjects" (Value.list [subject]).tree unit.tree :=
    gives_member (by simp)
  have hclosures : Gives .subject "closures" (Value.list [closure]).tree subject.tree :=
    gives_member (by simp)
  have hbody : Gives .subject "body" body.tree closure.tree := gives_member (by simp)
  have hexits : Gives .body "exits" (Value.list [exit]).tree body.tree := gives_member (by simp)
  have hatSubject : Position unit.tree .subject subject.tree :=
    .element .root (by decide) hsubjects List.mem_cons_self
  have hatClosure : Position unit.tree .subject closure.tree :=
    .element hatSubject (by decide) hclosures List.mem_cons_self
  have hatBody : Position unit.tree .body body.tree :=
    .member hatClosure (by decide) hbody fun h => Tree.noConfusion h
  have hatExit : Position unit.tree .exit exit.tree :=
    .element hatBody (by decide) hexits List.mem_cons_self
  have hjump : ∀ levels, ∀ known ∈ ["return", "maybe_return", "throw", "fall_through"],
      ¬ (Value.text "jump").tree.IsName levels known := by
    rintro levels known hknown ⟨hname⟩
    rw [Piece.content?_ofText] at hname
    cases hname
    exact absurd hknown (by decide)
  have hdefect : Defect .exit exit.tree :=
    .member (gives_member (List.mem_cons_of_mem _ List.mem_cons_self))
      (.name (List.mem_cons_of_mem _ (List.mem_cons_of_mem _ List.mem_cons_self)) hjump)
  exact ⟨hwrites, hatExit, hdefect, (ofJson_defect hwrites hatExit hdefect).1⟩

end ReturnPaths
