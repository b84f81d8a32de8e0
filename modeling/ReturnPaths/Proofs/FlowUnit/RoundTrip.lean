import ReturnPaths.FlowUnit.Printer
import ReturnPaths.Proofs.FlowUnit.Presentation

/-!
# Writing and reading flow units

A flow unit that is written is read back as it was, unless its text is nested too deeply, and then
it is refused.  How deeply it is nested depends on its closures: each level of them takes two levels
of the text.

* `Value.depth` : how deeply lists and objects are nested.
* `Written` : a value denotes a content, provided that it is not nested too deeply.
* `Subject.levels` : the levels of the text that a subject reaches down to, without its closures.
* `FlowUnit.ofJson_toJson` : what comes back.
-/

namespace ReturnPaths

open Json

/-! ### Nesting -/

namespace Json.Value

mutual

/-- How deeply lists and objects are nested in a value. -/
def depth : Value → ℕ
  | list elements => depthAll elements + 1
  | object members => depthMembers members + 1
  | _ => 0

/-- How deeply lists and objects are nested in the elements of a list. -/
def depthAll : List Value → ℕ
  | [] => 0
  | element :: elements => max element.depth (depthAll elements)

/-- How deeply lists and objects are nested in the members of an object. -/
def depthMembers : List (String × Value) → ℕ
  | [] => 0
  | (_, value) :: members => max value.depth (depthMembers members)

end

end Json.Value

/-! ### Objects with all fields

All fields are written, in their order, so the object says what the list of their values says. -/

section Objects

variable {inner : (shape : Shape) → Tree → Option shape.Value}

theorem filter_key {members : List (String × Value)} (hnodup : (members.map Prod.fst).Nodup)
    {name : String} {value : Value} (h : (name, value) ∈ members) :
    members.filter (·.1 = name) = [(name, value)] := by
  induction members with
  | nil => cases h
  | cons first members ih =>
    obtain ⟨hfirst, hnodup⟩ := List.nodup_cons.1 hnodup
    rcases List.mem_cons.1 h with rfl | h
    · have hnone : members.filter (·.1 = name) = [] := by
        refine List.filter_eq_nil_iff.2 fun member hmember heq => hfirst ?_
        exact List.mem_map.2 ⟨member, hmember, of_decide_eq_true heq⟩
      rw [List.filter_cons, if_pos (decide_eq_true rfl), hnone]
    · have hne : first.1 ≠ name := by
        rintro rfl
        exact hfirst (List.mem_map.2 ⟨_, h, rfl⟩)
      rw [List.filter_cons, if_neg (by simpa using hne), ih hnodup h]

theorem decodeObject_treeMembers {all : List (String × Value)} (hnodup : (all.map Prod.fst).Nodup)
    {fields : List Field} {members : List (String × Value)} (hmembers : members ⊆ all)
    (hfields : members.map Prod.fst = fields.map Field.name) :
    decodeObject inner (Value.treeMembers all) fields =
      decodeList inner fields (members.map fun member => member.2.tree) := by
  -- the fields and their members go by in step, while each is looked up among all members
  induction fields generalizing members with
  | nil =>
    rw [List.map_eq_nil_iff.1 hfields]
    refine if_pos fun member hmember => ?_
    exact Option.isSome_iff_exists.2 (Value.content?_of_mem_treeMembers hmember)
  | cons field fields ih =>
    obtain ⟨member, others, rfl⟩ : ∃ member others, members = member :: others := by
      cases members with
      | nil => cases hfields
      | cons member others => exact ⟨member, others, rfl⟩
    obtain ⟨hname, hothers⟩ := List.cons.inj hfields
    have hvalues : valuesOf field.name (Value.treeMembers all) = [member.2.tree] := by
      rw [Value.valuesOf_treeMembers, ← hname, filter_key hnodup (hmembers List.mem_cons_self)]
      rfl
    have hfield : field.decode inner (Value.treeMembers all) =
        field.slot.decode inner member.2.tree := by rw [Field.decode, hvalues]
    rw [decodeObject, hfield, ih (fun _ h => hmembers (List.mem_cons_of_mem _ h)) hothers]
    rfl

end Objects

/-! ### What is written -/

/-- What is written for a content denotes it as long as there are enough levels, else nothing. -/
def Written (shape : Shape) (content : shape.Value) (value : Value) : Prop :=
  ∀ levels, decode levels shape value.tree = if value.depth ≤ levels then some content else none

/-- The same for what a field holds. -/
def WrittenSlot (slot : Slot) (content : slot.Value) (value : Value) : Prop :=
  ∀ levels, slot.decode (decode levels) value.tree =
    if value.depth ≤ levels then some content else none

/-- The same for the fields of a record. -/
inductive WrittenFields :
    (fields : List Field) → Values fields → List (String × Value) → Prop
  /-- No fields. -/
  | nil : WrittenFields [] () []
  /-- A field and the other ones. -/
  | cons {field : Field} {fields : List Field} {content : field.slot.Value}
      {contents : Values fields} {name : String} {value : Value}
      {members : List (String × Value)} (hname : name = field.name)
      (hfield : WrittenSlot field.slot content value)
      (hfields : WrittenFields fields contents members) :
      WrittenFields (field :: fields) (content, contents) ((name, value) :: members)

theorem WrittenFields.names_eq {fields : List Field} {contents : Values fields}
    {members : List (String × Value)} (h : WrittenFields fields contents members) :
    members.map Prod.fst = fields.map Field.name := by
  induction h with
  | nil => rfl
  | cons hname _ _ ih => rw [List.map_cons, List.map_cons, ih, hname]

/-- Two parts are both read, if there are enough levels for the deeper one. -/
theorem bind_if_depth {α β γ : Type} {depth depth' levels : ℕ} {a : α} {b : β} (f : α → β → γ) :
    ((if depth ≤ levels then some a else none).bind fun a =>
        (if depth' ≤ levels then some b else none).map (f a)) =
      if max depth depth' ≤ levels then some (f a b) else none := by
  by_cases hfirst : depth ≤ levels
  · rw [if_pos hfirst, Option.bind_some]
    by_cases hsecond : depth' ≤ levels
    · rw [if_pos hsecond, if_pos (Nat.max_le.2 ⟨hfirst, hsecond⟩), Option.map_some]
    · rw [if_neg hsecond, if_neg fun h => hsecond (Nat.max_le.1 h).2, Option.map_none]
  · rw [if_neg hfirst, if_neg fun h => hfirst (Nat.max_le.1 h).1, Option.bind_none]

theorem WrittenFields.decodeList_eq {fields : List Field} {contents : Values fields}
    {members : List (String × Value)} (h : WrittenFields fields contents members) (levels : ℕ) :
    decodeList (decode levels) fields (members.map fun member => member.2.tree) =
      if Value.depthMembers members ≤ levels then some contents else none := by
  induction h with
  | nil => exact (if_pos (Nat.zero_le levels)).symm
  | @cons field fields content contents name value members _ hfield _ ih =>
    rw [List.map_cons, decodeList, hfield levels, ih, Value.depthMembers]
    exact bind_if_depth Prod.mk

/-- An object with all fields denotes the record. -/
theorem written_object (form : Form) {contents : Values form.fields}
    {members : List (String × Value)} (h : WrittenFields form.fields contents members) :
    Written (.record form) (form.build contents) (.object members) := by
  intro levels
  rw [Value.depth]
  cases levels with
  | zero => rw [if_neg (Nat.not_succ_le_zero _), decode]
  | succ levels =>
    have hnodup : (members.map Prod.fst).Nodup := h.names_eq ▸ form.fields_nodup
    rw [decode, Value.tree, Form.decode, decodeObject_treeMembers hnodup (fun _ h => h) h.names_eq,
      h.decodeList_eq]
    simp only [Nat.succ_le_succ_iff]
    split <;> rfl

/-- A list of records denotes them. -/
theorem written_list (form : Form) {contents : List form.Value} {elements : List Value}
    (h : List.Forall₂ (Written (.record form)) contents elements) :
    Written (.records form) contents (.list elements) := by
  have hall (levels : ℕ) : (Value.treeAll elements).mapM (decode levels (.record form)) =
      if Value.depthAll elements ≤ levels then some contents else none := by
    induction h with
    | nil => exact (if_pos (Nat.zero_le levels)).symm
    | @cons content element contents elements hcontent _ ih =>
      rw [Value.treeAll, List.mapM_cons, hcontent levels, ih, Value.depthAll]
      rw [← bind_if_depth List.cons]
      simp only [Option.map_eq_bind]
      rfl
  intro levels
  rw [Value.depth]
  cases levels with
  | zero => rw [if_neg (Nat.not_succ_le_zero _), decode]
  | succ levels =>
    rw [decode, Value.tree, Form.decodeAll, hall]
    exact if_congr Nat.succ_le_succ_iff.symm rfl rfl

/-- A value that may be missing is written as null or as itself. -/
theorem written_orNull {shape : Shape} {write : shape.Value → Value}
    (hnull : ∀ levels, decode levels shape .null = none)
    (h : ∀ content, Written shape content (write content)) (content : Option shape.Value) :
    WrittenSlot (.nullable shape) content (orNull write content) := by
  intro levels
  cases content with
  | none => exact (if_pos (Nat.zero_le levels)).symm
  | some content =>
    -- what is written for a content is not null, since null denotes nothing
    have hne : (write content).tree ≠ .null := by
      intro heq
      have hvalue := h content (write content).depth
      rw [heq, hnull, if_pos (Nat.le_refl _)] at hvalue
      cases hvalue
    have hslot (tree : Tree) (hne : tree ≠ .null) :
        (Slot.nullable shape).decode (decode levels) tree =
          (decode levels shape tree).map some := by
      cases tree with
      | null => exact absurd rfl hne
      | _ => rfl
    rw [orNull, hslot _ hne, h content levels]
    split <;> rfl

/-! ### What is written for each form -/

section Scalars

theorem written_scalar {scalar : Scalar} {content : scalar.Value} {value : Value}
    (hdepth : value.depth = 0)
    (h : ∀ levels, decode levels (.scalar scalar) value.tree = some content) :
    Written (.scalar scalar) content value := by
  intro levels
  rw [hdepth, if_pos (Nat.zero_le levels), h]

theorem written_text (content : String) : Written (.scalar .text) content (.text content) :=
  written_scalar rfl fun _ => decode_text ⟨_, rfl, Piece.content?_ofText content⟩

theorem written_path (path : Path) : Written (.scalar .path) path (.text path.text) :=
  written_scalar rfl fun _ => decode_path ⟨_, rfl, Piece.content?_ofText path.text⟩

theorem written_word32 (n : UInt32) : Written (.scalar .word32) n (.natural n.toNat) :=
  written_scalar rfl fun _ => decode_word32 ⟨_, rfl, Numeral.natural?_ofNat _⟩

theorem written_word64 (n : UInt64) : Written (.scalar .word64) n (.natural n.toNat) :=
  written_scalar rfl fun _ => decode_word64 ⟨_, rfl, Numeral.natural?_ofNat _⟩

theorem written_flag (value : Bool) : Written (.scalar .flag) value (.flag value) :=
  written_scalar rfl fun _ => decode_flag rfl

theorem written_subjectKind (kind : SubjectKind) :
    Written (.scalar .subjectKind) kind (.text (nameIn SubjectKind.names kind)) := by
  have hname : nameIn SubjectKind.names kind = kind.word := by cases kind <;> rfl
  rw [hname]
  exact written_scalar rfl fun _ => decode_subjectKind (.text (Piece.content?_ofText _))

theorem written_typeKind (kind : TypeKind) :
    Written (.scalar .typeKind) kind (.text (nameIn TypeKind.names kind)) := by
  have hname : nameIn TypeKind.names kind = kind.word := by cases kind <;> rfl
  rw [hname]
  exact written_scalar rfl fun _ => decode_typeKind (.text (Piece.content?_ofText _))

theorem written_instruction (instruction : Instruction) :
    Written (.scalar .instruction) instruction
      (.text (nameIn Instruction.names instruction)) := by
  have hname : nameIn Instruction.names instruction = instruction.word := by
    cases instruction <;> rfl
  rw [hname]
  exact written_scalar rfl fun _ => decode_instruction (.text (Piece.content?_ofText _))

end Scalars

theorem TextRange.written (range : TextRange) : Written (.record .range) range range.json :=
  written_object .range <| .cons rfl (written_word32 _) <| .cons rfl (written_word32 _) .nil

theorem Location.written (location : Location) :
    Written (.record .location) location location.json :=
  written_object .location <| .cons rfl (written_word64 _) <| .cons rfl (written_word64 _) .nil

theorem Element.written (element : Element) :
    Written (.record .element) element element.json :=
  written_object .element <| .cons rfl element.range.written <|
    .cons rfl element.location.written <| .cons rfl (written_flag _) <|
    .cons rfl (written_flag _) .nil

theorem Exit.written (exit : Exit) : Written (.record .exit) exit exit.json :=
  written_object .exit <| .cons rfl (written_instruction _) <|
    .cons rfl (written_orNull (fun levels => decode_scalar levels .text .null) written_text _) <|
    .cons rfl (written_flag _) .nil

theorem Body.written (body : Body) : Written (.record .body) body body.json := by
  have hexits : List.Forall₂ (Written (.record .exit)) body.exits (body.exits.map Exit.json) :=
    List.forall₂_map_right_iff.2 (List.forall₂_same.2 fun exit _ => exit.written)
  exact written_object .body <| .cons rfl (written_list .exit hexits) <|
    .cons rfl (written_orNull (decode_record_null · .element) Element.written _) .nil

theorem TypeInfo.written (type : TypeInfo) : Written (.record .typeInfo) type type.json :=
  written_object .typeInfo <| .cons rfl (written_text _) <| .cons rfl (written_typeKind _) .nil

namespace Subject

mutual

theorem written : (subject : Subject) → Written (.record .subject) subject subject.json
  | { name, kind, declared, returnType, body, closures } =>
    written_object .subject <| .cons rfl (written_text name) <|
      .cons rfl (written_subjectKind kind) <| .cons rfl (written_flag declared) <|
      .cons rfl (written_orNull (decode_record_null · .typeInfo) TypeInfo.written returnType) <|
      .cons rfl (written_orNull (decode_record_null · .body) Body.written body) <|
      .cons rfl (written_list .subject (writtenAll closures)) .nil

theorem writtenAll : (subjects : List Subject) →
    List.Forall₂ (Written (.record .subject)) subjects (jsonAll subjects)
  | [] => .nil
  | subject :: subjects => .cons subject.written (writtenAll subjects)

end

end Subject

theorem FlowUnit.written (unit : FlowUnit) : Written (.record .unit) unit unit.json :=
  written_object .unit <| .cons rfl (written_path unit.file) <|
    .cons rfl (written_list .subject (Subject.writtenAll unit.subjects)) .nil

/-! ### How deeply units are nested -/

/-- How many levels of lists and objects there are from the root of a flow unit down to the end of a
subject, leaving its closures aside.  The subject stands below `depth` other ones. -/
def Subject.levels (depth : ℕ) (subject : Subject) : ℕ :=
  match subject.body with
  | none => 4 + 2 * depth
  | some body =>
    if body.exits = [] ∧ body.lastChild = none then 5 + 2 * depth else 6 + 2 * depth

theorem Exit.depth_json (exit : Exit) : exit.json.depth = 1 := by
  cases hvalue : exit.value <;> simp [json, hvalue, orNull, Value.depth, Value.depthMembers]

theorem Element.depth_json (element : Element) : element.json.depth = 2 := by
  simp [json, TextRange.json, Location.json, Value.depth, Value.depthMembers]

theorem Body.depth_json (body : Body) :
    body.json.depth = if body.exits = [] ∧ body.lastChild = none then 2 else 3 := by
  have hexits : Value.depthAll (body.exits.map Exit.json) = if body.exits = [] then 0 else 1 := by
    induction body.exits with
    | nil => rfl
    | cons exit exits ih =>
      rw [List.map_cons, Value.depthAll, ih, exit.depth_json, if_neg (List.cons_ne_nil _ _)]
      split <;> rfl
  have hlast : (orNull Element.json body.lastChild).depth =
      if body.lastChild = none then 0 else 2 := by
    cases body.lastChild with
    | none => rfl
    | some element => exact element.depth_json
  simp only [json, Value.depth, Value.depthMembers, hexits, hlast]
  by_cases hexits : body.exits = [] <;> by_cases hlast : body.lastChild = none <;>
    simp [hexits, hlast]

namespace Subject

/-- A subject nests as deeply as its levels tell, and as its closures nest two levels further
down. -/
theorem depth_json (depth : ℕ) (subject : Subject) : 2 + 2 * depth + subject.json.depth =
    max (subject.levels depth)
      (2 + 2 * (depth + 1) + Value.depthAll (jsonAll subject.closures)) := by
  obtain ⟨name, kind, declared, returnType, body, closures⟩ := subject
  have htype : (orNull TypeInfo.json returnType).depth ≤ 1 := by
    cases returnType with
    | none => exact Nat.zero_le 1
    | some type => simp [orNull, TypeInfo.json, Value.depth, Value.depthMembers]
  have hbody : max (2 + 2 * depth + 1 + (orNull Body.json body).depth) (4 + 2 * depth) =
      levels depth ⟨name, kind, declared, returnType, body, closures⟩ := by
    cases body with
    | none =>
      simp only [orNull, levels, Value.depth]
      omega
    | some body =>
      simp only [orNull, levels, body.depth_json]
      split <;> omega
  rw [← hbody]
  simp only [json, Value.depth, Value.depthMembers]
  omega

theorem le_levels (depth : ℕ) (subject : Subject) : 4 + 2 * depth ≤ subject.levels depth := by
  unfold levels
  split
  · exact Nat.le_refl _
  · split <;> omega

mutual

/-- What the subjects reach down to tells how deeply a subject nests. -/
theorem depth_le_iff : (subject : Subject) → (depth limit : ℕ) →
    (2 + 2 * depth + subject.json.depth ≤ limit ↔
      ∀ entry ∈ subject.outline depth, entry.2.levels entry.1 ≤ limit)
  | ⟨name, kind, declared, returnType, body, closures⟩, depth, limit => by
    rw [depth_json, outline, List.forall_mem_cons, Nat.max_le,
      depthAll_le_iff closures (depth + 1) limit]
    refine and_congr_right fun hlevels => and_iff_right ?_
    have hle := le_levels depth ⟨name, kind, declared, returnType, body, closures⟩
    omega

theorem depthAll_le_iff : (subjects : List Subject) → (depth limit : ℕ) →
    (2 + 2 * depth + Value.depthAll (jsonAll subjects) ≤ limit ↔
      2 + 2 * depth ≤ limit ∧
        ∀ entry ∈ outlineAll depth subjects, entry.2.levels entry.1 ≤ limit)
  | [], depth, limit => by simp [jsonAll, Value.depthAll, outlineAll]
  | subject :: subjects, depth, limit => by
    have hsubject := depth_le_iff subject depth limit
    have hsubjects := depthAll_le_iff subjects depth limit
    rw [jsonAll, Value.depthAll, outlineAll, List.forall_mem_append, ← hsubject, and_left_comm,
      ← hsubjects]
    omega

end

end Subject

theorem FlowUnit.depth_le_iff (unit : FlowUnit) {limit : ℕ} (hlimit : 2 ≤ limit) :
    unit.json.depth ≤ limit ↔
      ∀ entry ∈ unit.outline, entry.2.levels entry.1 ≤ limit := by
  have hsubjects := Subject.depthAll_le_iff unit.subjects 0 limit
  have hdepth : unit.json.depth = 2 + 2 * 0 + Value.depthAll (Subject.jsonAll unit.subjects) := by
    simp only [json, Value.depth, Value.depthMembers]
    omega
  rw [hdepth, hsubjects]
  exact and_iff_right hlimit

/-- **The round trip of flow units.**  The text of a unit is read as this unit if it nests lists and
objects at most 127 deep, and else it is refused.  It does so if the subjects, those at each depth
of nested closures, reach down to no more than 127 levels. -/
theorem FlowUnit.ofJson_toJson (unit : FlowUnit) :
    (FlowUnit.ofJson unit.toJson = .ok unit ↔ unit.json.depth ≤ 127) ∧
      (¬ unit.json.depth ≤ 127 → ∃ refusal, FlowUnit.ofJson unit.toJson = .error refusal) ∧
      (unit.json.depth ≤ 127 ↔ ∀ entry ∈ unit.outline, entry.2.levels entry.1 ≤ 127) := by
  have hwrites : Writes unit.toJson unit.json.tree := unit.json.writes_compact
  have hvalue : decode 127 (.record .unit) unit.json.tree =
      if unit.json.depth ≤ 127 then some unit else none := unit.written 127
  have hrefused (h : ¬ unit.json.depth ≤ 127) :
      ∃ refusal, FlowUnit.ofJson unit.toJson = .error refusal := by
    rw [if_neg h] at hvalue
    exact readWhole_eq_error hwrites hvalue
  refine ⟨⟨fun hread => ?_, fun h => ?_⟩, hrefused, unit.depth_le_iff (by decide)⟩
  · by_contra h
    obtain ⟨refusal, hrefused⟩ := hrefused h
    rw [hrefused] at hread
    cases hread
  · rw [if_pos h] at hvalue
    exact readWhole_eq_ok hwrites hvalue

end ReturnPaths
