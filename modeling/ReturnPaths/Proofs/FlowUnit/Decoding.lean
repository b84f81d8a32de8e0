import ReturnPaths.FlowUnit.Layout
import ReturnPaths.Proofs.Json.Document
import Mathlib.Data.List.Forall2

/-!
# What documents denote

`decode` says what a document denotes as a value of some shape, field by field: a field of an object
is decided by the members with its name, however many there are and wherever they stand, and a field
of a list by the element at its place.

* `Field.decode` : what an object says about a field.
* `decode` : what a document denotes, nested to at most some depth.
-/

namespace ReturnPaths

open Json

/-! ### Scalars -/

/-- Which of the given names a string denotes. -/
def Json.Piece.name? {α : Type} (names : List (String × α)) (pieces : List Piece) : Option α :=
  (Piece.content? pieces).bind fun name => names.lookup name

namespace Json.Tree

/-- The string that a document denotes. -/
def text? : Tree → Option String
  | text pieces => Piece.content? pieces
  | _ => none

/-- The truth value that a document denotes. -/
def flag? : Tree → Option Bool
  | flag value => some value
  | _ => none

/-- The number below a limit that a document denotes. -/
def below? (limit : ℕ) : Tree → Option ℕ
  | number numeral => numeral.natural?.filter (· < limit)
  | _ => none

/-- Which of the given names a document denotes.  An object with the name as its only key takes a
level. -/
def name? {α : Type} (levels : ℕ) (names : List (String × α)) : Tree → Option α
  | text pieces => Piece.name? names pieces
  | object [(key, null)] => if levels = 0 then none else Piece.name? names key
  | _ => none

end Json.Tree

/-- The scalar that a document denotes. -/
def Scalar.decode (levels : ℕ) (tree : Tree) : (scalar : Scalar) → Option scalar.Value
  | text => tree.text?
  | path => tree.text?.map Path.mk
  | word32 => (tree.below? UInt32.size).map UInt32.ofNat
  | word64 => (tree.below? UInt64.size).map UInt64.ofNat
  | flag => tree.flag?
  | subjectKind => tree.name? levels SubjectKind.names
  | typeKind => tree.name? levels TypeKind.names
  | instruction => tree.name? levels Instruction.names

/-! The ways to write a string, a number and a name. -/

namespace Json.Tree

/-- A document is a string with this content. -/
def IsText (content : String) (tree : Tree) : Prop :=
  ∃ pieces, tree = text pieces ∧ Piece.content? pieces = some content

/-- A document is this number in plain decimal. -/
def IsNatural (n : ℕ) (tree : Tree) : Prop :=
  ∃ numeral, tree = number numeral ∧ numeral.natural? = some n

/-- A document is this name, as a string or as the only key of an object. -/
inductive IsName (levels : ℕ) (name : String) : Tree → Prop
  /-- A string. -/
  | text {pieces : List Piece} (hname : Piece.content? pieces = some name) :
      IsName levels name (.text pieces)
  /-- An object with the name as its only key and null below it. -/
  | key {key : List Piece} (hname : Piece.content? key = some name) (hlevels : levels ≠ 0) :
      IsName levels name (.object [(key, .null)])

variable {tree : Tree}

theorem text?_eq_some {content : String} : tree.text? = some content ↔ tree.IsText content := by
  constructor
  · intro h
    cases tree with
    | text pieces => exact ⟨pieces, rfl, h⟩
    | _ => cases h
  · rintro ⟨pieces, rfl, h⟩
    exact h

theorem below?_eq_some {limit n : ℕ} :
    tree.below? limit = some n ↔ tree.IsNatural n ∧ n < limit := by
  constructor
  · intro h
    cases tree with
    | number numeral =>
      obtain ⟨hn, hlt⟩ := Option.filter_eq_some_iff.1 h
      exact ⟨⟨numeral, rfl, hn⟩, of_decide_eq_true hlt⟩
    | _ => cases h
  · rintro ⟨⟨numeral, rfl, hn⟩, hlt⟩
    exact Option.filter_eq_some_iff.2 ⟨hn, decide_eq_true hlt⟩

theorem flag?_eq_some {value : Bool} : tree.flag? = some value ↔ tree = flag value := by
  cases tree with
  | flag other => exact ⟨fun h => congrArg _ (Option.some.inj h), fun h => by cases h; rfl⟩
  | _ => exact ⟨nofun, nofun⟩

theorem name?_eq_some {α : Type} {levels : ℕ} {names : List (String × α)} {value : α} :
    tree.name? levels names = some value ↔
      ∃ name, tree.IsName levels name ∧ names.lookup name = some value := by
  constructor
  · intro h
    unfold name? at h
    split at h
    · obtain ⟨name, hname, hlookup⟩ := Option.bind_eq_some_iff.1 h
      exact ⟨name, .text hname, hlookup⟩
    · by_cases hlevels : levels = 0
      · rw [if_pos hlevels] at h
        cases h
      · rw [if_neg hlevels] at h
        obtain ⟨name, hname, hlookup⟩ := Option.bind_eq_some_iff.1 h
        exact ⟨name, .key hname hlevels, hlookup⟩
    · cases h
  · rintro ⟨name, hname, hlookup⟩
    cases hname with
    | text hname => exact Option.bind_eq_some_iff.2 ⟨name, hname, hlookup⟩
    | key hname hlevels =>
      rw [name?, if_neg hlevels]
      exact Option.bind_eq_some_iff.2 ⟨name, hname, hlookup⟩

end Json.Tree

/-! ### Records -/

section

variable (inner : (shape : Shape) → Tree → Option shape.Value)

/-- What a document denotes for a field. -/
def Slot.decode (tree : Tree) : (slot : Slot) → Option slot.Value
  | .given shape => inner shape tree
  | .nullable shape =>
    match tree with
    | .null => some none
    | tree => (inner shape tree).map some

/-- What an object says about a field: its default if there is no member with its name, and nothing
if there are several. -/
def Field.decode (members : List (List Piece × Tree)) (field : Field) : Option field.slot.Value :=
  match valuesOf field.name members with
  | [] => field.default
  | [tree] => field.slot.decode inner tree
  | _ => none

/-- What an object says about fields; every key needs to be a string. -/
def decodeObject (members : List (List Piece × Tree)) :
    (fields : List Field) → Option (Values fields)
  | [] => if ∀ member ∈ members, (Piece.content? member.1).isSome then some () else none
  | field :: fields =>
    (field.decode inner members).bind fun value =>
      (decodeObject members fields).map (value, ·)

/-- What a list says about fields; the last ones may be left out. -/
def decodeList : (fields : List Field) → List Tree → Option (Values fields)
  | [], [] => some ()
  | [], _ :: _ => none
  | field :: fields, [] =>
    field.default.bind fun value => (decodeList fields []).map (value, ·)
  | field :: fields, tree :: trees =>
    (field.slot.decode inner tree).bind fun value => (decodeList fields trees).map (value, ·)

/-- The record that a document denotes. -/
def Form.decode (form : Form) : Tree → Option form.Value
  | .list elements => (decodeList inner form.fields elements).map form.build
  | .object members => (decodeObject inner members form.fields).map form.build
  | _ => none

/-- The records that a document denotes. -/
def Form.decodeAll (form : Form) : Tree → Option (List form.Value)
  | .list elements => elements.mapM (inner (.record form))
  | _ => none

end

/-- Documents denote values, if each of them denotes its own. -/
theorem mapM_eq_some {α β : Type} {f : α → Option β} {elements : List α} {values : List β} :
    elements.mapM f = some values ↔
      List.Forall₂ (fun element value => f element = some value) elements values := by
  induction elements generalizing values with
  | nil =>
    rw [List.mapM_nil, List.forall₂_nil_left_iff]
    exact ⟨fun h => (Option.some.inj h).symm, fun h => congrArg some h.symm⟩
  | cons element elements ih =>
    rw [List.mapM_cons, List.forall₂_cons_left_iff]
    constructor
    · intro h
      obtain ⟨value, hvalue, hrest⟩ := Option.bind_eq_some_iff.1 h
      obtain ⟨others, hothers, heq⟩ := Option.bind_eq_some_iff.1 hrest
      exact ⟨value, others, hvalue, ih.1 hothers, (Option.some.inj heq).symm⟩
    · rintro ⟨value, others, hvalue, hothers, rfl⟩
      rw [hvalue, ih.2 hothers]
      rfl

/-- What a document denotes as a value of some shape whose lists and objects are nested to at most
this depth. -/
def decode : (levels : ℕ) → (shape : Shape) → Tree → Option shape.Value
  | levels, .scalar scalar, tree => scalar.decode levels tree
  | 0, .record _, _ => none
  | 0, .records _, _ => none
  | levels + 1, .record form, tree => form.decode (decode levels) tree
  | levels + 1, .records form, tree => form.decodeAll (decode levels) tree

theorem decode_scalar (levels : ℕ) (scalar : Scalar) (tree : Tree) :
    decode levels (.scalar scalar) tree = scalar.decode levels tree := by
  cases levels <;> rw [decode]

theorem decode_record_null (levels : ℕ) (form : Form) :
    decode levels (.record form) .null = none := by
  cases levels <;> rfl

end ReturnPaths
