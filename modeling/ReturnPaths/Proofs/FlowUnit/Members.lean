import ReturnPaths.Proofs.FlowUnit.Decoding
import Mathlib.Data.List.Nodup

/-!
# Members one after the other

The reader inserts the members of an object into a draft one after the other, and fills up the draft
in the end.  Taking the fields one after the other instead gives the same, since the fields of a
record have different names; that is how `decodeObject` is defined.

* `Draft.insertAll` : a draft after some members, one after the other.
* `Draft.extend` : a draft after some members, field by field.
* `Draft.insertAll_eq` : both are the same.
* `decodeObject_eq` : what an object says about fields, from a draft.
-/

namespace ReturnPaths

open Json

theorem Form.fields_nodup (form : Form) : (form.fields.map Field.name).Nodup := by
  cases form <;> decide

variable (inner : (shape : Shape) → Tree → Option shape.Value)

/-- A draft with the value of one more member. -/
def Draft.insert (key : String) (tree : Tree) :
    (fields : List Field) → Draft fields → Option (Draft fields)
  | [], () => some ()
  | field :: fields, (held, draft) =>
    if field.name = key then
      if held.isSome then none
      else (field.slot.decode inner tree).map fun value => (some value, draft)
    else (insert key tree fields draft).map (held, ·)

/-- A draft with the values of more members. -/
def Draft.insertAll (fields : List Field) :
    Draft fields → List (List Piece × Tree) → Option (Draft fields)
  | draft, [] => some draft
  | draft, (key, tree) :: members =>
    (Piece.content? key).bind fun name =>
      (Draft.insert inner name tree fields draft).bind (insertAll fields · members)

/-- What a field of a draft holds after more members. -/
def Field.extend (members : List (List Piece × Tree)) (field : Field)
    (held : Option field.slot.Value) : Option (Option field.slot.Value) :=
  match valuesOf field.name members with
  | [] => some held
  | [tree] => if held.isSome then none else (field.slot.decode inner tree).map some
  | _ => none

/-- A draft after more members, field by field. -/
def Draft.extend (members : List (List Piece × Tree)) :
    (fields : List Field) → Draft fields → Option (Draft fields)
  | [], () => if ∀ member ∈ members, (Piece.content? member.1).isSome then some () else none
  | field :: fields, (held, draft) =>
    (field.extend inner members held).bind fun held =>
      (extend members fields draft).map (held, ·)

variable {key : List Piece} {name : String} {tree : Tree} {members : List (List Piece × Tree)}

theorem valuesOf_cons_of_eq (hkey : Piece.content? key = some name) :
    valuesOf name ((key, tree) :: members) = tree :: valuesOf name members := by
  simp [valuesOf, hkey]

theorem valuesOf_cons_of_ne (hkey : Piece.content? key ≠ some name) :
    valuesOf name ((key, tree) :: members) = valuesOf name members := by
  simp [valuesOf, hkey]

theorem Field.extend_cons_of_ne (field : Field) (held : Option field.slot.Value)
    (hkey : Piece.content? key ≠ some field.name) :
    field.extend inner ((key, tree) :: members) held = field.extend inner members held := by
  rw [extend, valuesOf_cons_of_ne hkey, extend]

/-- A member with the name of a field gives the field its value. -/
theorem Field.extend_cons (field : Field) (held : Option field.slot.Value)
    (hkey : Piece.content? key = some field.name) :
    field.extend inner ((key, tree) :: members) held =
      if held.isSome then none
      else (field.slot.decode inner tree).bind fun value =>
        field.extend inner members (some value) := by
  rw [extend, valuesOf_cons_of_eq hkey]
  unfold extend
  rcases valuesOf field.name members with _ | ⟨other, others⟩
  · exact if_congr Iff.rfl rfl Option.map_eq_bind
  · -- a second member with the name makes both sides fail
    have hnone (value : field.slot.Value) :
        (match other :: others with
          | [] => some (some value)
          | [tree] => if (some value).isSome then none else (field.slot.decode inner tree).map some
          | _ => none) = (none : Option (Option field.slot.Value)) := by
      rcases others with _ | ⟨another, others⟩ <;> rfl
    simp only [hnone, Option.bind_fun_none, ite_self]

theorem Draft.extend_nil (fields : List Field) (draft : Draft fields) :
    Draft.extend inner [] fields draft = some draft := by
  induction fields with
  | nil => exact if_pos fun _ h => nomatch h
  | cons field fields ih =>
    obtain ⟨held, draft⟩ := draft
    rw [extend, ih]
    rfl

theorem Draft.extend_unnamed (hkey : Piece.content? key = none) (fields : List Field)
    (draft : Draft fields) :
    Draft.extend inner ((key, tree) :: members) fields draft = none := by
  induction fields with
  | nil =>
    refine if_neg fun h => ?_
    have := h _ List.mem_cons_self
    rw [hkey] at this
    cases this
  | cons field fields ih =>
    obtain ⟨held, draft⟩ := draft
    rw [extend, ih]
    exact Option.bind_fun_none _

theorem Draft.extend_cons_of_not_mem (hkey : Piece.content? key = some name) (fields : List Field)
    (hname : name ∉ fields.map Field.name) (draft : Draft fields) :
    Draft.extend inner ((key, tree) :: members) fields draft =
      Draft.extend inner members fields draft := by
  induction fields with
  | nil => exact if_congr (by simp [hkey]) rfl rfl
  | cons field fields ih =>
    obtain ⟨held, draft⟩ := draft
    rw [List.map_cons, List.mem_cons, not_or] at hname
    have hne : Piece.content? key ≠ some field.name := by
      rw [hkey]
      exact fun h => hname.1 (Option.some.inj h)
    rw [extend, Field.extend_cons_of_ne inner field held hne, ih hname.2, extend]

/-- One member in front of the others may be inserted first. -/
theorem Draft.extend_cons (hkey : Piece.content? key = some name) (fields : List Field)
    (hnodup : (fields.map Field.name).Nodup) (draft : Draft fields) :
    Draft.extend inner ((key, tree) :: members) fields draft =
      (Draft.insert inner name tree fields draft).bind (Draft.extend inner members fields) := by
  induction fields with
  | nil => exact if_congr (by simp [hkey]) rfl rfl
  | cons field fields ih =>
    obtain ⟨held, draft⟩ := draft
    obtain ⟨hname, hnodup⟩ := List.nodup_cons.1 hnodup
    rw [extend, insert]
    by_cases heq : field.name = name
    · -- the member is for this field, and no other field has the name
      subst heq
      rw [if_pos rfl, Field.extend_cons inner field held hkey,
        extend_cons_of_not_mem inner hkey fields hname]
      split_ifs
      · rfl
      · rw [Option.bind_assoc, Option.map_eq_bind, Option.bind_assoc]
        rfl
    · have hne : Piece.content? key ≠ some field.name := by
        rw [hkey]
        exact fun h => heq (Option.some.inj h).symm
      rw [if_neg heq, Field.extend_cons_of_ne inner field held hne, ih hnodup]
      cases insert inner name tree fields draft with
      | none => exact Option.bind_fun_none _
      | some draft => rfl

theorem Draft.insertAll_eq (fields : List Field) (hnodup : (fields.map Field.name).Nodup)
    (draft : Draft fields) (members : List (List Piece × Tree)) :
    Draft.insertAll inner fields draft members = Draft.extend inner members fields draft := by
  induction members generalizing draft with
  | nil => rw [insertAll, extend_nil]
  | cons member members ih =>
    obtain ⟨key, tree⟩ := member
    rw [insertAll]
    cases hkey : Piece.content? key with
    | none => rw [extend_unnamed inner hkey, Option.bind_none]
    | some name =>
      rw [extend_cons inner hkey fields hnodup, Option.bind_some]
      exact congrArg _ (funext ih)

theorem Draft.toOption_complete (field : Field) (fields : List Field)
    (held : Option field.slot.Value) (draft : Draft fields) :
    (Draft.complete (field :: fields) (held, draft)).toOption =
      (held <|> field.default).bind fun value =>
        (Draft.complete fields draft).toOption.map (value, ·) := by
  rw [complete]
  cases held <|> field.default with
  | none => rfl
  | some value => cases Draft.complete fields draft <;> rfl

/-- What an object says about fields, from a draft. -/
theorem decodeObject_eq (fields : List Field) (members : List (List Piece × Tree)) :
    decodeObject inner members fields =
      (Draft.extend inner members fields (Draft.blank fields)).bind fun draft =>
        (Draft.complete fields draft).toOption := by
  induction fields with
  | nil =>
    rw [decodeObject, Draft.extend]
    split_ifs <;> rfl
  | cons field fields ih =>
    have hfield : field.decode inner members =
        (field.extend inner members none).bind fun held => held <|> field.default := by
      rw [Field.decode, Field.extend]
      rcases valuesOf field.name members with _ | ⟨tree, _ | ⟨other, others⟩⟩
      · rfl
      · simp only [Option.isSome_none, Bool.false_eq_true, if_false]
        cases field.slot.decode inner tree <;> rfl
      · rfl
    rw [decodeObject, ih, Draft.blank, Draft.extend, hfield, Option.bind_assoc, Option.bind_assoc]
    refine congrArg _ (funext fun held => ?_)
    cases Draft.extend inner members fields (Draft.blank fields) with
    | none => exact Option.bind_fun_none _
    | some draft => exact (Draft.toOption_complete field fields held draft).symm

/-- What an empty list says about fields. -/
theorem decodeList_nil (fields : List Field) :
    decodeList inner fields [] = (Draft.complete fields (Draft.blank fields)).toOption := by
  induction fields with
  | nil => rfl
  | cons field fields ih =>
    rw [decodeList, ih, Draft.blank, Draft.toOption_complete]
    rfl

end ReturnPaths
