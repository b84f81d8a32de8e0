import ReturnPaths.Path.Bytes
import ReturnPaths.Proofs.Path.Order
import ReturnPaths.Proofs.Path.Pieces
import ReturnPaths.Proofs.Text.Bytes

/-!
# The order of paths of any bytes

Paths of any bytes are ordered as paths are, once each byte is read as a character.  For paths that
are texts this is the order of the texts' components: the bytes of a character other than a slash
or a dot are neither, and the order of names is the order of their bytes.  Different paths may be
shown as the same text, but not if both are texts.

* `BytePath.Before` : the order, from the components of two paths.
* `Path.text_toBytes` : a path that is a text is shown as it is.
* `Path.compare_toBytes` : the order of paths that are texts is the order of their bytes.
-/

namespace ReturnPaths

namespace BytePath

instance : Std.TransCmp BytePath.compare where
  eq_swap {a b} := Std.OrientedCmp.eq_swap (a := a.spelled) (b := b.spelled)
  isLE_trans {_ b _} h h' := Std.TransCmp.isLE_trans (b := b.spelled) h h'

variable {a b : BytePath}

theorem compare_eq_eq : a.compare b = .eq ↔ a.same b = true :=
  Path.compare_eq_eq.trans Path.same_iff.symm

/-- One path comes before another: where their components differ for the first time, its component
comes before, or it has no more components. -/
def Before (a b : BytePath) : Prop := a.spelled.Before b.spelled

theorem compare_eq_lt_iff : a.compare b = .lt ↔ a.Before b := Path.compare_eq_lt_iff

theorem same_self (a : BytePath) : a.same a = true := Path.same_self a.spelled

/-- A path is a text. -/
def IsText (path : BytePath) : Prop := ∃ text : Path, path = text

end BytePath

/-- A path that is a text is shown as it is. -/
@[simp]
theorem Path.text_toBytes (path : Path) : path.toBytes.text = path.text :=
  Text.ofBytes_bytes path.text

theorem BytePath.IsText.eq_of_text_eq {a b : BytePath} (ha : a.IsText) (hb : b.IsText)
    (h : a.text = b.text) : a = b := by
  obtain ⟨path, rfl⟩ := ha
  obtain ⟨path', rfl⟩ := hb
  rw [Path.text_toBytes, Path.text_toBytes] at h
  exact congrArg (fun text => Path.toBytes ⟨text⟩) h

/-! ### Characters and their bytes -/

namespace Text

/-- The bytes of a character, each as the character with its number. -/
def spell (c : Char) : List Char := (String.utf8EncodeChar c).map Char.ofUInt8

theorem toNat_ofUInt8 (byte : UInt8) : (Char.ofUInt8 byte).toNat = byte.toNat :=
  UInt8.toNat_toUInt32 byte

/-- A byte below 128 is a character of its own. -/
theorem eq_of_mem_spell {c d : Char} (hd : d.toNat < 128) (h : d ∈ spell c) : d = c := by
  obtain ⟨byte, hbyte, rfl⟩ := List.mem_map.1 h
  rw [toNat_ofUInt8] at hd
  rw [String.utf8EncodeChar.eq_1] at hbyte
  split_ifs at hbyte with hone
  · rw [List.mem_singleton] at hbyte
    refine Char.toNat_inj.1 ?_
    rw [toNat_ofUInt8, hbyte, UInt8.toNat_ofNat']
    exact Nat.mod_eq_of_lt (by omega)
  -- the first of several bytes is at least 192, and the others are at least 128
  all_goals
    simp only [List.mem_cons, List.not_mem_nil, or_false, ← UInt8.toNat_inj,
      UInt8.toNat_ofNat'] at hbyte
    omega

/-- What is written for a character other than a slash or a dot starts with neither. -/
theorem exists_spell_eq_cons (c : Char) :
    ∃ first rest, spell c = first :: rest ∧ (first = '/' → c = '/') ∧ (first = '.' → c = '.') := by
  have hne : spell c ≠ [] := by simp [spell, String.utf8EncodeChar_ne_nil]
  obtain ⟨first, rest, hcons⟩ := List.exists_cons_of_ne_nil hne
  have hmem : first ∈ spell c := hcons ▸ List.mem_cons_self
  refine ⟨first, rest, hcons, ?_, ?_⟩ <;> rintro rfl
  · exact (eq_of_mem_spell (by decide) hmem).symm
  · exact (eq_of_mem_spell (by decide) hmem).symm

/-- A text with its bytes as characters. -/
def spellAll (text : String) : String := String.ofList (text.toList.flatMap spell)

theorem spellAll_eq (text : String) :
    spellAll text = String.ofList ((bytes text).map Char.ofUInt8) := by
  rw [spellAll, bytes_eq, List.map_flatMap]
  rfl

theorem map_ofUInt8_lt {a b : List UInt8} (h : a < b) :
    a.map Char.ofUInt8 < b.map Char.ofUInt8 := by
  induction h with
  | nil => exact .nil
  | cons _ ih => exact .cons ih
  | @rel a _ b _ h =>
    have hnat : (Char.ofUInt8 a).toNat < (Char.ofUInt8 b).toNat := by
      rw [toNat_ofUInt8, toNat_ofUInt8]
      exact UInt8.lt_iff_toNat_lt.1 h
    exact .rel (Char.lt_def.2 (UInt32.lt_iff_toNat_lt.2 hnat))

theorem spellAll_strictMono : StrictMono spellAll := fun a b h => by
  rw [spellAll_eq, spellAll_eq, String.lt_iff_toList_lt, String.toList_ofList,
    String.toList_ofList]
  exact map_ofUInt8_lt (bytes_lt_bytes h)

theorem flatMap_spell_injective : Function.Injective (List.flatMap spell) := fun a b h => by
  have htext : spellAll (String.ofList a) = spellAll (String.ofList b) := by
    rw [spellAll, spellAll, String.toList_ofList, String.toList_ofList, h]
  exact String.ofList_injective (spellAll_strictMono.injective htext)

end Text

/-! ### Paths that are texts -/

namespace Component

/-- A component with the bytes of its name as characters. -/
def spell : Component → Component
  | name text => name (Text.spellAll text)
  | component => component

theorem rank_spell (component : Component) : component.spell.rank = component.rank := by
  cases component <;> rfl

theorem key_spell (component : Component) : component.spell.key = Text.spellAll component.key := by
  cases component <;> rfl

theorem spell_injective : Function.Injective spell := fun a b h => by
  have hrank : a.spell.rank = b.spell.rank := by rw [h]
  have hkey : a.spell.key = b.spell.key := by rw [h]
  rw [rank_spell, rank_spell] at hrank
  rw [key_spell, key_spell] at hkey
  exact eq_of_rank_of_key hrank (Text.spellAll_strictMono.injective hkey)

/-- Names are in the order of their bytes. -/
theorem compare_spell (a b : Component) : a.spell.compare b.spell = a.compare b := by
  simp only [compare, rank_spell, key_spell, Text.spellAll_strictMono.lt_iff_lt,
    spell_injective.eq_iff]

theorem ofPiece_of_ne {piece : List Char} (hnil : piece ≠ []) (hdot : piece ≠ ['.'])
    (hdots : piece ≠ ['.', '.']) : ofPiece piece = some (.name (String.ofList piece)) := by
  unfold ofPiece
  split
  · exact absurd rfl hnil
  · exact absurd rfl hdot
  · exact absurd rfl hdots
  · rfl

theorem ofPiece_flatMap_spell (piece : List Char) :
    ofPiece (piece.flatMap Text.spell) = (ofPiece piece).map spell := by
  -- the pieces that are no names are of characters of one byte
  by_cases hnil : piece = []
  · subst hnil
    rfl
  by_cases hdot : piece = ['.']
  · subst hdot
    rfl
  by_cases hdots : piece = ['.', '.']
  · subst hdots
    rfl
  have hne {other : List Char} (h : piece ≠ other) :
      piece.flatMap Text.spell ≠ other.flatMap Text.spell := Text.flatMap_spell_injective.ne h
  rw [ofPiece_of_ne hnil hdot hdots, ofPiece_of_ne (hne hnil) (hne hdot) (hne hdots)]
  simp [spell, Text.spellAll]

end Component

namespace Path

theorem toList_spelled_toBytes (path : Path) :
    path.toBytes.spelled.text.toList = path.text.toList.flatMap Text.spell := by
  rw [show path.toBytes.spelled.text = Text.spellAll path.text from
    (Text.spellAll_eq path.text).symm, Text.spellAll, String.toList_ofList]

theorem pieces_append {first cs piece : List Char} {rest : List (List Char)} (h : '/' ∉ first)
    (hpieces : pieces cs = piece :: rest) : pieces (first ++ cs) = (first ++ piece) :: rest := by
  induction first with
  | nil => exact hpieces
  | cons c first ih =>
    rw [List.mem_cons, not_or] at h
    rw [List.cons_append, pieces, if_neg (Ne.symm h.1), ih h.2]
    rfl

theorem pieces_flatMap_spell (cs : List Char) :
    pieces (cs.flatMap Text.spell) = (pieces cs).map (List.flatMap Text.spell) := by
  induction cs with
  | nil => rfl
  | cons c cs ih =>
    obtain ⟨piece, rest, hpieces⟩ := List.exists_cons_of_ne_nil (pieces_ne_nil cs)
    rw [hpieces, List.map_cons] at ih
    rw [List.flatMap_cons]
    by_cases hslash : c = '/'
    · subst hslash
      rw [pieces_cons_slash, hpieces]
      exact (pieces_cons_slash _).trans (congrArg ([] :: ·) ih)
    · have hmem : '/' ∉ Text.spell c :=
        fun hmem => hslash (Text.eq_of_mem_spell (by decide) hmem).symm
      rw [pieces_append hmem ih, pieces, if_neg hslash, hpieces]
      rfl

theorem leading_split_flatMap_spell (cs : List Char) :
    leading (split (cs.flatMap Text.spell)).1 = leading (split cs).1 := by
  rcases cs with _ | ⟨c, cs⟩
  · rfl
  by_cases hslash : c = '/'
  · subst hslash
    rfl
  by_cases hdot : c = '.'
  · subst hdot
    rcases cs with _ | ⟨d, ds⟩
    · rfl
    by_cases hnext : d = '/'
    · subst hnext
      rfl
    obtain ⟨first, rest, hspell, hfirst, -⟩ := Text.exists_spell_eq_cons d
    have hne : first ≠ '/' := mt hfirst hnext
    have hcons : ('.' :: d :: ds).flatMap Text.spell =
        '.' :: first :: (rest ++ ds.flatMap Text.spell) := by
      rw [List.flatMap_cons, List.flatMap_cons, hspell]
      rfl
    simp [hcons, split, hne, hnext]
  · obtain ⟨first, rest, hspell, hfirst, hfirst'⟩ := Text.exists_spell_eq_cons c
    have hne : first ≠ '/' := mt hfirst hslash
    have hne' : first ≠ '.' := mt hfirst' hdot
    simp [hspell, split, hne, hne', hslash, hdot]

theorem leading_map_spell (lead : List Char) :
    (leading lead).map Component.spell = leading lead := by
  unfold leading
  split <;> rfl

theorem components_toBytes (path : Path) :
    path.toBytes.spelled.components = path.components.map Component.spell := by
  rw [components_eq, components_eq, steps, steps, toList_spelled_toBytes,
    leading_split_flatMap_spell, pieces_flatMap_spell, List.filterMap_map, List.map_append,
    List.map_filterMap, leading_map_spell]
  exact congrArg _ (List.filterMap_congr fun piece _ => Component.ofPiece_flatMap_spell piece)

theorem compareComponents_map_spell (as bs : List Component) :
    compareComponents (as.map Component.spell) (bs.map Component.spell) =
      compareComponents as bs := by
  induction as generalizing bs with
  | nil => cases bs <;> rfl
  | cons a as ih =>
    cases bs with
    | nil => rfl
    | cons b bs =>
      rw [List.map_cons, List.map_cons, compareComponents, compareComponents,
        Component.compare_spell, ih]

/-- **The order of paths that are texts is the order of their bytes.** -/
theorem compare_toBytes (a b : Path) : a.toBytes.compare b.toBytes = a.compare b := by
  rw [BytePath.compare, compare, components_toBytes, components_toBytes,
    compareComponents_map_spell]
  rfl

theorem same_toBytes (a b : Path) : a.toBytes.same b.toBytes = a.same b := by
  rw [Bool.eq_iff_iff, ← BytePath.compare_eq_eq, compare_toBytes, compare_eq_eq, same_iff]

end Path

end ReturnPaths
