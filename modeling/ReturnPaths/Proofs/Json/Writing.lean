import ReturnPaths.Json.Value
import ReturnPaths.Proofs.Json.Spacing

/-!
# The documents that are written

The text of a value without blanks writes a document, and the strings and numbers in it stand for
those of the value.

* `Value.tree` : the document of a value.
* `writes_compact` : what is written is this document.
* `Piece.content?_ofText`, `Numeral.natural?_ofNat` : what its strings and numbers stand for.
* `Value.valuesOf_treeMembers` : the members of its objects.
-/

namespace ReturnPaths.Json

/-! ### Strings -/

theorem hexValue?_hexDigit (n : ℕ) : Text.hexValue? (hexDigit n) = some (n % 16) := by
  have hdigit : ∀ m < 16, Text.hexValue? (Nat.digitChar m) = some m := by decide
  exact hdigit (n % 16) (Nat.mod_lt n (by decide))

/-- The last hexadecimal digit of a number. -/
def HexDigit.ofNat (n : ℕ) : HexDigit := ⟨hexDigit n, n % 16, hexValue?_hexDigit n⟩

namespace Piece

/-- The part of a string that is written for a character. -/
def ofChar (c : Char) : Piece :=
  if hquote : c = '"' then .short '"' c (by rw [hquote]; decide)
  else if hbackslash : c = '\\' then .short '\\' c (by rw [hbackslash]; decide)
  else if h : c = '\x08' then .short 'b' c (by rw [h]; decide)
  else if h : c = '\x0c' then .short 'f' c (by rw [h]; decide)
  else if h : c = '\n' then .short 'n' c (by rw [h]; decide)
  else if h : c = '\r' then .short 'r' c (by rw [h]; decide)
  else if h : c = '\t' then .short 't' c (by rw [h]; decide)
  else if hprintable : 0x20 ≤ c.toNat then .plain c hprintable hquote hbackslash
  else .unit (.ofNat 0) (.ofNat 0) (.ofNat (c.toNat / 16)) (.ofNat c.toNat)

/-- The parts of a string that are written for its characters. -/
def ofText (text : String) : List Piece := text.toList.map ofChar

/-- A character is written as an escape of one letter, as itself, or by its number. -/
theorem ofChar_cases (c : Char) :
    (∃ letter h, ofChar c = short letter c h ∧ escape c = ['\\', letter]) ∨
      (∃ hprintable hquote hbackslash, ofChar c = plain c hprintable hquote hbackslash ∧
        escape c = [c]) ∨
      (c.toNat < 0x20 ∧
        ofChar c = unit (.ofNat 0) (.ofNat 0) (.ofNat (c.toNat / 16)) (.ofNat c.toNat) ∧
        escape c = ['\\', 'u', '0', '0', hexDigit (c.toNat / 16), hexDigit c.toNat]) := by
  by_cases hquote : c = '"'
  · subst hquote
    exact .inl ⟨'"', _, rfl, rfl⟩
  by_cases hbackslash : c = '\\'
  · subst hbackslash
    exact .inl ⟨'\\', _, rfl, rfl⟩
  by_cases hbackspace : c = '\x08'
  · subst hbackspace
    exact .inl ⟨'b', _, rfl, rfl⟩
  by_cases hfeed : c = '\x0c'
  · subst hfeed
    exact .inl ⟨'f', _, rfl, rfl⟩
  by_cases hline : c = '\n'
  · subst hline
    exact .inl ⟨'n', _, rfl, rfl⟩
  by_cases hreturn : c = '\r'
  · subst hreturn
    exact .inl ⟨'r', _, rfl, rfl⟩
  by_cases htab : c = '\t'
  · subst htab
    exact .inl ⟨'t', _, rfl, rfl⟩
  -- what is left are the characters without an escape of one letter
  rw [ofChar, dif_neg hquote, dif_neg hbackslash, dif_neg hbackspace, dif_neg hfeed,
    dif_neg hline, dif_neg hreturn, dif_neg htab]
  have hescape : escape c =
      if c.toNat < 0x20 then ['\\', 'u', '0', '0', hexDigit (c.toNat / 16), hexDigit c.toNat]
      else [c] := by
    unfold escape
    split <;> first | contradiction | rfl
  by_cases hprintable : 0x20 ≤ c.toNat
  · rw [dif_pos hprintable, hescape, if_neg (Nat.not_lt.2 hprintable)]
    exact .inr (.inl ⟨hprintable, hquote, hbackslash, rfl, rfl⟩)
  · rw [dif_neg hprintable, hescape, if_pos (Nat.not_le.1 hprintable)]
    exact .inr (.inr ⟨Nat.not_le.1 hprintable, rfl, rfl⟩)

theorem chars_ofChar (c : Char) : (ofChar c).chars = escape c := by
  obtain ⟨letter, _, hpiece, hescape⟩ | ⟨_, _, _, hpiece, hescape⟩ | ⟨_, hpiece, hescape⟩ :=
    ofChar_cases c
  · rw [hpiece, hescape, chars]
  · rw [hpiece, hescape, chars]
  · rw [hpiece, hescape]
    rfl

theorem contentChars?_unit {a b c d : HexDigit}
    (h : unitValue a b c d < 0xd800 ∨ 0xdfff < unitValue a b c d) (pieces : List Piece) :
    contentChars? (unit a b c d :: pieces) =
      (contentChars? pieces).map (Char.ofNat (unitValue a b c d) :: ·) := by
  rw [contentChars?.eq_def]
  exact if_pos h

theorem contentChars?_ofChar (c : Char) (pieces : List Piece) :
    contentChars? (ofChar c :: pieces) = (contentChars? pieces).map (c :: ·) := by
  obtain ⟨letter, _, hpiece, -⟩ | ⟨_, _, _, hpiece, -⟩ | ⟨hcontrol, hpiece, -⟩ := ofChar_cases c
  · rw [hpiece]
    rfl
  · rw [hpiece]
    rfl
  · have hvalue : unitValue (.ofNat 0) (.ofNat 0) (.ofNat (c.toNat / 16)) (.ofNat c.toNat) =
        c.toNat := by
      simp only [unitValue, HexDigit.ofNat]
      omega
    rw [hpiece, contentChars?_unit (by omega), hvalue, Char.ofNat_toNat]

/-- What is written for a string stands for it. -/
theorem content?_ofText (text : String) : content? (ofText text) = some text := by
  have hchars (chars : List Char) : contentChars? (chars.map ofChar) = some chars := by
    induction chars with
    | nil => rfl
    | cons c chars ih => rw [List.map_cons, contentChars?_ofChar, ih, Option.map_some]
  rw [content?, ofText, hchars, Option.map_some, String.ofList_toList]

theorem quoted_ofText (text : String) (tail : List Char) :
    quoted (ofText text) ++ tail = writeText text tail := by
  simp [quoted, ofText, writeText, List.flatMap_map, chars_ofChar]

end Piece

/-! ### Numbers -/

theorem head?_toDigits {n : ℕ} (hn : 0 < n) : (Nat.toDigits 10 n).head? ≠ some '0' := by
  induction n using Nat.strongRecOn with
  | _ n ih =>
    by_cases hlt : n < 10
    · rw [Nat.toDigits_of_lt_base hlt]
      have hdigit : ∀ m < 10, 0 < m → [Nat.digitChar m].head? ≠ some '0' := by decide
      exact hdigit n hlt hn
    · rw [Nat.toDigits_of_base_le (by decide) (Nat.not_lt.1 hlt)]
      have hpos : 0 < n / 10 := Nat.div_pos (Nat.not_lt.1 hlt) (by decide)
      have hhead := ih (n / 10) (Nat.div_lt_self hn (by decide)) hpos
      rwa [List.head?_append, Option.or_of_isSome (by simp [Nat.toDigits_ne_nil])]

/-- A number in plain decimal. -/
def Numeral.ofNat (n : ℕ) : Numeral where
  negative := false
  whole := Nat.toDigits 10 n
  fraction := none
  exponent := none
  whole_isDigits :=
    ⟨Nat.toDigits_ne_nil, fun _ hc => Nat.isDigit_of_mem_toDigits (by decide) (by decide) hc⟩
  no_leading_zero rest h := by
    rcases Nat.eq_zero_or_pos n with rfl | hn
    · exact (List.cons.inj h).2.symm
    · exact absurd (by rw [h]; rfl) (head?_toDigits hn)
  fraction_isDigits := nofun

theorem Numeral.natural?_ofNat (n : ℕ) : (Numeral.ofNat n).natural? = some n := by
  simp [Numeral.natural?, Numeral.ofNat, Nat.ofDigitChars_ten_toDigits]

/-! ### Values -/

namespace Value

mutual

/-- The document of a value. -/
def tree : Value → Tree
  | null => .null
  | flag value => .flag value
  | natural n => .number (.ofNat n)
  | text s => .text (Piece.ofText s)
  | list elements => .list (treeAll elements)
  | object members => .object (treeMembers members)

/-- The documents of the elements of a list. -/
def treeAll : List Value → List Tree
  | [] => []
  | element :: elements => element.tree :: treeAll elements

/-- The members of the document of an object. -/
def treeMembers : List (String × Value) → List (List Piece × Tree)
  | [] => []
  | (key, value) :: members => (Piece.ofText key, value.tree) :: treeMembers members

end

/-- Every key of what is written is a string. -/
theorem content?_of_mem_treeMembers {members : List (String × Value)} {member : List Piece × Tree}
    (h : member ∈ treeMembers members) : ∃ name, Piece.content? member.1 = some name := by
  induction members with
  | nil => cases h
  | cons first members ih =>
    obtain ⟨key, value⟩ := first
    rw [treeMembers] at h
    rcases List.mem_cons.1 h with rfl | h
    · exact ⟨key, Piece.content?_ofText key⟩
    · exact ih h

/-- The members with some key are those that were written with it. -/
theorem valuesOf_treeMembers (name : String) (members : List (String × Value)) :
    valuesOf name (treeMembers members) =
      (members.filter (·.1 = name)).map fun member => member.2.tree := by
  induction members with
  | nil => rfl
  | cons first members ih =>
    obtain ⟨key, value⟩ := first
    rw [valuesOf] at ih ⊢
    by_cases heq : key = name <;>
      simp [treeMembers, Piece.content?_ofText, heq, ih]

mutual

theorem spaced_write : (value : Value) → {more : List Token} → {tail : List Char} →
    Spaced more tail → Spaced (value.tree.tokens more) (value.write tail)
  | null, _, _, h => spaced_append h
  | flag true, _, _, h => spaced_append h
  | flag false, _, _, h => spaced_append h
  | natural n, _, tail, h => by
    have hchars : (Numeral.ofNat n).chars = Nat.toDigits 10 n := by
      simp [Numeral.chars, Numeral.tail, Numeral.ofNat]
    change Spaced ((Numeral.ofNat n).chars :: _) (Nat.toDigits 10 n ++ tail)
    rw [hchars]
    exact spaced_append h
  | text s, _, tail, h => by
    change Spaced (Piece.quoted (Piece.ofText s) :: _) (writeText s tail)
    rw [← Piece.quoted_ofText]
    exact spaced_append h
  | list [], _, _, h => spaced_append (spaced_append h)
  | list (element :: elements), _, _, h => by
    rw [tree, treeAll]
    exact spaced_append (spaced_write element (spaced_writeElements elements h))
  | object [], _, _, h => spaced_append (spaced_append h)
  | object ((key, value) :: members), _, _, h => by
    change Spaced _ ('\x7b' :: writeText key (':' :: value.write (writeMembers _ members)))
    rw [← Piece.quoted_ofText]
    exact spaced_append (spaced_append (spaced_append
      (spaced_write value (spaced_writeMembers members h))))

theorem spaced_writeElements : (elements : List Value) → {more : List Token} →
    {tail : List Char} → Spaced more tail →
    Spaced (Tree.elementTokens false more (treeAll elements)) (writeElements tail elements)
  | [], _, _, h => spaced_append h
  | element :: elements, _, _, h => by
    rw [treeAll]
    exact spaced_append (spaced_write element (spaced_writeElements elements h))

theorem spaced_writeMembers : (members : List (String × Value)) → {more : List Token} →
    {tail : List Char} → Spaced more tail →
    Spaced (Tree.memberTokens false more (treeMembers members)) (writeMembers tail members)
  | [], _, _, h => spaced_append h
  | (key, value) :: members, _, _, h => by
    change Spaced _ (',' :: writeText key (':' :: value.write (writeMembers _ members)))
    rw [← Piece.quoted_ofText]
    exact spaced_append (spaced_append (spaced_append
      (spaced_write value (spaced_writeMembers members h))))

end

/-- The text of a value without blanks writes its document. -/
theorem writes_compact (value : Value) : Writes value.compact value.tree := by
  rw [Writes, compact, String.toList_ofList]
  exact spaced_write value (.nil fun _ h => nomatch h)

end Value

end ReturnPaths.Json
