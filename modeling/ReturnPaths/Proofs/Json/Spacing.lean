import ReturnPaths.Proofs.Json.Lexeme
import Mathlib.Data.List.TakeWhile

/-!
# Tokens in a text

A reader passes over blanks and looks at the first character of what follows, which tells what kind
of value is there.

* `Spaced.skipBlank_eq` : after the blanks in front of it, a text starts with its first token.
* `Shows` : how a document looks after these blanks.
* `Tree.shows_skipBlank` : a text of tokens that start with those of a document shows the document.
-/

namespace ReturnPaths.Json

section Spaced

variable {c : Char} {cs blanks text : List Char} {token : Token} {tokens : List Token}

theorem skipBlank_append (hblanks : ∀ c ∈ blanks, isBlank c = true) :
    skipBlank (blanks ++ text) = skipBlank text := by
  rw [skipBlank, List.dropWhile_append_of_pos hblanks, skipBlank]

theorem skipBlank_cons (hc : isBlank c = false) : skipBlank (c :: cs) = c :: cs := by
  rw [skipBlank, List.dropWhile_cons, hc, if_neg Bool.false_ne_true]

/-- After the blanks in front of it, a text starts with its first token. -/
theorem Spaced.skipBlank_eq (h : Spaced ((c :: cs) :: tokens) text) (hc : isBlank c = false) :
    ∃ rest, skipBlank text = c :: (cs ++ rest) ∧ Spaced tokens rest ∧
      rest.length < text.length := by
  cases h with
  | cons hblanks htext =>
    rw [skipBlank_append hblanks, List.cons_append, skipBlank_cons hc]
    refine ⟨_, rfl, htext, ?_⟩
    simp only [List.length_append, List.length_cons]
    omega

theorem Spaced.skipBlank_nil (h : Spaced [] text) : skipBlank text = [] := by
  cases h with
  | nil hblanks => exact List.dropWhile_eq_nil_iff.2 hblanks

theorem spaced_append (htext : Spaced tokens text) : Spaced (token :: tokens) (token ++ text) := by
  have hblanks : ∀ c ∈ ([] : List Char), isBlank c = true := fun _ h => nomatch h
  exact .cons hblanks htext

theorem Spaced.skipBlank (h : Spaced ((c :: cs) :: tokens) text) (hc : isBlank c = false) :
    Spaced ((c :: cs) :: tokens) (skipBlank text) := by
  obtain ⟨rest, htext, hrest, -⟩ := h.skipBlank_eq hc
  rw [htext, ← List.cons_append]
  exact spaced_append hrest

/-! ### What follows a value -/

/-- Tokens start with a mark that may follow a value, or there are none. -/
def Closing (tokens : List Token) : Prop :=
  ∀ token ∈ tokens.head?, token = [','] ∨ token = [']'] ∨ token = ['\x7d']

theorem closing_nil : Closing [] := fun _ h => nomatch h

theorem closing_elementTokens (more : List Token) (elements : List Tree) :
    Closing (Tree.elementTokens false more elements) := by
  rcases elements with _ | ⟨element, elements⟩
  · rw [Tree.elementTokens]
    rintro _ ⟨⟩
    exact .inr (.inl rfl)
  · rw [Tree.elementTokens]
    rintro _ ⟨⟩
    exact .inl rfl

theorem closing_memberTokens (more : List Token) (members : List (List Piece × Tree)) :
    Closing (Tree.memberTokens false more members) := by
  rcases members with _ | ⟨⟨key, value⟩, members⟩
  · rw [Tree.memberTokens]
    rintro _ ⟨⟩
    exact .inr (.inr rfl)
  · rw [Tree.memberTokens]
    rintro _ ⟨⟩
    exact .inl rfl

/-- A number ends before blanks and before a mark that may follow a value. -/
theorem Spaced.ends (h : Spaced tokens text) (hclosing : Closing tokens) : Ends text := by
  intro c hc
  have hblank (hc : isBlank c = true) : c.isDigit = false ∧ c ≠ '.' ∧ c ≠ 'e' ∧ c ≠ 'E' := by
    simp only [isBlank, Bool.or_eq_true, beq_iff_eq] at hc
    rcases hc with ((rfl | rfl) | rfl) | rfl <;> decide
  cases h with
  | nil hblanks => exact hblank (hblanks c (List.mem_of_mem_head? hc))
  | @cons token _ blanks rest hblanks _ =>
    cases blanks with
    | cons d blanks =>
      cases hc
      exact hblank (hblanks c List.mem_cons_self)
    | nil =>
      rcases hclosing token rfl with rfl | rfl | rfl <;> cases hc <;> decide

end Spaced

/-! ### How a document looks -/

/-- A text that starts with a document and goes on with more tokens. -/
inductive Shows (more : List Token) : Tree → List Char → Prop
  /-- The word for null. -/
  | null {rest : List Char} (hrest : Spaced more rest) :
      Shows more .null ('n' :: ("ull".toList ++ rest))
  /-- The word for true. -/
  | yes {rest : List Char} (hrest : Spaced more rest) :
      Shows more (.flag true) ('t' :: ("rue".toList ++ rest))
  /-- The word for false. -/
  | no {rest : List Char} (hrest : Spaced more rest) :
      Shows more (.flag false) ('f' :: ("alse".toList ++ rest))
  /-- A minus and a number. -/
  | negative {numeral : Numeral} {rest : List Char} (hnegative : numeral.negative = true)
      (hrest : Spaced more rest) :
      Shows more (.number numeral) ('-' :: (numeral.whole ++ (numeral.tail ++ rest)))
  /-- A number without a minus. -/
  | positive {numeral : Numeral} {c : Char} {digits rest : List Char}
      (hpositive : numeral.negative = false) (hc : c.isDigit = true)
      (htext : c :: digits = numeral.whole ++ (numeral.tail ++ rest)) (hrest : Spaced more rest) :
      Shows more (.number numeral) (c :: digits)
  /-- A string between its quotes. -/
  | text {pieces : List Piece} {rest : List Char} (hrest : Spaced more rest) :
      Shows more (.text pieces) ('"' :: (pieces.flatMap Piece.chars ++ '"' :: rest))
  /-- A list after its bracket. -/
  | list {elements : List Tree} {rest : List Char}
      (hrest : Spaced (Tree.elementTokens true more elements) rest) :
      Shows more (.list elements) ('[' :: rest)
  /-- An object after its bracket. -/
  | object {members : List (List Piece × Tree)} {rest : List Char}
      (hrest : Spaced (Tree.memberTokens true more members) rest) :
      Shows more (.object members) ('\x7b' :: rest)

variable {more : List Token} {tree : Tree} {text : List Char}

theorem not_isBlank_of_isDigit {c : Char} (hc : c.isDigit = true) : isBlank c = false := by
  rw [← Bool.not_eq_true, isBlank]
  intro h
  simp only [Bool.or_eq_true, beq_iff_eq] at h
  rcases h with ((rfl | rfl) | rfl) | rfl <;> exact absurd hc (by decide)

/-- After the blanks in front of it, a text shows the document that its tokens start with. -/
theorem Tree.shows_skipBlank (h : Spaced (tree.tokens more) text) :
    Shows more tree (skipBlank text) := by
  cases tree with
  | null =>
    obtain ⟨rest, htext, hrest, -⟩ := h.skipBlank_eq rfl
    rw [htext]
    exact .null hrest
  | flag value =>
    cases value with
    | true =>
      obtain ⟨rest, htext, hrest, -⟩ := h.skipBlank_eq rfl
      rw [htext]
      exact .yes hrest
    | false =>
      obtain ⟨rest, htext, hrest, -⟩ := h.skipBlank_eq rfl
      rw [htext]
      exact .no hrest
  | number numeral =>
    rw [tokens] at h
    cases hnegative : numeral.negative with
    | true =>
      have hchars : numeral.chars = '-' :: (numeral.whole ++ numeral.tail) := by
        simp [Numeral.chars, hnegative]
      rw [hchars] at h
      obtain ⟨rest, htext, hrest, -⟩ := h.skipBlank_eq rfl
      rw [htext, List.append_assoc]
      exact .negative hnegative hrest
    | false =>
      obtain ⟨c, digits, hdigits⟩ := List.exists_cons_of_ne_nil numeral.whole_isDigits.ne_nil
      have hc : c.isDigit = true := numeral.whole_isDigits.digits c (by simp [hdigits])
      have hchars : numeral.chars = c :: (digits ++ numeral.tail) := by
        simp [Numeral.chars, hnegative, hdigits]
      rw [hchars] at h
      obtain ⟨rest, htext, hrest, -⟩ := h.skipBlank_eq (not_isBlank_of_isDigit hc)
      rw [htext]
      refine .positive hnegative hc ?_ hrest
      rw [hdigits, List.append_assoc, List.cons_append]
  | text pieces =>
    obtain ⟨rest, htext, hrest, -⟩ := h.skipBlank_eq rfl
    rw [htext, List.append_assoc]
    exact .text hrest
  | list elements =>
    rw [tokens] at h
    obtain ⟨rest, htext, hrest, -⟩ := h.skipBlank_eq rfl
    rw [htext]
    exact .list hrest
  | object members =>
    rw [tokens] at h
    obtain ⟨rest, htext, hrest, -⟩ := h.skipBlank_eq rfl
    rw [htext]
    exact .object hrest

/-- A text that shows a document is made of its tokens. -/
theorem Shows.spaced (h : Shows more tree text) : Spaced (tree.tokens more) text := by
  cases h with
  | null hrest => exact spaced_append hrest
  | yes hrest => exact spaced_append hrest
  | no hrest => exact spaced_append hrest
  | @negative numeral rest hnegative hrest =>
    have hchars : numeral.chars ++ rest = '-' :: (numeral.whole ++ (numeral.tail ++ rest)) := by
      simp [Numeral.chars, hnegative]
    rw [Tree.tokens, ← hchars]
    exact spaced_append hrest
  | @positive numeral c digits rest hpositive _ htext hrest =>
    have hchars : numeral.chars ++ rest = numeral.whole ++ (numeral.tail ++ rest) := by
      simp [Numeral.chars, hpositive]
    rw [Tree.tokens, htext, ← hchars]
    exact spaced_append hrest
  | @text pieces rest hrest =>
    have hquoted : Piece.quoted pieces ++ rest =
        '"' :: (pieces.flatMap Piece.chars ++ '"' :: rest) := by
      simp [Piece.quoted]
    rw [Tree.tokens, ← hquoted]
    exact spaced_append hrest
  | list hrest =>
    rw [Tree.tokens]
    exact spaced_append hrest
  | object hrest =>
    rw [Tree.tokens]
    exact spaced_append hrest

/-- What starts a value is neither a comma nor a bracket that ends a list or an object. -/
theorem Shows.exists_cons (h : Shows more tree text) :
    ∃ c cs, text = c :: cs ∧ isBlank c = false ∧ c ≠ ']' ∧ c ≠ '\x7d' ∧ c ≠ ',' := by
  cases h with
  | positive hpositive hc =>
    refine ⟨_, _, rfl, not_isBlank_of_isDigit hc, ?_, ?_, ?_⟩ <;>
      (rintro rfl; exact absurd hc (by decide))
  | _ => exact ⟨_, _, rfl, by decide⟩

theorem length_skipBlank_le (text : List Char) : (skipBlank text).length ≤ text.length :=
  (List.dropWhile_sublist _).length_le

end ReturnPaths.Json
