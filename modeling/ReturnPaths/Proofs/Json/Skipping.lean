import ReturnPaths.Json.Skip
import ReturnPaths.Proofs.Json.Spacing

/-!
# Passing over documents

A document that nobody looks at is passed over whatever it holds: however deeply it is nested,
however large its numbers are, and whether its strings have a content or not.

* `Tree.steps` : the number of steps that the walk over a document takes.
* `skipValue_tokens` : the walk leaves what follows the document.
-/

namespace ReturnPaths.Json

namespace Tree

mutual

/-- The number of steps that the walk over a document takes: one for each value that is no list or
object, and one for each bracket or comma in front of a value or at the end. -/
def steps : Tree → ℕ
  | list elements => elementSteps elements
  | object members => memberSteps members
  | _ => 1

/-- The number of steps of a walk over elements and the end of their list. -/
def elementSteps : List Tree → ℕ
  | [] => 1
  | element :: elements => element.steps + elementSteps elements + 1

/-- The number of steps of a walk over members and the end of their object. -/
def memberSteps : List (List Piece × Tree) → ℕ
  | [] => 1
  | (_, value) :: members => value.steps + memberSteps members + 1

end

theorem length_lt_elementSteps (elements : List Tree) :
    elements.length < elementSteps elements := by
  induction elements with
  | nil => exact Nat.one_pos
  | cons element elements ih =>
    rw [elementSteps, List.length_cons]
    omega

theorem length_lt_memberSteps (members : List (List Piece × Tree)) :
    members.length < memberSteps members := by
  induction members with
  | nil => exact Nat.one_pos
  | cons member members ih =>
    obtain ⟨key, value⟩ := member
    rw [memberSteps, List.length_cons]
    omega

theorem steps_le_of_mem {element : Tree} {elements : List Tree} (h : element ∈ elements) :
    element.steps ≤ elementSteps elements := by
  induction elements with
  | nil => cases h
  | cons other elements ih =>
    rw [elementSteps]
    rcases List.mem_cons.1 h with rfl | h
    · omega
    · have := ih h
      omega

theorem steps_le_of_mem_members {member : List Piece × Tree} {members : List (List Piece × Tree)}
    (h : member ∈ members) : member.2.steps ≤ memberSteps members := by
  induction members with
  | nil => cases h
  | cons other members ih =>
    obtain ⟨key, value⟩ := other
    rw [memberSteps]
    rcases List.mem_cons.1 h with rfl | h
    · exact Nat.le_trans (Nat.le_add_right _ _) (Nat.le_succ _)
    · have := ih h
      omega

end Tree

section Tokens

variable {more : List Token} {text rest : List Char}

theorem readWord_append (letters rest : List Char) :
    readWord letters (letters ++ rest) = .ok rest := by
  induction letters with
  | nil => rw [List.nil_append, readWord]
  | cons letter letters ih => rw [List.cons_append, readWord, if_pos rfl, ih]

theorem readColon_tokens (h : Spaced ([':'] :: more) text) :
    ∃ rest, readColon text = .ok rest ∧ Spaced more rest ∧ rest.length < text.length := by
  obtain ⟨rest, htext, hrest, hlength⟩ := h.skipBlank_eq rfl
  exact ⟨rest, by rw [readColon, htext]; rfl, hrest, hlength⟩

theorem skipKey_tokens {key : List Piece} (h : Spaced (Piece.quoted key :: [':'] :: more) text) :
    ∃ rest, skipKey text = .ok rest ∧ Spaced more rest ∧ rest.length < text.length := by
  obtain ⟨after, htext, hafter, hlength⟩ := h.skipBlank_eq rfl
  obtain ⟨rest, hcolon, hrest, hlength'⟩ := readColon_tokens hafter
  refine ⟨rest, ?_, hrest, Nat.lt_trans hlength' hlength⟩
  rw [skipKey, htext, List.append_assoc, List.singleton_append]
  simp only [skipText_quoted]
  exact hcolon

end Tokens

theorem skipScalar_digit {c : Char} {cs : List Char} (hc : c.isDigit = true) :
    skipScalar (c :: cs) = skipNumber (c :: cs) := by
  unfold skipScalar
  split
  case h_7 heq => rw [← (List.cons.inj heq).1, if_pos hc]
  case h_6 heq => cases heq
  all_goals
    rename_i heq
    exact absurd heq (cons_ne_of_isDigit hc rfl)

/-! ### The walk -/

/-- A walk over some steps leads from one state to another, whatever number of steps is to spare,
and goes on by a character a step at least. -/
structure Passes (steps : ℕ) (state state' : SkipState) (brackets brackets' : List Bracket)
    (text text' : List Char) : Prop where
  /-- What the walk does. -/
  skipFrom_eq : ∀ spare, skipFrom state brackets text (spare + steps) =
    skipFrom state' brackets' text' spare
  /-- How far it goes. -/
  length_le : text'.length + steps ≤ text.length

theorem Passes.trans {steps steps' : ℕ} {state state' state'' : SkipState}
    {brackets brackets' brackets'' : List Bracket} {text text' text'' : List Char}
    (h : Passes steps state state' brackets brackets' text text')
    (h' : Passes steps' state' state'' brackets' brackets'' text' text'') :
    Passes (steps' + steps) state state'' brackets brackets'' text text'' where
  skipFrom_eq spare := by rw [← Nat.add_assoc, h.skipFrom_eq, h'.skipFrom_eq]
  length_le := by
    have := h.length_le
    have := h'.length_le
    omega

section Steps

variable {more : List Token} {tree : Tree} {text : List Char} {brackets : List Bracket}

/-- A value that is no list or object takes one step. -/
theorem passes_scalar {c : Char} {cs rest : List Char} (htext : skipBlank text = c :: cs)
    (hlist : c ≠ '[') (hobject : c ≠ '\x7b') (hscalar : skipScalar (c :: cs) = .ok rest)
    (hlength : rest.length < (c :: cs).length) :
    Passes 1 .value .after brackets brackets text rest where
  skipFrom_eq spare := by
    rw [skipFrom, htext]
    split
    · rename_i heq
      exact absurd (List.cons.inj heq).1 hlist
    · rename_i heq
      exact absurd (List.cons.inj heq).1 hobject
    · rw [hscalar]
      rfl
  length_le := by
    have := length_skipBlank_le text
    rw [htext] at this
    omega

theorem passes_openList {rest : List Char} (htext : skipBlank text = '[' :: rest)
    (hrest : Shows more tree (skipBlank rest)) :
    Passes 1 .value .value brackets (.list :: brackets) text (skipBlank rest) where
  skipFrom_eq spare := by
    obtain ⟨c, cs, hcs, -, hend, -, -⟩ := hrest.exists_cons
    rw [skipFrom, htext]
    simp only
    rw [hcs]
    split
    · rename_i heq
      exact absurd (List.cons.inj heq).1 hend
    · rename_i heq
      cases heq
    · rfl
  length_le := by
    have hblank := length_skipBlank_le text
    have hblank' := length_skipBlank_le rest
    rw [htext, List.length_cons] at hblank
    omega

theorem passes_emptyList {rest : List Char} (htext : skipBlank text = '[' :: rest)
    (hrest : Spaced ([']'] :: more) rest) :
    ∃ rest', Spaced more rest' ∧ Passes 1 .value .after brackets brackets text rest' := by
  obtain ⟨rest', htext', hrest', hlength⟩ := hrest.skipBlank_eq rfl
  have hblank := length_skipBlank_le text
  rw [htext, List.length_cons] at hblank
  refine ⟨rest', hrest', fun spare => ?_, by omega⟩
  rw [skipFrom, htext]
  simp only
  rw [htext']
  rfl

theorem passes_nextElement (h : Spaced ([','] :: more) text) :
    ∃ rest, Spaced more rest ∧
      Passes 1 .after .value (.list :: brackets) (.list :: brackets) text rest := by
  obtain ⟨rest, htext, hrest, hlength⟩ := h.skipBlank_eq rfl
  exact ⟨rest, hrest, fun spare => by rw [skipFrom, htext]; rfl, hlength⟩

theorem passes_closeList (h : Spaced ([']'] :: more) text) :
    ∃ rest, Spaced more rest ∧
      Passes 1 .after .after (.list :: brackets) brackets text rest := by
  obtain ⟨rest, htext, hrest, hlength⟩ := h.skipBlank_eq rfl
  exact ⟨rest, hrest, fun spare => by rw [skipFrom, htext]; rfl, hlength⟩

/-- An object that is not empty is entered by one step, which passes over the first key. -/
theorem passes_openObject {key : List Piece} {rest : List Char}
    (htext : skipBlank text = '\x7b' :: rest)
    (hrest : Spaced (Piece.quoted key :: [':'] :: more) rest) :
    ∃ rest', Spaced more rest' ∧
      Passes 1 .value .value brackets (.object :: brackets) text rest' := by
  obtain ⟨rest', hkey, hrest', hlength⟩ := skipKey_tokens (hrest.skipBlank rfl)
  have hblank := length_skipBlank_le text
  have hblank' := length_skipBlank_le rest
  rw [htext, List.length_cons] at hblank
  refine ⟨rest', hrest', fun spare => ?_, by omega⟩
  obtain ⟨after, hquote, -⟩ := hrest.skipBlank_eq rfl
  rw [skipFrom, htext]
  simp only
  split
  · rename_i heq
    rw [hquote] at heq
    exact absurd (List.cons.inj heq).1 (by decide)
  · rw [hkey]
    rfl

theorem passes_emptyObject {rest : List Char} (htext : skipBlank text = '\x7b' :: rest)
    (hrest : Spaced (['\x7d'] :: more) rest) :
    ∃ rest', Spaced more rest' ∧ Passes 1 .value .after brackets brackets text rest' := by
  obtain ⟨rest', htext', hrest', hlength⟩ := hrest.skipBlank_eq rfl
  have hblank := length_skipBlank_le text
  rw [htext, List.length_cons] at hblank
  refine ⟨rest', hrest', fun spare => ?_, by omega⟩
  rw [skipFrom, htext]
  simp only
  rw [htext']
  rfl

theorem passes_nextMember {key : List Piece}
    (h : Spaced ([','] :: Piece.quoted key :: [':'] :: more) text) :
    ∃ rest, Spaced more rest ∧
      Passes 1 .after .value (.object :: brackets) (.object :: brackets) text rest := by
  obtain ⟨after, htext, hafter, hlength⟩ := h.skipBlank_eq rfl
  obtain ⟨rest, hkey, hrest, hlength'⟩ := skipKey_tokens hafter
  refine ⟨rest, hrest, fun spare => ?_, by omega⟩
  rw [skipFrom, htext]
  simp only [List.nil_append, hkey]
  rfl

theorem passes_closeObject (h : Spaced (['\x7d'] :: more) text) :
    ∃ rest, Spaced more rest ∧
      Passes 1 .after .after (.object :: brackets) brackets text rest := by
  obtain ⟨rest, htext, hrest, hlength⟩ := h.skipBlank_eq rfl
  exact ⟨rest, hrest, fun spare => by rw [skipFrom, htext]; rfl, hlength⟩

end Steps

/-! The induction is on the document; the steps to spare go on behind it. -/

mutual

/-- The walk over a document. -/
theorem passes_tokens : (tree : Tree) → ∀ (brackets : List Bracket) (more : List Token)
    (text : List Char), Closing more → Spaced (tree.tokens more) text →
    ∃ rest, Spaced more rest ∧ Passes tree.steps .value .after brackets brackets text rest
  | .null, brackets, more, text, _, h => by
    have hshows := Tree.shows_skipBlank h
    generalize htext : skipBlank text = shown at hshows
    cases hshows with
    | @null rest hrest =>
      refine ⟨rest, hrest, passes_scalar htext (by decide) (by decide) (readWord_append _ _) ?_⟩
      simp only [List.length_cons, List.length_append]
      omega
  | .flag value, brackets, more, text, _, h => by
    have hshows := Tree.shows_skipBlank h
    generalize htext : skipBlank text = shown at hshows
    cases hshows with
    | @yes rest hrest =>
      refine ⟨rest, hrest, passes_scalar htext (by decide) (by decide) (readWord_append _ _) ?_⟩
      simp only [List.length_cons, List.length_append]
      omega
    | @no rest hrest =>
      refine ⟨rest, hrest, passes_scalar htext (by decide) (by decide) (readWord_append _ _) ?_⟩
      simp only [List.length_cons, List.length_append]
      omega
  | .number numeral, brackets, more, text, hclosing, h => by
    have hshows := Tree.shows_skipBlank h
    generalize htext : skipBlank text = shown at hshows
    cases hshows with
    | @negative _ rest _ hrest =>
      have hskip := numeral.skipNumber_whole (hrest.ends hclosing)
      refine ⟨rest, hrest, passes_scalar htext (by decide) (by decide) hskip ?_⟩
      simp only [List.length_cons, List.length_append]
      omega
    | @positive _ c digits rest _ hc hdigits hrest =>
      have hskip : skipScalar (c :: digits) = .ok rest := by
        rw [skipScalar_digit hc, hdigits]
        exact numeral.skipNumber_whole (hrest.ends hclosing)
      have hwhole := List.length_pos_iff.2 numeral.whole_isDigits.ne_nil
      refine ⟨rest, hrest,
        passes_scalar htext (ne_of_isDigit hc rfl) (ne_of_isDigit hc rfl) hskip ?_⟩
      rw [hdigits, List.length_append, List.length_append]
      omega
  | .text pieces, brackets, more, text, _, h => by
    have hshows := Tree.shows_skipBlank h
    generalize htext : skipBlank text = shown at hshows
    cases hshows with
    | @text _ rest hrest =>
      refine ⟨rest, hrest, passes_scalar htext (by decide) (by decide) (skipText_quoted pieces) ?_⟩
      simp only [List.length_cons, List.length_append]
      omega
  | .list [], brackets, more, text, _, h => by
    obtain ⟨rest, htext, hrest, -⟩ := h.skipBlank_eq rfl
    exact passes_emptyList htext hrest
  | .list (element :: elements), brackets, more, text, hclosing, h => by
    obtain ⟨rest, htext, hrest, -⟩ := h.skipBlank_eq rfl
    have hshows := Tree.shows_skipBlank hrest
    obtain ⟨rest', hrest', hpasses⟩ := passes_tokens element (.list :: brackets) _ _
      (closing_elementTokens more elements) hshows.spaced
    obtain ⟨rest'', hrest'', hpasses'⟩ := passes_elementTokens elements brackets more rest'
      hclosing hrest'
    refine ⟨rest'', hrest'', ?_⟩
    rw [Tree.steps, Tree.elementSteps, Nat.add_comm element.steps]
    exact (passes_openList htext hshows).trans (hpasses.trans hpasses')
  | .object [], brackets, more, text, _, h => by
    obtain ⟨rest, htext, hrest, -⟩ := h.skipBlank_eq rfl
    exact passes_emptyObject htext hrest
  | .object ((key, value) :: members), brackets, more, text, hclosing, h => by
    obtain ⟨rest, htext, hrest, -⟩ := h.skipBlank_eq rfl
    obtain ⟨after, hafter, hopen⟩ := passes_openObject htext hrest
    obtain ⟨rest', hrest', hpasses⟩ := passes_tokens value (.object :: brackets) _ _
      (closing_memberTokens more members) hafter
    obtain ⟨rest'', hrest'', hpasses'⟩ := passes_memberTokens members brackets more rest'
      hclosing hrest'
    refine ⟨rest'', hrest'', ?_⟩
    rw [Tree.steps, Tree.memberSteps, Nat.add_comm value.steps]
    exact hopen.trans (hpasses.trans hpasses')

theorem passes_elementTokens : (elements : List Tree) → ∀ (brackets : List Bracket)
    (more : List Token) (text : List Char), Closing more →
    Spaced (Tree.elementTokens false more elements) text →
    ∃ rest, Spaced more rest ∧
      Passes (Tree.elementSteps elements) .after .after (.list :: brackets) brackets text rest
  | [], brackets, more, text, _, h => passes_closeList h
  | element :: elements, brackets, more, text, hclosing, h => by
    obtain ⟨after, hafter, hnext⟩ := passes_nextElement h
    obtain ⟨rest, hrest, hpasses⟩ := passes_tokens element (.list :: brackets) _ _
      (closing_elementTokens more elements) hafter
    obtain ⟨rest', hrest', hpasses'⟩ := passes_elementTokens elements brackets more rest
      hclosing hrest
    refine ⟨rest', hrest', ?_⟩
    rw [Tree.elementSteps, Nat.add_comm element.steps]
    exact hnext.trans (hpasses.trans hpasses')

theorem passes_memberTokens : (members : List (List Piece × Tree)) → ∀ (brackets : List Bracket)
    (more : List Token) (text : List Char), Closing more →
    Spaced (Tree.memberTokens false more members) text →
    ∃ rest, Spaced more rest ∧
      Passes (Tree.memberSteps members) .after .after (.object :: brackets) brackets text rest
  | [], brackets, more, text, _, h => passes_closeObject h
  | (key, value) :: members, brackets, more, text, hclosing, h => by
    obtain ⟨after, hafter, hnext⟩ := passes_nextMember h
    obtain ⟨rest, hrest, hpasses⟩ := passes_tokens value (.object :: brackets) _ _
      (closing_memberTokens more members) hafter
    obtain ⟨rest', hrest', hpasses'⟩ := passes_memberTokens members brackets more rest
      hclosing hrest
    refine ⟨rest', hrest', ?_⟩
    rw [Tree.memberSteps, Nat.add_comm value.steps]
    exact hnext.trans (hpasses.trans hpasses')

end

/-- A document is passed over, if there are enough steps. -/
theorem skipValue_tokens {tree : Tree} {more : List Token} {text : List Char} {steps : ℕ}
    (hclosing : Closing more) (h : Spaced (tree.tokens more) text) (hsteps : tree.steps ≤ steps) :
    ∃ rest, skipValue steps text = .ok rest ∧ Spaced more rest := by
  obtain ⟨rest, hrest, hpasses⟩ := passes_tokens tree [] more text hclosing h
  refine ⟨rest, ?_, hrest⟩
  obtain ⟨spare, rfl⟩ := Nat.exists_eq_add_of_le' hsteps
  rw [skipValue, Nat.add_right_comm, hpasses.skipFrom_eq, skipFrom]

/-- The text of a document has a character for each step at least. -/
theorem steps_le_length {tree : Tree} {more : List Token} {text : List Char}
    (hclosing : Closing more) (h : Spaced (tree.tokens more) text) : tree.steps ≤ text.length := by
  obtain ⟨rest, -, hpasses⟩ := passes_tokens tree [] more text hclosing h
  exact Nat.le_trans (Nat.le_add_left _ _) hpasses.length_le

end ReturnPaths.Json
