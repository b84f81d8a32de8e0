import ReturnPaths.Proofs.Json.Writing

/-!
# What a text says

A text writes at most one value: the blanks in it do not matter, and no token can be cut in two
ways.  So what is written for a value says this value and no other one.

* `Tree.value?` : the value of a document, if its strings stand for something and its numbers are
  natural.
* `Writes.value?_eq` : two documents that a text writes have the same value.
* `Decodes` : the only value that a text says.
* `Value.decodes_pretty` : what is written says what it is written for.
-/

namespace ReturnPaths.Json

/-! ### The value of a document -/

namespace Tree

mutual

/-- The value of a document. -/
def value? : Tree → Option Value
  | null => some .null
  | flag value => some (.flag value)
  | number numeral => numeral.natural?.map .natural
  | text pieces => (Piece.content? pieces).map .text
  | list elements => (valueAll? elements).map .list
  | object members => (valueMembers? members).map .object

/-- The values of the elements of a list. -/
def valueAll? : List Tree → Option (List Value)
  | [] => some []
  | element :: elements =>
    element.value?.bind fun first => (valueAll? elements).map (first :: ·)

/-- The keys and values of the members of an object. -/
def valueMembers? : List (List Piece × Tree) → Option (List (String × Value))
  | [] => some []
  | (key, value) :: members =>
    (Piece.content? key).bind fun name => value.value?.bind fun first =>
      (valueMembers? members).map ((name, first) :: ·)

end

end Tree

namespace Value

mutual

theorem value?_tree : (value : Value) → value.tree.value? = some value
  | null => rfl
  | flag _ => rfl
  | natural n => by rw [tree, Tree.value?, Numeral.natural?_ofNat, Option.map_some]
  | text s => by rw [tree, Tree.value?, Piece.content?_ofText, Option.map_some]
  | list elements => by rw [tree, Tree.value?, valueAll?_treeAll elements, Option.map_some]
  | object members => by
    rw [tree, Tree.value?, valueMembers?_treeMembers members, Option.map_some]

theorem valueAll?_treeAll : (elements : List Value) →
    Tree.valueAll? (treeAll elements) = some elements
  | [] => rfl
  | element :: elements => by
    rw [treeAll, Tree.valueAll?, value?_tree element, valueAll?_treeAll elements, Option.bind_some,
      Option.map_some]

theorem valueMembers?_treeMembers : (members : List (String × Value)) →
    Tree.valueMembers? (treeMembers members) = some members
  | [] => rfl
  | (key, value) :: members => by
    rw [treeMembers, Tree.valueMembers?, Piece.content?_ofText, value?_tree value,
      valueMembers?_treeMembers members, Option.bind_some, Option.bind_some, Option.map_some]

end

end Value

/-! ### Layout -/

theorem Spaced.append_blanks {tokens : List Token} {blanks text : List Char}
    (hblanks : ∀ c ∈ blanks, isBlank c = true) (h : Spaced tokens text) :
    Spaced tokens (blanks ++ text) := by
  cases h with
  | nil hmore => exact .nil (List.forall_mem_append.2 ⟨hblanks, hmore⟩)
  | cons hmore htext =>
    rw [← List.append_assoc]
    exact .cons (List.forall_mem_append.2 ⟨hblanks, hmore⟩) htext

namespace Value

theorem spaced_lineBreak {tokens : List Token} {text : List Char} (level : ℕ)
    (h : Spaced tokens text) : Spaced tokens (lineBreak level text) := by
  have hblanks : ∀ c ∈ '\n' :: List.replicate (2 * level) ' ', isBlank c = true := by
    rw [List.forall_mem_cons]
    refine ⟨rfl, fun c hc => ?_⟩
    rw [List.eq_of_mem_replicate hc]
    rfl
  exact h.append_blanks hblanks

theorem spaced_blank {tokens : List Token} {text : List Char} (h : Spaced tokens text) :
    Spaced tokens (' ' :: text) := by
  have hblanks : ∀ c ∈ [' '], isBlank c = true := List.forall_mem_singleton.2 rfl
  exact h.append_blanks hblanks

mutual

theorem spaced_writePretty : (value : Value) → {level : ℕ} → {more : List Token} →
    {tail : List Char} → Spaced more tail →
    Spaced (value.tree.tokens more) (value.writePretty level tail)
  | null, _, _, _, h => spaced_write null h
  | flag value, _, _, _, h => spaced_write (flag value) h
  | natural n, _, _, _, h => spaced_write (natural n) h
  | text s, _, _, _, h => spaced_write (text s) h
  | list [], _, _, _, h => spaced_append (spaced_append h)
  | list (element :: elements), _, _, _, h => by
    rw [tree, treeAll]
    exact spaced_append (spaced_lineBreak _
      (spaced_writePretty element (spaced_writePrettyElements elements h)))
  | object [], _, _, _, h => spaced_append (spaced_append h)
  | object ((key, value) :: members), level, _, tail, h => by
    change Spaced _ ('\x7b' :: lineBreak (level + 1) (writeText key
      (':' :: ' ' :: value.writePretty (level + 1) (writePrettyMembers level tail members))))
    rw [← Piece.quoted_ofText]
    exact spaced_append (spaced_lineBreak _ (spaced_append (spaced_append (spaced_blank
      (spaced_writePretty value (spaced_writePrettyMembers members h))))))

theorem spaced_writePrettyElements : (elements : List Value) → {level : ℕ} →
    {more : List Token} → {tail : List Char} → Spaced more tail →
    Spaced (Tree.elementTokens false more (treeAll elements))
      (writePrettyElements level tail elements)
  | [], _, _, _, h => spaced_lineBreak _ (spaced_append h)
  | element :: elements, _, _, _, h => by
    rw [treeAll]
    exact spaced_append (spaced_lineBreak _
      (spaced_writePretty element (spaced_writePrettyElements elements h)))

theorem spaced_writePrettyMembers : (members : List (String × Value)) → {level : ℕ} →
    {more : List Token} → {tail : List Char} → Spaced more tail →
    Spaced (Tree.memberTokens false more (treeMembers members))
      (writePrettyMembers level tail members)
  | [], _, _, _, h => spaced_lineBreak _ (spaced_append h)
  | (key, value) :: members, level, _, tail, h => by
    change Spaced _ (',' :: lineBreak (level + 1) (writeText key
      (':' :: ' ' :: value.writePretty (level + 1) (writePrettyMembers level tail members))))
    rw [← Piece.quoted_ofText]
    exact spaced_append (spaced_lineBreak _ (spaced_append (spaced_append (spaced_blank
      (spaced_writePretty value (spaced_writePrettyMembers members h))))))

end

/-- The text of a value with a line for each member and element writes its document. -/
theorem writes_pretty (value : Value) : Writes value.pretty value.tree := by
  rw [Writes, pretty, String.toList_ofList]
  exact spaced_writePretty value (.nil (List.forall_mem_nil _))

end Value

/-! ### One reading

Where a text starts with two documents, these have the same value and the same text follows. -/

theorem Piece.content?_eq_of_append {pieces pieces' : List Piece} {rest rest' : List Char}
    (h : pieces.flatMap chars ++ '"' :: rest = pieces'.flatMap chars ++ '"' :: rest') :
    content? pieces = content? pieces' ∧ rest = rest' := by
  -- both readers are functions: one tells where the string ends, the other what it stands for
  have hrest : Except.ok rest = Except.ok rest' :=
    (skipText_quoted pieces).symm.trans ((congrArg skipText h).trans (skipText_quoted pieces'))
  have hreads : Reads (content? pieces) (· = rest)
      (readText (pieces.flatMap chars ++ '"' :: rest)) := reads_readText pieces
  have hreads' : Reads (content? pieces') (· = rest')
      (readText (pieces'.flatMap chars ++ '"' :: rest')) := reads_readText pieces'
  rw [h] at hreads
  refine ⟨?_, Except.ok.inj hrest⟩
  cases hread : readText (pieces'.flatMap chars ++ '"' :: rest') with
  | error fault =>
    rw [hread] at hreads hreads'
    exact Eq.trans (b := none) hreads (Eq.symm hreads')
  | ok result =>
    rw [hread] at hreads hreads'
    exact hreads.1.trans hreads'.1.symm

namespace Numeral

theorem chars_eq (numeral : Numeral) (rest : List Char) : numeral.chars ++ rest =
    (if numeral.negative then ['-'] else []) ++ (numeral.whole ++ (numeral.tail ++ rest)) := by
  simp [chars]

theorem minus_not_mem_whole (numeral : Numeral) : '-' ∉ numeral.whole :=
  fun h => absurd (numeral.whole_isDigits.digits '-' h) (by decide)

/-- Two numerals at the start of a text are both negative or both not. -/
theorem negative_eq_of_append {numeral numeral' : Numeral} {rest rest' : List Char}
    (h : numeral.chars ++ rest = numeral'.chars ++ rest') :
    numeral.negative = numeral'.negative := by
  obtain ⟨c, digits, hwhole⟩ := List.exists_cons_of_ne_nil numeral.whole_isDigits.ne_nil
  obtain ⟨c', digits', hwhole'⟩ := List.exists_cons_of_ne_nil numeral'.whole_isDigits.ne_nil
  have hc : '-' ≠ c := by
    rintro rfl
    exact numeral.minus_not_mem_whole (by simp [hwhole])
  have hc' : '-' ≠ c' := by
    rintro rfl
    exact numeral'.minus_not_mem_whole (by simp [hwhole'])
  rw [chars_eq, chars_eq, hwhole, hwhole'] at h
  cases hnegative : numeral.negative <;> cases hnegative' : numeral'.negative <;>
    simp_all

theorem natural?_eq_of_append {numeral numeral' : Numeral} {rest rest' : List Char}
    (h : numeral.chars ++ rest = numeral'.chars ++ rest') (hrest : Ends rest)
    (hrest' : Ends rest') : numeral.natural? = numeral'.natural? ∧ rest = rest' := by
  have hnegative := negative_eq_of_append h
  rw [chars_eq, chars_eq, hnegative, List.append_cancel_left_eq] at h
  have hdigits :
      (numeral.whole, numeral.tail ++ rest) = (numeral'.whole, numeral'.tail ++ rest') := by
    rw [← numeral.takeDigits_whole hrest, ← numeral'.takeDigits_whole hrest', h]
  have hskip : Except.ok rest = Except.ok rest' :=
    (numeral.skipNumber_whole hrest).symm.trans
      ((congrArg skipNumber h).trans (numeral'.skipNumber_whole hrest'))
  obtain ⟨hwhole, htail⟩ := Prod.mk.inj hdigits
  obtain rfl := Except.ok.inj hskip
  have htail := List.append_cancel_right htail
  refine ⟨Option.ext fun n => ?_, rfl⟩
  rw [natural?_eq_some, natural?_eq_some, hnegative, htail, hwhole]

end Numeral

namespace Tree

/-- The character that a document starts with, if it is no number. -/
def mark : Tree → Option Char
  | null => some 'n'
  | flag true => some 't'
  | flag false => some 'f'
  | number _ => none
  | text _ => some '"'
  | list _ => some '['
  | object _ => some '\x7b'

/-- Two documents are of the same form; words are the same. -/
inductive SameForm : Tree → Tree → Prop
  /-- Two times null. -/
  | null : SameForm null null
  /-- The same truth value. -/
  | flag (value : Bool) : SameForm (flag value) (flag value)
  /-- Two numbers. -/
  | number (numeral numeral' : Numeral) : SameForm (number numeral) (number numeral')
  /-- Two strings. -/
  | text (pieces pieces' : List Piece) : SameForm (text pieces) (text pieces')
  /-- Two lists. -/
  | list (elements elements' : List Tree) : SameForm (list elements) (list elements')
  /-- Two objects. -/
  | object (members members' : List (List Piece × Tree)) :
      SameForm (object members) (object members')

theorem sameForm {tree tree' : Tree} (h : tree.mark = tree'.mark) : SameForm tree tree' := by
  rcases tree with _ | (_ | _) | numeral | pieces | elements | members <;>
    rcases tree' with _ | (_ | _) | numeral' | pieces' | elements' | members' <;>
    first | constructor | exact absurd h (by simp [mark])

end Tree

section OneReading

variable {tree tree' : Tree} {tokens tokens' more more' : List Token} {text : List Char}

theorem Shows.mark_eq {c : Char} {cs : List Char} (h : Shows more tree (c :: cs)) :
    tree.mark = if c = '-' ∨ c.isDigit = true then none else some c := by
  cases h with
  | negative => rfl
  | positive _ hc => rw [if_pos (.inr hc), Tree.mark]
  | _ => rfl

theorem Shows.exists_number {numeral : Numeral} (h : Shows more (.number numeral) text) :
    ∃ rest, text = numeral.chars ++ rest ∧ Spaced more rest := by
  cases h with
  | negative hnegative hrest => exact ⟨_, by simp [Numeral.chars, hnegative], hrest⟩
  | positive hpositive _ htext hrest => exact ⟨_, by simp [htext, Numeral.chars, hpositive], hrest⟩

theorem sameForm_of_spaced (h : Spaced (tree.tokens more) text)
    (h' : Spaced (tree'.tokens more') text) : Tree.SameForm tree tree' := by
  have hshows := Tree.shows_skipBlank h
  have hshows' := Tree.shows_skipBlank h'
  obtain ⟨c, cs, hcons, -⟩ := hshows.exists_cons
  rw [hcons] at hshows hshows'
  exact Tree.sameForm (hshows.mark_eq.trans hshows'.mark_eq.symm)

/-- Two readings of a text give the same value and leave the same text. -/
def Agree {α : Type} (value value' : Option α) (more more' : List Token) : Prop :=
  value = value' ∧ ∃ rest, Spaced more rest ∧ Spaced more' rest

theorem Spaced.after {c : Char} {cs : List Char} (hc : isBlank c = false)
    (h : Spaced ((c :: cs) :: tokens) text) (h' : Spaced ((c :: cs) :: tokens') text) :
    ∃ rest, Spaced tokens rest ∧ Spaced tokens' rest := by
  obtain ⟨rest, htext, hrest, -⟩ := h.skipBlank_eq hc
  obtain ⟨rest', htext', hrest', -⟩ := h'.skipBlank_eq hc
  rw [htext, List.cons.injEq, List.append_cancel_left_eq] at htext'
  exact ⟨rest, hrest, htext'.2 ▸ hrest'⟩

theorem Spaced.after_separated {first : Bool} (h : Spaced (Tree.separated first tokens) text)
    (h' : Spaced (Tree.separated first tokens') text) :
    ∃ rest, Spaced tokens rest ∧ Spaced tokens' rest := by
  cases first with
  | true => exact ⟨text, h, h'⟩
  | false => exact h.after rfl h'

theorem agree_quoted {pieces pieces' : List Piece}
    (h : Spaced (Piece.quoted pieces :: tokens) text)
    (h' : Spaced (Piece.quoted pieces' :: tokens') text) :
    Agree (Piece.content? pieces) (Piece.content? pieces') tokens tokens' := by
  obtain ⟨rest, htext, hrest, -⟩ := h.skipBlank_eq rfl
  obtain ⟨rest', htext', hrest', -⟩ := h'.skipBlank_eq rfl
  rw [htext, List.cons.injEq, List.append_assoc, List.append_assoc] at htext'
  obtain ⟨hcontent, rfl⟩ := Piece.content?_eq_of_append htext'.2
  exact ⟨hcontent, rest, hrest, hrest'⟩

theorem agree_number {numeral numeral' : Numeral} (hmore : Closing more) (hmore' : Closing more')
    (h : Spaced (Tree.tokens more (.number numeral)) text)
    (h' : Spaced (Tree.tokens more' (.number numeral')) text) :
    Agree numeral.natural? numeral'.natural? more more' := by
  obtain ⟨rest, htext, hrest⟩ := (Tree.shows_skipBlank h).exists_number
  obtain ⟨rest', htext', hrest'⟩ := (Tree.shows_skipBlank h').exists_number
  -- where a number ends can be told only from what may follow a value
  obtain ⟨hnatural, rfl⟩ := Numeral.natural?_eq_of_append (htext.symm.trans htext')
    (hrest.ends hmore) (hrest'.ends hmore')
  exact ⟨hnatural, rest, hrest, hrest'⟩

/-- The end of a list is not the beginning of another element. -/
theorem not_spaced_element {first : Bool} (h : Spaced ([']'] :: tokens) text) :
    ¬ Spaced (Tree.separated first (tree.tokens more)) text := by
  intro h'
  obtain ⟨_, htext, -⟩ := h.skipBlank_eq rfl
  cases first with
  | true =>
    obtain ⟨c, cs, hcons, -, hne, -⟩ := (Tree.shows_skipBlank h').exists_cons
    exact hne (List.cons.inj (hcons.symm.trans htext)).1
  | false =>
    obtain ⟨_, htext', -⟩ := h'.skipBlank_eq rfl
    exact absurd (List.cons.inj (htext'.symm.trans htext)).1 (by decide)

/-- The end of an object is not the beginning of another member. -/
theorem not_spaced_member {first : Bool} {key : List Piece} (h : Spaced (['\x7d'] :: tokens) text) :
    ¬ Spaced (Tree.separated first (Piece.quoted key :: tokens')) text := by
  intro h'
  obtain ⟨_, htext, -⟩ := h.skipBlank_eq rfl
  cases first with
  | true =>
    obtain ⟨_, htext', -⟩ := h'.skipBlank_eq rfl
    exact absurd (List.cons.inj (htext'.symm.trans htext)).1 (by decide)
  | false =>
    obtain ⟨_, htext', -⟩ := h'.skipBlank_eq rfl
    exact absurd (List.cons.inj (htext'.symm.trans htext)).1 (by decide)

end OneReading

mutual

theorem agree : (tree : Tree) → ∀ {tree' : Tree} {more more' : List Token} {text : List Char},
    Closing more → Closing more' → Spaced (tree.tokens more) text →
    Spaced (tree'.tokens more') text → Agree tree.value? tree'.value? more more'
  | .null, _, _, _, _, _, _, h, h' => by
    cases sameForm_of_spaced h h'
    exact ⟨rfl, h.after rfl h'⟩
  | .flag true, _, _, _, _, _, _, h, h' => by
    cases sameForm_of_spaced h h'
    exact ⟨rfl, h.after rfl h'⟩
  | .flag false, _, _, _, _, _, _, h, h' => by
    cases sameForm_of_spaced h h'
    exact ⟨rfl, h.after rfl h'⟩
  | .number numeral, _, _, _, _, hmore, hmore', h, h' => by
    cases sameForm_of_spaced h h'
    obtain ⟨hnatural, hrest⟩ := agree_number hmore hmore' h h'
    exact ⟨by rw [Tree.value?, Tree.value?, hnatural], hrest⟩
  | .text pieces, _, _, _, _, _, _, h, h' => by
    cases sameForm_of_spaced h h'
    obtain ⟨hcontent, hrest⟩ := agree_quoted h h'
    exact ⟨by rw [Tree.value?, Tree.value?, hcontent], hrest⟩
  | .list elements, _, _, _, _, _, _, h, h' => by
    cases sameForm_of_spaced h h'
    obtain ⟨_, hlist, hlist'⟩ := h.after rfl h'
    obtain ⟨hvalues, hrest⟩ := agreeAll elements hlist hlist'
    exact ⟨by rw [Tree.value?, Tree.value?, hvalues], hrest⟩
  | .object members, _, _, _, _, _, _, h, h' => by
    cases sameForm_of_spaced h h'
    obtain ⟨_, hobject, hobject'⟩ := h.after rfl h'
    obtain ⟨hvalues, hrest⟩ := agreeMembers members hobject hobject'
    exact ⟨by rw [Tree.value?, Tree.value?, hvalues], hrest⟩

theorem agreeAll : (elements : List Tree) → ∀ {first : Bool} {elements' : List Tree}
    {more more' : List Token} {text : List Char},
    Spaced (Tree.elementTokens first more elements) text →
    Spaced (Tree.elementTokens first more' elements') text →
    Agree (Tree.valueAll? elements) (Tree.valueAll? elements') more more'
  | [], _, [], _, _, _, h, h' => ⟨rfl, h.after rfl h'⟩
  | [], _, _ :: _, _, _, _, h, h' => (not_spaced_element h h').elim
  | _ :: _, _, [], _, _, _, h, h' => (not_spaced_element h' h).elim
  | element :: elements, _, _ :: _, _, _, _, h, h' => by
    obtain ⟨_, hfirst, hfirst'⟩ := h.after_separated h'
    obtain ⟨hvalue, _, hrest, hrest'⟩ :=
      agree element (closing_elementTokens _ _) (closing_elementTokens _ _) hfirst hfirst'
    obtain ⟨hvalues, hmore⟩ := agreeAll elements hrest hrest'
    exact ⟨by rw [Tree.valueAll?, Tree.valueAll?, hvalue, hvalues], hmore⟩

theorem agreeMembers : (members : List (List Piece × Tree)) → ∀ {first : Bool}
    {members' : List (List Piece × Tree)} {more more' : List Token} {text : List Char},
    Spaced (Tree.memberTokens first more members) text →
    Spaced (Tree.memberTokens first more' members') text →
    Agree (Tree.valueMembers? members) (Tree.valueMembers? members') more more'
  | [], _, [], _, _, _, h, h' => ⟨rfl, h.after rfl h'⟩
  | [], _, _ :: _, _, _, _, h, h' => (not_spaced_member h h').elim
  | _ :: _, _, [], _, _, _, h, h' => (not_spaced_member h' h).elim
  | (_, value) :: members, _, (_, _) :: _, _, _, _, h, h' => by
    obtain ⟨_, hfirst, hfirst'⟩ := h.after_separated h'
    obtain ⟨hkey, _, hcolon, hcolon'⟩ := agree_quoted hfirst hfirst'
    obtain ⟨_, hrest, hrest'⟩ := hcolon.after rfl hcolon'
    obtain ⟨hvalue, _, hrest, hrest'⟩ :=
      agree value (closing_memberTokens _ _) (closing_memberTokens _ _) hrest hrest'
    obtain ⟨hvalues, hmore⟩ := agreeMembers members hrest hrest'
    exact ⟨by rw [Tree.valueMembers?, Tree.valueMembers?, hkey, hvalue, hvalues], hmore⟩

end

/-- Two documents that a text writes have the same value. -/
theorem Writes.value?_eq {text : String} {tree tree' : Tree} (h : Writes text tree)
    (h' : Writes text tree') : tree.value? = tree'.value? :=
  (agree tree closing_nil closing_nil h h').1

/-- A text is a JSON document, and however it is read, it has this value. -/
structure Decodes (text : String) (value : Value) : Prop where
  /-- The text writes a document. -/
  valid : ∃ tree, Writes text tree
  /-- Every document that it writes has this value. -/
  value_eq : ∀ tree, Writes text tree → tree.value? = some value

/-- The text of a value with a line for each member and element says this value. -/
theorem Value.decodes_pretty (value : Value) : Decodes value.pretty value where
  valid := ⟨value.tree, value.writes_pretty⟩
  value_eq _ h := (h.value?_eq value.writes_pretty).trans value.value?_tree

end ReturnPaths.Json
