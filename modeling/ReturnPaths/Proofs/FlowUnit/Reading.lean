import ReturnPaths.FlowUnit.Reader
import ReturnPaths.Proofs.FlowUnit.Members
import ReturnPaths.Proofs.Json.Skipping

/-!
# Reading what documents denote

What the reader makes of a text depends only on the document that the text writes: it gives what the
document denotes, and refuses a document that denotes nothing.

* `Agrees` : a reader gives what documents denote; `agrees_readShape` is the induction on the depth.
* `readWhole_eq_ok`, `readWhole_eq_error` : whole texts.
-/

namespace ReturnPaths

open Json

/-! ### Reading scalars -/

section Scalars

variable {tree : Tree} {more : List Token} {text : List Char}

theorem reads_readString (expected : String) (h : Spaced (tree.tokens more) text) :
    Reads tree.text? (Spaced more) (readString expected text) := by
  have hshows := Tree.shows_skipBlank h
  rw [readString]
  generalize skipBlank text = shown at hshows
  cases hshows with
  | text hrest =>
    refine (reads_readText _).imp ?_
    rintro _ rfl
    exact hrest
  | positive _ hc =>
    split
    next heq => exact absurd heq (cons_ne_of_isDigit hc rfl)
    next => exact rfl
    next => exact rfl
  | _ => exact rfl

theorem reads_readFlag (h : Spaced (tree.tokens more) text) :
    Reads tree.flag? (Spaced more) (readFlag text) := by
  have hshows := Tree.shows_skipBlank h
  rw [readFlag]
  generalize skipBlank text = shown at hshows
  cases hshows with
  | yes hrest =>
    simp only [readWord_append]
    exact ⟨rfl, hrest⟩
  | no hrest =>
    simp only [readWord_append]
    exact ⟨rfl, hrest⟩
  | positive _ hc =>
    split
    next heq => exact absurd heq (cons_ne_of_isDigit hc rfl)
    next heq => exact absurd heq (cons_ne_of_isDigit hc rfl)
    next => exact rfl
    next => exact rfl
  | _ => exact rfl

theorem boundedNatural_notNatural {result : Except Fault (Number × List Char)} (expected : String)
    (limit : ℕ) (h : NotNatural result) :
    ∃ fault, (result >>= boundedNatural expected limit) = .error fault := by
  rcases result with fault | ⟨n | n | ⟨negative, magnitude⟩, rest⟩
  · exact ⟨fault, rfl⟩
  · exact absurd rfl (h n rest)
  · exact ⟨_, rfl⟩
  · exact ⟨_, rfl⟩

theorem reads_readNatural (expected : String) {limit : ℕ} (hlimit : limit ≤ wordLimit)
    (hclosing : Closing more) (h : Spaced (tree.tokens more) text) :
    Reads (tree.below? limit) (Spaced more) (readNatural expected limit text) := by
  have hshows := Tree.shows_skipBlank h
  rw [readNatural]
  generalize skipBlank text = shown at hshows
  cases hshows with
  | @negative numeral rest hnegative hrest =>
    have hnone : Tree.below? limit (.number numeral) = none := by
      simp [Tree.below?, Numeral.natural?, hnegative]
    rw [hnone, reads_none]
    exact boundedNatural_notNatural expected limit (readNumber_negative _)
  | @positive numeral c digits rest hpositive hc htext hrest =>
    have hends := hrest.ends hclosing
    rw [Tree.below?]
    split
    next heq => exact absurd heq (cons_ne_of_isDigit hc rfl)
    next heq => cases heq
    · rename_i heq
      obtain ⟨rfl, rfl⟩ := List.cons.inj heq
      rw [if_pos hc, htext]
      -- the reader of numbers knows 64 bits only; the limit is checked on what it gives
      by_cases hn : ∀ n, numeral.natural? = some n → wordLimit ≤ n
      · have hnone : numeral.natural?.filter (· < limit) = none := by
          rw [Option.filter_eq_none_iff]
          intro n hnatural
          have := hn n hnatural
          simp only [decide_eq_true_eq]
          omega
        rw [hnone, reads_none]
        exact boundedNatural_notNatural expected limit
          (numeral.readNumber_notNatural hends hn hpositive)
      · push Not at hn
        obtain ⟨n, hnatural, hlt⟩ := hn
        rw [numeral.readNumber_natural hends hnatural hlt, hnatural]
        change Reads _ _ (if n < limit then _ else _)
        by_cases hbelow : n < limit
        · rw [if_pos hbelow]
          exact ⟨by simp [hbelow], hrest⟩
        · rw [if_neg hbelow]
          exact Option.filter_eq_none_iff.2 (by simpa using hbelow)
  | _ => exact rfl

theorem reads_readKnown {α : Type} (names : List (String × α)) (pieces : List Piece)
    {rest : List Char} :
    Reads (Piece.name? names pieces) (· = rest)
      (readKnown names (pieces.flatMap Piece.chars ++ '"' :: rest)) := by
  refine (reads_readText pieces).bind fun name rest' _ hrest => ?_
  cases hlookup : names.lookup name with
  | none =>
    simp only [hlookup]
    exact rfl
  | some value =>
    simp only [hlookup]
    exact ⟨rfl, hrest⟩

theorem readNull_tokens (h : Spaced (Tree.tokens more .null) text) :
    ∃ rest, readNull text = .ok rest ∧ Spaced more rest := by
  obtain ⟨rest, htext, hrest, -⟩ := h.skipBlank_eq rfl
  refine ⟨rest, ?_, hrest⟩
  rw [readNull, htext]
  exact readWord_append "ull".toList rest

theorem readNull_error (h : Spaced (tree.tokens more) text) (hnull : tree ≠ .null) :
    ∃ fault, readNull text = .error fault := by
  have hshows := Tree.shows_skipBlank h
  rw [readNull]
  generalize skipBlank text = shown at hshows
  cases hshows with
  | null => exact absurd rfl hnull
  | positive _ hc =>
    split
    next heq => exact absurd heq (cons_ne_of_isDigit hc rfl)
    next => exact ⟨_, rfl⟩
    next => exact ⟨_, rfl⟩
  | _ => exact ⟨_, rfl⟩

/-! An object denotes a name only if it has one key, and null with it. -/

section Names

variable {α : Type} {levels : ℕ} (names : List (String × α)) (key : List Piece)

theorem Json.Tree.name?_zero (members : List (List Piece × Tree)) :
    Tree.name? 0 names (.object members) = none := by
  unfold Tree.name?
  split
  next heq => cases heq
  next => rfl
  next => rfl

theorem Json.Tree.name?_key (hlevels : levels ≠ 0) :
    Tree.name? levels names (.object [(key, .null)]) = (Piece.name? names key).bind some := by
  rw [Tree.name?, if_neg hlevels, Option.bind_fun_some]

theorem Json.Tree.name?_member {value : Tree} {members : List (List Piece × Tree)}
    (h : value ≠ .null ∨ members ≠ []) :
    Tree.name? levels names (.object ((key, value) :: members)) =
      (Piece.name? names key).bind fun _ => none := by
  rw [Option.bind_fun_none]
  unfold Tree.name?
  split
  next heq => cases heq
  next heq =>
    cases heq
    exact absurd rfl (h.resolve_right fun hmembers => hmembers rfl)
  next => rfl

end Names

theorem reads_readName {α : Type} (levels : ℕ) (names : List (String × α))
    (h : Spaced (tree.tokens more) text) :
    Reads (tree.name? levels names) (Spaced more) (readName levels names text) := by
  have hshows := Tree.shows_skipBlank h
  rw [readName]
  generalize skipBlank text = shown at hshows
  cases hshows with
  | text hrest =>
    refine (reads_readKnown names _).imp ?_
    rintro _ rfl
    exact hrest
  | positive _ hc =>
    split
    next heq => exact absurd heq (cons_ne_of_isDigit hc rfl)
    next heq => exact absurd heq (cons_ne_of_isDigit hc rfl)
    next => exact rfl
    next => exact rfl
  | @object members rest hrest =>
    change Reads _ _ (if levels = 0 then _ else _)
    by_cases hlevels : levels = 0
    · rw [if_pos hlevels, hlevels, Tree.name?_zero]
      exact rfl
    rw [if_neg hlevels]
    rcases members with _ | ⟨⟨key, value⟩, members⟩
    · obtain ⟨rest', hrest', -⟩ := hrest.skipBlank_eq rfl
      rw [hrest']
      exact rfl
    -- after the key comes the null, and after that the end
    obtain ⟨after, hafter, hcolon, -⟩ := hrest.skipBlank_eq rfl
    rw [hafter, List.append_assoc]
    have hknown : Reads _ (· = after) _ := reads_readKnown names key
    obtain ⟨below, hbelow, hvalue, -⟩ := readColon_tokens hcolon
    by_cases hnull : value = .null
    · subst hnull
      obtain ⟨final, hfinal, hend⟩ := readNull_tokens hvalue
      rcases members with _ | ⟨member, members⟩
      · obtain ⟨rest', hrest', hmore, -⟩ := hend.skipBlank_eq rfl
        rw [Tree.name?_key names key hlevels]
        refine hknown.bind ?_
        rintro known _ - rfl
        simp only [hbelow, bind, Except.bind, hfinal, hrest']
        exact ⟨rfl, hmore⟩
      · obtain ⟨rest', hrest', -⟩ := hend.skipBlank_eq rfl
        rw [Tree.name?_member names key (.inr (List.cons_ne_nil _ _))]
        refine hknown.bind ?_
        rintro known _ - rfl
        simp only [hbelow, bind, Except.bind, hfinal, hrest']
        exact rfl
    · obtain ⟨fault, hfault⟩ := readNull_error hvalue hnull
      rw [Tree.name?_member names key (.inl hnull)]
      refine hknown.bind ?_
      rintro known _ - rfl
      simp only [hbelow, bind, Except.bind, hfault]
      exact rfl
  | _ => exact rfl

theorem reads_readScalar (levels : ℕ) (hclosing : Closing more)
    (h : Spaced (tree.tokens more) text) (scalar : Scalar) :
    Reads (scalar.decode levels tree) (Spaced more) (readScalar levels text scalar) := by
  cases scalar with
  | text => exact reads_readString _ h
  | path => exact (reads_readString _ h).map Path.mk
  | word32 => exact (reads_readNatural _ (by decide) hclosing h).map UInt32.ofNat
  | word64 => exact (reads_readNatural _ (by decide) hclosing h).map UInt64.ofNat
  | flag => exact reads_readFlag h
  | subjectKind => exact reads_readName levels _ h
  | typeKind => exact reads_readName levels _ h
  | instruction => exact reads_readName levels _ h

end Scalars

/-! ### Reading lists and objects -/

section Separators

variable {more : List Token} {text : List Char}

theorem nextElement_nil (first : Bool) (h : Spaced (Tree.elementTokens first more []) text) :
    ∃ rest, nextElement first text = .ok (false, ']' :: rest) ∧ Spaced more rest := by
  obtain ⟨rest, htext, hrest, -⟩ := h.skipBlank_eq rfl
  exact ⟨rest, by rw [nextElement, htext]; rfl, hrest⟩

theorem nextElement_cons (first : Bool) {element : Tree} {elements : List Tree}
    (h : Spaced (Tree.elementTokens first more (element :: elements)) text) :
    ∃ rest, nextElement first text = .ok (true, rest) ∧
      Spaced (element.tokens (Tree.elementTokens false more elements)) rest := by
  cases first with
  | true =>
    have hshows : Shows _ element _ := Tree.shows_skipBlank h
    obtain ⟨c, cs, hcs, -, hend, -, hcomma⟩ := hshows.exists_cons
    refine ⟨skipBlank text, ?_, hshows.spaced⟩
    rw [nextElement, hcs]
    split
    next heq => exact absurd (List.cons.inj heq).1 hend
    next heq => cases heq
    next heq => exact absurd (List.cons.inj heq).1 hcomma
    · rfl
  | false =>
    obtain ⟨after, htext, hafter, -⟩ := h.skipBlank_eq rfl
    have hshows : Shows _ element _ := Tree.shows_skipBlank hafter
    obtain ⟨c, cs, hcs, -, hend, -, hcomma⟩ := hshows.exists_cons
    refine ⟨skipBlank after, ?_, hshows.spaced⟩
    rw [nextElement, htext]
    simp only [List.nil_append, Bool.false_eq_true, if_false]
    rw [hcs]
    split
    next heq => exact absurd (List.cons.inj heq).1 hend
    next heq => cases heq
    · rfl

theorem readListEnd_cons (rest : List Char) : readListEnd (']' :: rest) = .ok rest := rfl

theorem readListEnd_nil (first : Bool) (h : Spaced (Tree.elementTokens first more []) text) :
    ∃ rest, readListEnd text = .ok rest ∧ Spaced more rest := by
  obtain ⟨rest, htext, hrest, -⟩ := h.skipBlank_eq rfl
  exact ⟨rest, by rw [readListEnd, htext]; rfl, hrest⟩

theorem readListEnd_error (first : Bool) {element : Tree} {elements : List Tree}
    (h : Spaced (Tree.elementTokens first more (element :: elements)) text) :
    ∃ fault, readListEnd text = .error fault := by
  cases first with
  | true =>
    have hshows : Shows _ element _ := Tree.shows_skipBlank h
    obtain ⟨c, cs, hcs, -, hend, -, hcomma⟩ := hshows.exists_cons
    rw [readListEnd, hcs]
    split
    next heq => exact absurd (List.cons.inj heq).1 hend
    · exact ⟨_, rfl⟩
    next heq => exact absurd (List.cons.inj heq).1 hcomma
    · exact ⟨_, rfl⟩
  | false =>
    obtain ⟨after, htext, -⟩ := h.skipBlank_eq rfl
    rw [readListEnd, htext]
    simp only
    split <;> exact ⟨_, rfl⟩

theorem nextKey_nil (first : Bool) (h : Spaced (Tree.memberTokens first more []) text) :
    ∃ rest, nextKey first text = .ok (none, rest) ∧ Spaced more rest := by
  obtain ⟨rest, htext, hrest, -⟩ := h.skipBlank_eq rfl
  exact ⟨rest, by rw [nextKey, htext]; rfl, hrest⟩

theorem reads_quotedKey {key : List Piece} (h : Spaced (Piece.quoted key :: more) text) :
    ∃ rest, skipBlank text = '"' :: rest ∧ Reads ((Piece.content? key).map some) (Spaced more)
      ((readText rest).map fun (name, rest) => (some name, rest)) := by
  obtain ⟨rest, hquote, hrest, -⟩ := h.skipBlank_eq rfl
  refine ⟨_, hquote, ?_⟩
  rw [List.append_assoc]
  refine ((reads_readText key).imp ?_).map some
  rintro _ rfl
  exact hrest

theorem reads_nextKey (first : Bool) {key : List Piece} {value : Tree}
    {members : List (List Piece × Tree)}
    (h : Spaced (Tree.memberTokens first more ((key, value) :: members)) text) :
    Reads ((Piece.content? key).map some)
      (Spaced ([':'] :: value.tokens (Tree.memberTokens false more members)))
      (nextKey first text) := by
  cases first with
  | true =>
    obtain ⟨rest, hquote, hreads⟩ := reads_quotedKey h
    rw [nextKey, hquote]
    exact hreads
  | false =>
    obtain ⟨after, htext, hafter, -⟩ := h.skipBlank_eq rfl
    obtain ⟨rest, hquote, hreads⟩ := reads_quotedKey hafter
    rw [nextKey, htext]
    simp only [List.nil_append, Bool.false_eq_true, if_false]
    rw [hquote]
    exact hreads

/-- What is made of the values in a list can be made before the end of the list is read. -/
theorem reads_map_listEnd {α β : Type} {expected : Option α} {Left : List Char → Prop}
    {result : Except Fault (α × List Char)} (make : α → β)
    (h : Reads expected Left
      (result >>= fun (values, rest) => (readListEnd rest).map (values, ·))) :
    Reads (expected.map make) Left
      (result >>= fun (values, rest) => (readListEnd rest).map (make values, ·)) := by
  rcases result with fault | ⟨values, rest⟩
  · exact h.map make
  · have hlast := h.map make
    simp only [bind, Except.bind] at hlast ⊢
    cases hend : readListEnd rest with
    | error fault =>
      rw [hend] at hlast
      exact hlast
    | ok rest' =>
      rw [hend] at hlast
      exact hlast

end Separators

section Records

variable {steps : ℕ} {inner : (shape : Shape) → Tree → Option shape.Value}
  {readInner : (shape : Shape) → Reader shape.Value}

/-- A reader of the values of all shapes gives what documents denote. -/
def Agrees (steps : ℕ) (inner : (shape : Shape) → Tree → Option shape.Value)
    (readInner : (shape : Shape) → Reader shape.Value) : Prop :=
  ∀ (shape : Shape) (tree : Tree) (more : List Token) (text : List Char), Closing more →
    Spaced (tree.tokens more) text → tree.steps ≤ steps →
    Reads (inner shape tree) (Spaced more) (readInner shape text)

variable (hinner : Agrees steps inner readInner) {more : List Token} {text : List Char}

include hinner

theorem reads_readSlot {tree : Tree} (hclosing : Closing more) (h : Spaced (tree.tokens more) text)
    (hsteps : tree.steps ≤ steps) (slot : Slot) :
    Reads (slot.decode inner tree) (Spaced more) (readSlot readInner text slot) := by
  cases slot with
  | given shape => exact hinner shape tree more text hclosing h hsteps
  | nullable shape =>
    have hshows := Tree.shows_skipBlank h
    have hvalue := (hinner shape tree more _ hclosing hshows.spaced hsteps).map some
    rw [readSlot]
    generalize skipBlank text = shown at hshows hvalue
    cases hshows with
    | null hrest =>
      simp only [readWord_append]
      exact ⟨rfl, hrest⟩
    | positive _ hc =>
      split
      next heq => exact absurd heq (cons_ne_of_isDigit hc rfl)
      next => exact hvalue
    | _ => exact hvalue

theorem reads_readMember {tree : Tree} (hclosing : Closing more)
    (h : Spaced ([':'] :: tree.tokens more) text) (hsteps : tree.steps ≤ steps) (key : String)
    (fields : List Field) (draft : Draft fields) :
    Reads (Draft.insert inner key tree fields draft) (Spaced more)
      (readMember steps readInner key text fields draft) := by
  obtain ⟨rest, hcolon, hrest, -⟩ := readColon_tokens h
  induction fields with
  | nil =>
    -- no field has this name, so the value is passed over
    obtain ⟨rest', hskip, hrest'⟩ := skipValue_tokens hclosing hrest hsteps
    rw [readMember]
    simp only [hcolon, bind, Except.bind, hskip]
    exact ⟨rfl, hrest'⟩
  | cons field fields ih =>
    obtain ⟨held, draft⟩ := draft
    rw [readMember, Draft.insert]
    split_ifs with hname hheld
    · exact rfl
    · simp only [hcolon, bind, Except.bind]
      exact (reads_readSlot hinner hclosing hrest hsteps field.slot).map fun value =>
        (some value, draft)
    · exact (ih draft).map (held, ·)

theorem reads_readMembers (fields : List Field) (first : Bool) (draft : Draft fields)
    (members : List (List Piece × Tree)) (h : Spaced (Tree.memberTokens first more members) text)
    (hsteps : ∀ member ∈ members, member.2.steps ≤ steps) {fuel : ℕ}
    (hfuel : members.length < fuel) :
    Reads (Draft.insertAll inner fields draft members) (Spaced more)
      (readMembers steps readInner fields first draft text fuel) := by
  induction fuel generalizing first draft members text with
  | zero => omega
  | succ fuel ih =>
    rcases members with _ | ⟨⟨key, value⟩, members⟩
    · obtain ⟨rest, hnext, hrest⟩ := nextKey_nil first h
      rw [readMembers, hnext]
      exact ⟨rfl, hrest⟩
    · have hnext := reads_nextKey first h
      rw [readMembers, Draft.insertAll]
      cases hname : Piece.content? key with
      | none =>
        rw [hname] at hnext
        obtain ⟨fault, hfault⟩ := reads_none.1 hnext
        rw [hfault]
        exact rfl
      | some name =>
        rw [hname] at hnext
        obtain ⟨rest, hkey, hrest⟩ := reads_some.1 hnext
        have hvalue := hsteps (key, value) List.mem_cons_self
        rw [hkey]
        change Reads _ _ (readMember steps readInner name rest fields draft >>= _)
        refine (reads_readMember hinner (closing_memberTokens more members) hrest hvalue name fields
          draft).bind fun draft rest _ hrest => ?_
        exact ih false draft members hrest
          (fun member hmember => hsteps member (List.mem_cons_of_mem _ hmember))
          (Nat.lt_of_succ_lt_succ hfuel)

/-- The reader of fields in order, and of the end of the list after them. -/
theorem reads_readPositional (expected : String) (fields : List Field) (elements : List Tree)
    (read : ℕ) (h : Spaced (Tree.elementTokens (read == 0) more elements) text)
    (hsteps : ∀ element ∈ elements, element.steps ≤ steps) :
    Reads (decodeList inner fields elements) (Spaced more)
      (readPositional readInner expected read text fields >>= fun (values, rest) =>
        (readListEnd rest).map (values, ·)) := by
  induction fields generalizing elements read text with
  | nil =>
    rw [readPositional]
    rcases elements with _ | ⟨element, elements⟩
    · obtain ⟨rest, hend, hrest⟩ := readListEnd_nil _ h
      simp only [bind, Except.bind, hend]
      exact ⟨rfl, hrest⟩
    · obtain ⟨fault, hend⟩ := readListEnd_error _ h
      simp only [bind, Except.bind, hend]
      exact rfl
  | cons field fields ih =>
    rw [readPositional]
    rcases elements with _ | ⟨element, elements⟩
    · obtain ⟨rest, hnext, hrest⟩ := nextElement_nil _ h
      simp only [hnext, bind, Except.bind, Bool.false_eq_true, if_false]
      rw [decodeList_nil]
      cases Draft.complete (field :: fields) (Draft.blank (field :: fields)) with
      | ok values => exact ⟨rfl, hrest⟩
      | error name => exact rfl
    · obtain ⟨rest, hnext, hrest⟩ := nextElement_cons _ h
      have helement := hsteps element List.mem_cons_self
      rw [hnext, decodeList]
      change Reads _ _ ((readSlot readInner rest field.slot >>= _) >>= _)
      rw [bind_assoc]
      refine (reads_readSlot hinner (closing_elementTokens more elements) hrest helement
        field.slot).bind fun value rest _ hrest => ?_
      -- the value is put in front before the end of the list is read
      have hvalues := ih elements (read + 1) hrest fun element helement =>
        hsteps element (List.mem_cons_of_mem _ helement)
      change Reads _ _ ((readPositional readInner expected (read + 1) rest fields >>= _) >>= _)
      rw [bind_assoc]
      exact reads_map_listEnd (value, ·) hvalues

theorem reads_readElements (form : Form) (read : List form.Value) (elements : List Tree)
    (h : Spaced (Tree.elementTokens read.isEmpty more elements) text)
    (hsteps : ∀ element ∈ elements, element.steps ≤ steps) {fuel : ℕ}
    (hfuel : elements.length < fuel) :
    Reads ((elements.mapM (inner (.record form))).map (read.reverse ++ ·)) (Spaced more)
      (readElements (readInner (.record form)) read text fuel) := by
  induction fuel generalizing read elements text with
  | zero => omega
  | succ fuel ih =>
    rcases elements with _ | ⟨element, elements⟩
    · obtain ⟨rest, hnext, hrest⟩ := nextElement_nil _ h
      rw [readElements]
      simp only [hnext, bind, Except.bind, Bool.false_eq_true, if_false, readListEnd_cons]
      exact ⟨by simp, hrest⟩
    · obtain ⟨rest, hnext, hrest⟩ := nextElement_cons _ h
      have helement := hsteps element List.mem_cons_self
      rw [readElements, hnext, List.mapM_cons]
      change Reads _ _ (readInner (.record form) rest >>= _)
      have hmap : ((do
            let value ← inner (.record form) element
            let values ← elements.mapM (inner (.record form))
            pure (value :: values)).map (read.reverse ++ ·) : Option (List form.Value)) =
          (inner (.record form) element).bind fun value =>
            (elements.mapM (inner (.record form))).map ((value :: read).reverse ++ ·) := by
        cases inner (.record form) element <;>
          cases elements.mapM (inner (.record form)) <;> simp
      rw [hmap]
      refine (hinner _ element _ _ (closing_elementTokens more elements) hrest helement).bind
        fun value rest _ hrest => ?_
      exact ih (value :: read) elements hrest
        (fun element helement => hsteps element (List.mem_cons_of_mem _ helement))
        (Nat.lt_of_succ_lt_succ hfuel)

theorem reads_readRecord {tree : Tree} (h : Spaced (tree.tokens more) text)
    (hsteps : tree.steps ≤ steps) (form : Form) :
    Reads (form.decode inner tree) (Spaced more) (readRecord steps readInner form text) := by
  have hshows := Tree.shows_skipBlank h
  rw [readRecord]
  generalize skipBlank text = shown at hshows
  cases hshows with
  | @list elements rest hrest =>
    have hread := reads_readPositional hinner form.titleWithSize form.fields elements 0 hrest
      fun element helement => Nat.le_trans (Tree.steps_le_of_mem helement) hsteps
    exact reads_map_listEnd form.build hread
  | @object members rest hrest =>
    have hfuel : members.length < steps + 1 := by
      have := Tree.length_lt_memberSteps members
      rw [Tree.steps] at hsteps
      omega
    have hread := reads_readMembers hinner form.fields true (Draft.blank form.fields) members hrest
      (fun member hmember => Nat.le_trans (Tree.steps_le_of_mem_members hmember) hsteps) hfuel
    -- the reader takes the members one after the other, the document says it field by field
    rw [Form.decode, decodeObject_eq, ← Draft.insertAll_eq inner _ form.fields_nodup,
      Option.map_bind]
    refine hread.bind fun draft rest _ hrest => ?_
    simp only [Function.comp]
    cases Draft.complete form.fields draft with
    | ok values => exact ⟨rfl, hrest⟩
    | error name => exact rfl
  | positive _ hc =>
    split
    next heq => exact absurd heq (cons_ne_of_isDigit hc rfl)
    next heq => exact absurd heq (cons_ne_of_isDigit hc rfl)
    next => exact rfl
    next => exact rfl
  | _ => exact rfl

theorem reads_readRecords {tree : Tree} (h : Spaced (tree.tokens more) text)
    (hsteps : tree.steps ≤ steps) (form : Form) :
    Reads (form.decodeAll inner tree) (Spaced more) (readRecords steps readInner form text) := by
  have hshows := Tree.shows_skipBlank h
  rw [readRecords]
  generalize skipBlank text = shown at hshows
  cases hshows with
  | @list elements rest hrest =>
    have hfuel : elements.length < steps + 1 := by
      have := Tree.length_lt_elementSteps elements
      rw [Tree.steps] at hsteps
      omega
    have hread := reads_readElements hinner form [] elements hrest
      (fun element helement => Nat.le_trans (Tree.steps_le_of_mem helement) hsteps) hfuel
    simpa [Form.decodeAll] using hread
  | positive _ hc =>
    split
    next heq => exact absurd heq (cons_ne_of_isDigit hc rfl)
    next => exact rfl
    next => exact rfl
  | _ => exact rfl

end Records

theorem reads_readTooDeep {α : Type} {tree : Tree} {more : List Token} {text : List Char}
    (expected : String) (allowed : Char → Bool) (h : Spaced (tree.tokens more) text) :
    Reads (none : Option α) (Spaced more) (readTooDeep expected allowed text) := by
  obtain ⟨c, cs, hcs, -⟩ := (Tree.shows_skipBlank h).exists_cons
  rw [readTooDeep, hcs]
  exact rfl

/-- The reader gives what a document denotes, at every depth. -/
theorem agrees_readShape (steps depth : ℕ) :
    Agrees steps (decode depth) (readShape steps depth) := by
  -- the records below are read at the depth that is left
  induction depth with
  | zero =>
    intro shape tree more text hclosing h _
    cases shape with
    | scalar scalar =>
      rw [decode, readShape]
      exact reads_readScalar 0 hclosing h scalar
    | record form =>
      rw [decode, readShape]
      exact reads_readTooDeep _ _ h
    | records form =>
      rw [decode, readShape]
      exact reads_readTooDeep _ _ h
  | succ depth ih =>
    intro shape tree more text hclosing h hsteps
    cases shape with
    | scalar scalar =>
      rw [decode, readShape]
      exact reads_readScalar (depth + 1) hclosing h scalar
    | record form =>
      rw [decode, readShape]
      exact reads_readRecord ih h hsteps form
    | records form =>
      rw [decode, readShape]
      exact reads_readRecords ih h hsteps form

/-! ### Whole texts -/

section Whole

variable {shape : Shape} {text : String} {tree : Tree}

theorem reads_readShape_whole (shape : Shape) (h : Writes text tree) :
    Reads (decode depthLimit shape tree) (Spaced [])
      (readShape text.toList.length depthLimit shape text.toList) :=
  agrees_readShape _ _ shape tree [] _ closing_nil h (steps_le_length closing_nil h)

/-- A text is read as what its document denotes. -/
theorem readWhole_eq_ok (h : Writes text tree) {value : shape.Value}
    (hvalue : decode depthLimit shape tree = some value) : readWhole shape text = .ok value := by
  have hreads := reads_readShape_whole shape h
  rw [hvalue] at hreads
  obtain ⟨rest, hread, hrest⟩ := reads_some.1 hreads
  simp only [readWhole, hread, bind, Except.bind, hrest.skipBlank_nil]
  rfl

/-- A text is refused if its document denotes nothing. -/
theorem readWhole_eq_error (h : Writes text tree) (hvalue : decode depthLimit shape tree = none) :
    ∃ refusal, readWhole shape text = .error refusal := by
  have hreads := reads_readShape_whole shape h
  rw [hvalue] at hreads
  obtain ⟨fault, hread⟩ := reads_none.1 hreads
  simp only [readWhole, hread, bind, Except.bind]
  exact ⟨_, rfl⟩

end Whole

end ReturnPaths
