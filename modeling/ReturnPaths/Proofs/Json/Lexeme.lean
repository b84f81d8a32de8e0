import ReturnPaths.Proofs.Json.Document
import Mathlib.Data.List.TakeDrop

/-!
# Reading strings and numbers

The readers of strings and of numbers give what the grammar says a string or a numeral stands for,
and leave what follows it; they fail where it stands for nothing.

* `Reads` : what a reader gives, whether it succeeds or fails.
* `reads_readText`, `skipText_quoted` : strings.
* `Numeral.readNumber_natural`, `Numeral.readNumber_notNatural` : numbers that are looked at, and
  `Numeral.skipNumber_whole` those that are not.
-/

namespace ReturnPaths.Json

/-! ### What a reader gives -/

/-- A reader gives the expected value and leaves a text of some kind, or it fails, if there is no
value to be expected. -/
def Reads {α : Type} (expected : Option α) (Left : List Char → Prop) :
    Except Fault (α × List Char) → Prop
  | .ok (value, rest) => expected = some value ∧ Left rest
  | .error _ => expected = none

section Reads

variable {α β : Type} {expected : Option α} {Left Left' : List Char → Prop}
  {result : Except Fault (α × List Char)}

theorem Reads.bind {next : α → Option β} {read : α × List Char → Except Fault (β × List Char)}
    (h : Reads expected Left result)
    (hnext : ∀ value rest, expected = some value → Left rest →
      Reads (next value) Left' (read (value, rest))) :
    Reads (expected.bind next) Left' (result >>= read) := by
  rcases result with fault | ⟨value, rest⟩
  · rw [show expected = none from h]
    exact rfl
  · obtain ⟨hvalue, hrest⟩ := h
    rw [hvalue]
    exact hnext value rest hvalue hrest

theorem Reads.map (f : α → β) (h : Reads expected Left result) :
    Reads (expected.map f) Left (result.map fun (value, rest) => (f value, rest)) := by
  rcases result with fault | ⟨value, rest⟩
  · rw [show expected = none from h]
    exact rfl
  · obtain ⟨hvalue, hrest⟩ := h
    rw [hvalue]
    exact ⟨rfl, hrest⟩

theorem Reads.imp (hleft : ∀ rest, Left rest → Left' rest) (h : Reads expected Left result) :
    Reads expected Left' result := by
  rcases result with fault | ⟨value, rest⟩
  · exact h
  · exact ⟨h.1, hleft rest h.2⟩

theorem reads_none : Reads (none : Option α) Left result ↔ ∃ fault, result = .error fault := by
  rcases result with fault | ⟨value, rest⟩
  · exact ⟨fun _ => ⟨fault, rfl⟩, fun _ => rfl⟩
  · exact ⟨fun h => absurd h.1 nofun, fun ⟨_, h⟩ => nomatch h⟩

theorem reads_some {value : α} :
    Reads (some value) Left result ↔ ∃ rest, result = .ok (value, rest) ∧ Left rest := by
  rcases result with fault | ⟨value', rest⟩
  · exact ⟨nofun, fun ⟨_, h, _⟩ => nomatch h⟩
  · constructor
    · rintro ⟨hvalue, hrest⟩
      cases hvalue
      exact ⟨rest, rfl, hrest⟩
    · rintro ⟨_, heq, hrest⟩
      cases heq
      exact ⟨rfl, hrest⟩

end Reads

/-! ### Strings -/

theorem shortEscape?_eq {letter c : Char} (h : (letter, c) ∈ shortEscapes) :
    shortEscape? letter = some c ∧ letter ≠ 'u' := by
  simp only [shortEscapes, List.mem_cons, Prod.mk.injEq, List.not_mem_nil, or_false] at h
  rcases h with ⟨rfl, rfl⟩ | ⟨rfl, rfl⟩ | ⟨rfl, rfl⟩ | ⟨rfl, rfl⟩ | ⟨rfl, rfl⟩ | ⟨rfl, rfl⟩ |
    ⟨rfl, rfl⟩ | ⟨rfl, rfl⟩ <;> exact ⟨rfl, by decide⟩

section Strings

variable {rest : List Char}

theorem readTextFrom_plain {c : Char} (read : List Char) (hprintable : 0x20 ≤ c.toNat)
    (hquote : c ≠ '"') (hbackslash : c ≠ '\\') :
    readTextFrom read .plain (c :: rest) = readTextFrom (c :: read) .plain rest := by
  rw [readTextFrom, if_neg hquote, if_neg hbackslash, if_neg (Nat.not_lt.2 hprintable)]

theorem readTextFrom_short {letter c : Char} (read : List Char)
    (h : (letter, c) ∈ shortEscapes) :
    readTextFrom read .plain ('\\' :: letter :: rest) = readTextFrom (c :: read) .plain rest := by
  obtain ⟨hescape, hu⟩ := shortEscape?_eq h
  rw [readTextFrom, if_neg (by decide), if_pos rfl, readTextFrom, if_neg hu, hescape]

/-- Reads on after a unit. -/
def readOn (read rest : List Char) :
    Except Fault (TextState × Option Char) → Except Fault (String × List Char)
  | .ok (state, none) => readTextFrom read state rest
  | .ok (state, some c) => readTextFrom (c :: read) state rest
  | .error fault => .error fault

/-- Four digits complete a unit. -/
theorem readTextFrom_digits (read start : List Char) (high : Option ℕ) (a b c d : HexDigit) :
    readTextFrom read (.digits start 4 0 high) (a.char :: b.char :: c.char :: d.char :: rest) =
      readOn read rest (completeUnit rest (Piece.unitValue a b c d) high) := by
  have hvalue : 16 * (16 * (16 * (16 * 0 + a.value) + b.value) + c.value) + d.value =
      Piece.unitValue a b c d := by
    rw [Piece.unitValue]
    omega
  rw [← hvalue]
  simp only [readTextFrom, a.value_eq, b.value_eq, c.value_eq, d.value_eq, Nat.reduceLeDiff,
    Nat.reduceSub, ↓reduceIte]
  rcases completeUnit rest _ high with fault | ⟨state, _ | unit⟩ <;> rfl

theorem readTextFrom_unit (read : List Char) (a b c d : HexDigit) :
    readTextFrom read .plain ((Piece.unit a b c d).chars ++ rest) =
      readOn read rest (completeUnit rest (Piece.unitValue a b c d) none) := by
  rw [Piece.chars, List.cons_append, readTextFrom, if_neg (by decide), if_pos rfl,
    List.cons_append, readTextFrom, if_pos rfl]
  exact readTextFrom_digits read _ none a b c d

theorem readTextFrom_second (read : List Char) (high : ℕ) (a b c d : HexDigit) :
    readTextFrom read (.pair high) ((Piece.unit a b c d).chars ++ rest) =
      readOn read rest (completeUnit rest (Piece.unitValue a b c d) (some high)) := by
  rw [Piece.chars, List.cons_append, readTextFrom, if_pos rfl, List.cons_append, readTextFrom,
    if_pos rfl]
  exact readTextFrom_digits read _ (some high) a b c d

/-- After the first half of a pair nothing but a unit can follow. -/
theorem readTextFrom_open (read : List Char) (high : ℕ) {pieces : List Piece}
    (hpieces : ∀ a b c d more, pieces ≠ Piece.unit a b c d :: more) :
    ∃ fault, readTextFrom read (.pair high) (pieces.flatMap Piece.chars ++ '"' :: rest) =
      .error fault := by
  rcases pieces with _ | ⟨⟨c, _, _, hbackslash⟩ | ⟨letter, c, hknown⟩ | ⟨a, b, c, d⟩, pieces⟩
  · exact ⟨_, by rw [List.flatMap_nil, List.nil_append, readTextFrom, if_neg (by decide)]⟩
  · exact ⟨_, by
      rw [List.flatMap_cons, Piece.chars, List.append_assoc, List.singleton_append, readTextFrom,
        if_neg hbackslash]⟩
  · obtain ⟨-, hu⟩ := shortEscape?_eq hknown
    exact ⟨_, by
      rw [List.flatMap_cons, Piece.chars, List.append_assoc, List.cons_append, readTextFrom,
        if_pos rfl, List.singleton_append, readTextFrom, if_neg hu]⟩
  · exact absurd rfl (hpieces a b c d pieces)

theorem isLowSurrogate_iff {unit : ℕ} : isLowSurrogate unit ↔ 0xdc00 ≤ unit ∧ unit ≤ 0xdfff := by
  simp [isLowSurrogate]

theorem isHighSurrogate_iff {unit : ℕ} : isHighSurrogate unit ↔ 0xd800 ≤ unit ∧ unit ≤ 0xdbff := by
  simp [isHighSurrogate]

/-! What a unit completes: a character, the first half of a pair, or the second one. -/

theorem completeUnit_char {unit : ℕ} (h : unit < 0xd800 ∨ 0xdfff < unit) :
    completeUnit rest unit none = .ok (.plain, some (Char.ofNat unit)) := by
  rw [completeUnit, if_neg (mt isLowSurrogate_iff.1 (by omega)),
    if_neg (mt isHighSurrogate_iff.1 (by omega))]

theorem completeUnit_first {unit : ℕ} (h : 0xd800 ≤ unit) (h' : unit < 0xdc00) :
    completeUnit rest unit none = .ok (.pair unit, none) := by
  rw [completeUnit, if_neg (mt isLowSurrogate_iff.1 (by omega)),
    if_pos (isHighSurrogate_iff.2 (by omega))]

theorem completeUnit_lone {unit : ℕ} (h : 0xdc00 ≤ unit) (h' : unit ≤ 0xdfff) :
    completeUnit rest unit none = .error (.before rest .loneSurrogate) := by
  rw [completeUnit, if_pos (isLowSurrogate_iff.2 ⟨h, h'⟩)]

theorem completeUnit_second {high unit : ℕ} (h : 0xdc00 ≤ unit ∧ unit ≤ 0xdfff) :
    completeUnit rest unit (some high) = .ok (.plain, some (pairChar high unit)) := by
  rw [completeUnit, if_pos (isLowSurrogate_iff.2 h)]

theorem completeUnit_unpaired {high unit : ℕ} (h : ¬ (0xdc00 ≤ unit ∧ unit ≤ 0xdfff)) :
    completeUnit rest unit (some high) = .error (.before rest .loneSurrogate) := by
  rw [completeUnit, if_neg (mt isLowSurrogate_iff.1 h)]

/-- The reader of strings gives the content of a string. -/
theorem reads_readTextFrom (pieces : List Piece) (read : List Char) :
    Reads ((Piece.contentChars? pieces).map fun content =>
        String.ofList (read.reverse ++ content)) (· = rest)
      (readTextFrom read .plain (pieces.flatMap Piece.chars ++ '"' :: rest)) := by
  fun_induction Piece.contentChars? pieces generalizing read with
  | case1 =>
    rw [List.flatMap_nil, List.nil_append, readTextFrom, if_pos rfl]
    exact ⟨by simp, rfl⟩
  | case2 c hprintable hquote hbackslash pieces ih =>
    rw [List.flatMap_cons, Piece.chars, List.append_assoc, List.singleton_append,
      readTextFrom_plain read hprintable hquote hbackslash]
    simpa [Function.comp_def] using ih (c :: read)
  | case3 letter c hknown pieces ih =>
    rw [List.flatMap_cons, Piece.chars, List.append_assoc, List.cons_append,
      List.singleton_append, readTextFrom_short read hknown]
    simpa [Function.comp_def] using ih (c :: read)
  -- a unit that is no half of a pair
  | case4 a b c d pieces hunit ih =>
    rw [List.flatMap_cons, List.append_assoc, readTextFrom_unit, completeUnit_char hunit]
    simpa [Function.comp_def, readOn] using ih (Char.ofNat (Piece.unitValue a b c d) :: read)
  -- a pair
  | case5 a b c d hunit a' b' c' d' pieces hpair ih =>
    obtain ⟨hfirst, hsecond⟩ := hpair
    rw [List.flatMap_cons, List.append_assoc, readTextFrom_unit,
      completeUnit_first (by omega) hfirst, readOn, List.flatMap_cons, List.append_assoc,
      readTextFrom_second, completeUnit_second hsecond]
    simpa only [Option.map_map, Function.comp_def, List.reverse_cons, List.append_assoc,
      List.singleton_append, readOn, pairChar] using ih (pairChar _ _ :: read)
  -- half of a pair in front of another unit
  | case6 a b c d hunit a' b' c' d' pieces hpair =>
    rw [List.flatMap_cons, List.append_assoc, readTextFrom_unit]
    by_cases hfirst : Piece.unitValue a b c d < 0xdc00
    · have hsecond := fun h => hpair ⟨hfirst, h⟩
      rw [completeUnit_first (by omega) hfirst, readOn, List.flatMap_cons, List.append_assoc,
        readTextFrom_second, completeUnit_unpaired hsecond]
      exact rfl
    · rw [completeUnit_lone (by omega) (by omega)]
      exact rfl
  -- half of a pair in front of anything else
  | case7 a b c d pieces hunit hpieces =>
    rw [List.flatMap_cons, List.append_assoc, readTextFrom_unit]
    by_cases hfirst : Piece.unitValue a b c d < 0xdc00
    · have hopen : ∃ fault, readTextFrom read (.pair (Piece.unitValue a b c d))
          (pieces.flatMap Piece.chars ++ '"' :: rest) = .error fault :=
        readTextFrom_open read _ fun a' b' c' d' more h => hpieces a' b' c' d' more h
      obtain ⟨fault, hfault⟩ := hopen
      rw [completeUnit_first (by omega) hfirst, readOn, hfault]
      exact rfl
    · rw [completeUnit_lone (by omega) (by omega)]
      exact rfl

/-- The reader of strings gives the content of a string, or fails if it has none. -/
theorem reads_readText (pieces : List Piece) :
    Reads (Piece.content? pieces) (· = rest)
      (readText (pieces.flatMap Piece.chars ++ '"' :: rest)) :=
  reads_readTextFrom pieces []

/-- A string that is not looked at is passed over, whether it has a content or not. -/
theorem skipText_quoted (pieces : List Piece) :
    skipText (pieces.flatMap Piece.chars ++ '"' :: rest) = .ok rest := by
  rw [skipText]
  induction pieces with
  | nil => simp [skipTextFrom]
  | cons piece pieces ih =>
    rw [List.flatMap_cons, List.append_assoc]
    cases piece with
    | plain c hprintable hquote hbackslash =>
      simpa [Piece.chars, skipTextFrom, hquote, hbackslash, Nat.not_lt.2 hprintable] using ih
    | short letter c hknown =>
      obtain ⟨hescape, hu⟩ := shortEscape?_eq hknown
      simpa [Piece.chars, skipTextFrom, hescape, hu] using ih
    | unit a b c d =>
      simpa [Piece.chars, skipTextFrom, a.value_eq, b.value_eq, c.value_eq, d.value_eq] using ih

end Strings

/-! ### Numbers -/

theorem ne_of_isDigit {c d : Char} (hc : c.isDigit = true) (hd : d.isDigit = false) : c ≠ d := by
  rintro rfl
  rw [hd] at hc
  cases hc

theorem cons_ne_of_isDigit {c d : Char} {cs ds : List Char} (hc : c.isDigit = true)
    (hd : d.isDigit = false) : c :: cs ≠ d :: ds :=
  fun h => ne_of_isDigit hc hd (List.cons.inj h).1

/-- A text does not go on with a number. -/
def Ends (rest : List Char) : Prop :=
  ∀ c ∈ rest.head?, c.isDigit = false ∧ c ≠ '.' ∧ c ≠ 'e' ∧ c ≠ 'E'

theorem takeDigits_append {digits rest : List Char} (hdigits : IsDigits digits)
    (hrest : ∀ c ∈ rest.head?, c.isDigit = false) :
    takeDigits (digits ++ rest) = (digits, rest) := by
  rw [takeDigits, List.span_eq_takeWhile_dropWhile, List.takeWhile_append_of_pos hdigits.digits,
    List.dropWhile_append_of_pos hdigits.digits]
  cases rest with
  | nil => simp
  | cons c rest =>
    have hc : c.isDigit = false := hrest c rfl
    simp [hc]

theorem le_ofDigitChars (digits : List Char) (value : ℕ) :
    value ≤ Nat.ofDigitChars 10 digits value := by
  have hpow : 1 ≤ 10 ^ digits.length := Nat.one_le_pow _ _ (by decide)
  calc value ≤ 10 ^ digits.length * value := Nat.le_mul_of_pos_left _ hpow
    _ ≤ 10 ^ digits.length * value + Nat.ofDigitChars 10 digits 0 := Nat.le_add_right _ _
    _ = Nat.ofDigitChars 10 digits value := Nat.ofDigitChars_eq_ofDigitChars_zero.symm

/-- All digits are appended to a number, if what they write in the end is below the limit. -/
theorem absorb_of_lt {limit value : ℕ} {digits : List Char}
    (h : Nat.ofDigitChars 10 digits value < limit) :
    absorb limit value digits = (Nat.ofDigitChars 10 digits value, []) := by
  induction digits generalizing value with
  | nil => rw [absorb, Nat.ofDigitChars_nil]
  | cons c digits ih =>
    rw [Nat.ofDigitChars_cons] at h ⊢
    have hnext : 10 * value + Text.digitValue c < limit :=
      Nat.lt_of_le_of_lt (le_ofDigitChars digits _) h
    rw [absorb, if_pos hnext]
    exact ih h

/-- Else some digits are left over. -/
theorem absorb_of_le {limit value : ℕ} {digits : List Char} (hvalue : value < limit)
    (h : limit ≤ Nat.ofDigitChars 10 digits value) : (absorb limit value digits).2 ≠ [] := by
  induction digits generalizing value with
  | nil =>
    rw [Nat.ofDigitChars_nil] at h
    omega
  | cons c digits ih =>
    rw [Nat.ofDigitChars_cons] at h
    rw [absorb]
    by_cases hnext : 10 * value + Text.digitValue c < limit
    · rw [if_pos hnext]
      exact ih hnext h
    · rw [if_neg hnext]
      exact List.cons_ne_nil c digits

/-- The result of reading a number that is not natural. -/
def NotNatural (result : Except Fault (Number × List Char)) : Prop :=
  ∀ n rest, result ≠ .ok (.natural n, rest)

theorem floatOf_notNatural (positive : Bool) (digits : ℕ) (exponent : Int) (rest : List Char) :
    NotNatural (floatOf positive digits exponent rest) := by
  intro n rest'
  rw [floatOf]
  split <;> simp

theorem readExponent_notNatural (positive : Bool) (digits : ℕ) (shift : Int) (text : List Char) :
    NotNatural (readExponent positive digits shift text) := by
  intro n rest
  unfold readExponent
  split
  split
  · simp
  · simp
  · split
    · exact floatOf_notNatural _ _ _ _ n rest
    · split <;> simp

theorem readFraction_notNatural (positive : Bool) (digits : ℕ) (shift : Int) (text : List Char) :
    NotNatural (readFraction positive digits shift text) := by
  intro n rest
  unfold readFraction
  split
  · simp
  · simp
  · split
    split
    · exact readExponent_notNatural _ _ _ _ n rest
    · exact readExponent_notNatural _ _ _ _ n rest
    · exact floatOf_notNatural _ _ _ _ n rest

/-- A number after a minus is not natural. -/
theorem readNumber_negative (text : List Char) : NotNatural (readNumber false text) := by
  intro n rest
  unfold readNumber
  split
  · simp
  · simp
  · simp
  · split
    split
    · exact readFraction_notNatural _ _ _ _ n rest
    · exact readExponent_notNatural _ _ _ _ n rest
    · exact readExponent_notNatural _ _ _ _ n rest
    · split_ifs with _ hpositive
      · exact floatOf_notNatural _ _ _ _ n rest
      · exact hpositive.elim
      · simp
      · exact floatOf_notNatural _ _ _ _ n rest

theorem Exponent.isDigit_mark (exponent : Exponent) : exponent.mark.isDigit = false := by
  rcases exponent.mark_eq with hmark | hmark <;> rw [hmark] <;> rfl

/-- The sign of an exponent is passed over, since what is left without it starts with a digit. -/
theorem skipExponent_sign (exponent : Exponent) (rest : List Char) :
    skipExponent (exponent.sign ++ (exponent.digits ++ rest)) =
      match takeDigits (exponent.digits ++ rest) with
      | ([], rest) => .error (.here rest .invalidNumber)
      | (_, rest) => .ok rest := by
  obtain ⟨c, digits, hcons⟩ := List.exists_cons_of_ne_nil exponent.isDigits.ne_nil
  have hc : c.isDigit = true := exponent.isDigits.digits c (by simp [hcons])
  rcases exponent.sign_eq with hsign | hsign | hsign
  · rw [hsign, List.nil_append, hcons, List.cons_append]
    unfold skipExponent
    split
    next heq => exact absurd heq (cons_ne_of_isDigit hc rfl)
    next heq => exact absurd heq (cons_ne_of_isDigit hc rfl)
    next => rfl
  · rw [hsign]
    rfl
  · rw [hsign]
    rfl

theorem skipExponent_eq (exponent : Exponent) {rest : List Char} (hrest : Ends rest) :
    skipExponent (exponent.sign ++ (exponent.digits ++ rest)) = .ok rest := by
  have hdigits : takeDigits (exponent.digits ++ rest) = (exponent.digits, rest) :=
    takeDigits_append exponent.isDigits fun c hc => (hrest c hc).1
  obtain ⟨c, digits, hcons⟩ := List.exists_cons_of_ne_nil exponent.isDigits.ne_nil
  rw [skipExponent_sign, hdigits, hcons]

namespace Numeral

variable (numeral : Numeral) {rest : List Char}

/-- What may follow the digits before the point: nothing, an exponent, or a point and digits and
perhaps an exponent. -/
theorem tail_cases : numeral.tail = [] ∨ (∃ exponent : Exponent, numeral.tail = exponent.chars) ∨
    ∃ digits more, IsDigits digits ∧ numeral.tail = '.' :: (digits ++ more) ∧
      (more = [] ∨ ∃ exponent : Exponent, more = exponent.chars) := by
  rw [tail]
  rcases hfraction : numeral.fraction with _ | digits
  · rcases numeral.exponent with _ | exponent
    · exact .inl rfl
    · exact .inr (.inl ⟨exponent, rfl⟩)
  · have hdigits := numeral.fraction_isDigits digits hfraction
    rcases numeral.exponent with _ | exponent
    · exact .inr (.inr ⟨digits, [], hdigits, rfl, .inl rfl⟩)
    · exact .inr (.inr ⟨digits, exponent.chars, hdigits, rfl, .inr ⟨exponent, rfl⟩⟩)

/-- The digits before the point are taken as far as they go. -/
theorem takeDigits_whole (hrest : Ends rest) :
    takeDigits (numeral.whole ++ (numeral.tail ++ rest)) =
      (numeral.whole, numeral.tail ++ rest) := by
  refine takeDigits_append numeral.whole_isDigits fun c hc => ?_
  rcases numeral.tail_cases with htail | ⟨exponent, htail⟩ | ⟨digits, more, -, htail, -⟩
  · rw [htail] at hc
    exact (hrest c hc).1
  · rw [htail] at hc
    cases hc
    exact exponent.isDigit_mark
  · rw [htail] at hc
    cases hc
    rfl

/-- After the digits before the point it depends on the next character how a number is read. -/
theorem readNumber_eq (hrest : Ends rest) :
    readNumber true (numeral.whole ++ (numeral.tail ++ rest)) =
      match numeral.tail ++ rest with
      | '.' :: more =>
        readFraction true (absorb wordLimit 0 numeral.whole).1
          (absorb wordLimit 0 numeral.whole).2.length more
      | 'e' :: more | 'E' :: more =>
        readExponent true (absorb wordLimit 0 numeral.whole).1
          (absorb wordLimit 0 numeral.whole).2.length more
      | more =>
        if (absorb wordLimit 0 numeral.whole).2 ≠ [] then
          floatOf true (absorb wordLimit 0 numeral.whole).1
            (absorb wordLimit 0 numeral.whole).2.length more
        else .ok (.natural (absorb wordLimit 0 numeral.whole).1, more) := by
  rw [readNumber, numeral.takeDigits_whole hrest]
  split
  · rename_i heq
    exact absurd (Prod.mk.inj heq).1 numeral.whole_isDigits.ne_nil
  · rename_i heq
    exact absurd (Prod.mk.inj heq).1 numeral.whole_isDigits.ne_nil
  · rename_i heq
    exact absurd (numeral.no_leading_zero _ (Prod.mk.inj heq).1) (List.cons_ne_nil _ _)
  · rename_i whole more _ _ _ heq
    obtain ⟨rfl, rfl⟩ := Prod.mk.inj heq
    generalize numeral.tail ++ rest = following
    rfl

/-- A numeral in plain decimal ends with the digits before the point. -/
theorem natural?_eq_some {n : ℕ} : numeral.natural? = some n ↔
    numeral.negative = false ∧ numeral.tail = [] ∧ Nat.ofDigitChars 10 numeral.whole 0 = n := by
  have hmark (exponent : Exponent) : exponent.chars ≠ [] := by simp [Exponent.chars]
  rw [natural?, tail]
  rcases numeral.negative with _ | _ <;> rcases numeral.fraction with _ | digits <;>
    rcases numeral.exponent with _ | exponent <;> simp [hmark]

/-- A numeral in plain decimal is read as its value, if this fits 64 bits. -/
theorem readNumber_natural {n : ℕ} (hrest : Ends rest) (hn : numeral.natural? = some n)
    (hlimit : n < wordLimit) :
    readNumber true (numeral.whole ++ (numeral.tail ++ rest)) = .ok (.natural n, rest) := by
  obtain ⟨-, htail, rfl⟩ := numeral.natural?_eq_some.1 hn
  rw [readNumber_eq numeral hrest, absorb_of_lt hlimit, htail, List.nil_append]
  split
  · exact absurd rfl (hrest _ rfl).2.1
  · exact absurd rfl (hrest _ rfl).2.2.1
  · exact absurd rfl (hrest _ rfl).2.2.2
  · rfl

/-- No other numeral is read as a natural number. -/
theorem readNumber_notNatural (hrest : Ends rest)
    (hn : ∀ n, numeral.natural? = some n → wordLimit ≤ n) (hpositive : numeral.negative = false) :
    NotNatural (readNumber true (numeral.whole ++ (numeral.tail ++ rest))) := by
  intro m more
  rw [readNumber_eq numeral hrest]
  split
  · exact readFraction_notNatural _ _ _ _ m more
  · exact readExponent_notNatural _ _ _ _ m more
  · exact readExponent_notNatural _ _ _ _ m more
  · rename_i hpoint hsmall hcapital
    have htail : numeral.tail = [] := by
      rcases numeral.tail_cases with htail | ⟨exponent, htail⟩ | ⟨digits, after, -, htail, -⟩
      · exact htail
      · rw [htail, Exponent.chars] at hsmall hcapital
        rcases exponent.mark_eq with hmark | hmark
        · exact (hsmall _ (by rw [hmark]; rfl)).elim
        · exact (hcapital _ (by rw [hmark]; rfl)).elim
      · exact (hpoint _ (by rw [htail]; rfl)).elim
    have hle := hn _ (numeral.natural?_eq_some.2 ⟨hpositive, htail, rfl⟩)
    rw [if_pos (absorb_of_le (by decide) hle)]
    exact floatOf_notNatural _ _ _ _ m more

theorem skipAfterWhole_exponent (exponent : Exponent) (hrest : Ends rest) :
    skipAfterWhole (exponent.chars ++ rest) = .ok rest := by
  rw [Exponent.chars, List.cons_append, List.append_assoc]
  rcases exponent.mark_eq with hmark | hmark <;> rw [hmark, skipAfterWhole] <;>
    exact skipExponent_eq exponent hrest

theorem skipAfterWhole_tail (hrest : Ends rest) :
    skipAfterWhole (numeral.tail ++ rest) = .ok rest := by
  rcases numeral.tail_cases with htail | ⟨exponent, htail⟩ | ⟨digits, more, hdigits, htail, hmore⟩
  · rw [htail, List.nil_append]
    unfold skipAfterWhole
    split
    · exact absurd rfl (hrest _ rfl).2.2.1
    · exact absurd rfl (hrest _ rfl).2.2.2
    · exact absurd rfl (hrest _ rfl).2.1
    · rfl
  · rw [htail]
    exact skipAfterWhole_exponent exponent hrest
  · obtain ⟨c, others, hcons⟩ := List.exists_cons_of_ne_nil hdigits.ne_nil
    rw [htail, List.cons_append, List.append_assoc, skipAfterWhole]
    rcases hmore with rfl | ⟨exponent, rfl⟩
    · rw [List.nil_append, takeDigits_append hdigits fun c hc => (hrest c hc).1, hcons]
      split
      · rename_i heq
        cases heq
      · rename_i heq
        exact absurd rfl (hrest _ (by rw [(Prod.mk.inj heq).2]; rfl)).2.2.1
      · rename_i heq
        exact absurd rfl (hrest _ (by rw [(Prod.mk.inj heq).2]; rfl)).2.2.2
      · rename_i heq
        rw [(Prod.mk.inj heq).2]
    · have hmark : ∀ x ∈ (exponent.chars ++ rest).head?, x.isDigit = false := by
        rintro x ⟨⟩
        exact exponent.isDigit_mark
      rw [takeDigits_append hdigits hmark, hcons, Exponent.chars, List.cons_append,
        List.append_assoc]
      rcases exponent.mark_eq with hmark | hmark <;> rw [hmark] <;>
        exact skipExponent_eq exponent hrest

/-- A number that is not looked at is passed over. -/
theorem skipNumber_whole (hrest : Ends rest) :
    skipNumber (numeral.whole ++ (numeral.tail ++ rest)) = .ok rest := by
  rw [skipNumber, numeral.takeDigits_whole hrest]
  split
  · rename_i heq
    exact absurd (Prod.mk.inj heq).1 numeral.whole_isDigits.ne_nil
  · rename_i heq
    exact absurd (numeral.no_leading_zero _ (Prod.mk.inj heq).1) (List.cons_ne_nil _ _)
  · rename_i heq
    rw [← (Prod.mk.inj heq).2]
    exact numeral.skipAfterWhole_tail hrest

end Numeral

end ReturnPaths.Json
