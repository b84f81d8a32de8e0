import ReturnPaths.Proofs.Report.Lines
import Mathlib.Data.List.Infix

/-!
# Reading annotations back

A workflow command is read from left to right: its name up to the first blank, its properties up to
the next two colons, with commas between them, and its message.  Codes in the message and in the
values of properties stand for characters that would end them.  Of these the report writes only the
codes of messages, so a message is always read back, and a property only if nothing in it looks like
the end of it or like a code.

* `unescape`, `cutAt`, `value?` : codes, marks and properties.
* `readCommand`, `readReport` : what is read from a command, and from all lines of a report.
* `Plain` : the check and the file of an issue stand for themselves.
* `readCommand_iff` : these issues, and no others, are read back.
* `readCommand_comma` : an issue that is not read back, and two different reports
  with the same text.
-/

namespace ReturnPaths

namespace Report

/-! ### Codes -/

/-- Codes: two characters that stand for another one after a percent sign. -/
abbrev Codes := List ((Char × Char) × Char)

/-- The codes of messages. -/
def messageCodes : Codes :=
  [(('2', '5'), '%'), (('0', 'D'), '\r'), (('0', 'A'), '\n')]

/-- The codes of properties. -/
def propertyCodes : Codes :=
  messageCodes ++ [(('3', 'A'), ':'), (('2', 'C'), ',')]

/-- A text with the characters that its codes stand for. -/
def unescape (codes : Codes) : List Char → List Char
  | [] => []
  | '%' :: a :: b :: text =>
    match codes.lookup (a, b) with
    | some c => c :: unescape codes text
    | none => '%' :: unescape codes (a :: b :: text)
  | c :: text => c :: unescape codes text

/-- No code occurs in a text. -/
def Uncoded (codes : Codes) (text : List Char) : Prop :=
  ∀ code ∈ codes, ¬ ['%', code.1.1, code.1.2] <:+: text

instance (codes : Codes) (text : List Char) : Decidable (Uncoded codes text) :=
  List.decidableBAll _ codes

section Codes

variable {codes : Codes}

theorem unescape_code {a b c : Char} (h : codes.lookup (a, b) = some c) (text : List Char) :
    unescape codes ('%' :: a :: b :: text) = c :: unescape codes text := by
  rw [unescape, h]

theorem unescape_cons {c : Char} (h : c ≠ '%') (text : List Char) :
    unescape codes (c :: text) = c :: unescape codes text := by
  rw [unescape.eq_def]
  split <;> simp_all

theorem length_unescape_le (codes : Codes) (text : List Char) :
    (unescape codes text).length ≤ text.length := by
  fun_induction unescape codes text with
  | case1 => exact Nat.le_refl _
  | case2 => simp only [List.length_cons]; omega
  | case3 => simp only [List.length_cons] at *; omega
  | case4 => simp only [List.length_cons]; omega

theorem uncoded_cons_iff {c : Char} {text : List Char} :
    Uncoded codes (c :: text) ↔
      (∀ code ∈ codes, ¬ ['%', code.1.1, code.1.2] <+: c :: text) ∧ Uncoded codes text := by
  simp only [Uncoded, List.infix_cons_iff, not_or, forall_and]

theorem uncoded_of_not_mem {text : List Char} (h : '%' ∉ text) : Uncoded codes text :=
  fun _ _ hcode => h (hcode.subset List.mem_cons_self)

/-- A text stands for itself if and only if no code occurs in it, since a code is longer than what
it stands for. -/
theorem unescape_eq_self {text : List Char} :
    unescape codes text = text ↔ Uncoded codes text := by
  fun_induction unescape codes text with
  | case1 => simp [Uncoded]
  | case2 a b text c hlookup ih =>
    constructor
    · intro heq
      have hlength := congrArg List.length heq
      have hle := length_unescape_le codes text
      simp only [List.length_cons] at hlength
      omega
    · intro h
      obtain ⟨before, after, rfl, -⟩ := List.lookup_eq_some_iff.1 hlookup
      exact absurd ⟨[], text, rfl⟩ (h ((a, b), c) (by simp))
  | case3 a b text hlookup ih =>
    rw [List.cons.injEq, ih, uncoded_cons_iff (c := '%')]
    simp only [true_and, iff_and_self]
    rintro - code hcode hprefix
    have hne := List.lookup_eq_none_iff.1 hlookup code hcode
    simp only [List.cons_prefix_cons, List.nil_prefix, and_true, true_and] at hprefix
    rw [← hprefix.1, ← hprefix.2] at hne
    simp at hne
  | case4 c text hcode ih =>
    rw [List.cons.injEq, ih, uncoded_cons_iff (c := c)]
    simp only [true_and, iff_and_self]
    rintro - code - ⟨after, hafter⟩
    simp only [List.cons_append, List.nil_append, List.cons.injEq] at hafter
    exact hcode _ _ _ hafter.1.symm hafter.2.symm

end Codes

/-- What is written for a message stands for it. -/
theorem unescape_escape (message : List Char) :
    unescape messageCodes (message.flatMap escapeChar) = message := by
  induction message with
  | nil => rfl
  | cons c message ih =>
    rw [List.flatMap_cons]
    unfold escapeChar
    split
    · exact (unescape_code rfl _).trans (congrArg _ ih)
    · exact (unescape_code rfl _).trans (congrArg _ ih)
    · exact (unescape_code rfl _).trans (congrArg _ ih)
    · rename_i hpercent _ _
      exact (unescape_cons hpercent _).trans (congrArg _ ih)

/-! ### Marks -/

/-- What comes before the first place where a mark stands in a text, and what comes after it. -/
def cutAt (mark : List Char) : List Char → Option (List Char × List Char)
  | [] => none
  | c :: text =>
    if mark.isPrefixOf (c :: text) then some ([], (c :: text).drop mark.length)
    else (cutAt mark text).map fun (before, after) => (c :: before, after)

section Marks

variable {mark before after : List Char}

/-- What is at the beginning of a text, and ends before the end of a mark in it, is there without
the last character of the mark as well. -/
theorem prefix_append_dropLast {start : List Char} (h : start <+: before ++ (mark ++ after))
    (hlt : start.length < before.length + mark.length) : start <+: before ++ mark.dropLast := by
  have hpart : before ++ mark.dropLast <+: before ++ (mark ++ after) :=
    List.prefix_append_right_inj _ |>.2
      ((List.dropLast_prefix mark).trans (List.prefix_append mark after))
  refine List.prefix_of_prefix_length_le h hpart ?_
  rw [List.length_append, List.length_dropLast]
  omega

theorem not_infix_dropLast (hmark : mark ≠ []) : ¬ mark <:+: mark.dropLast := by
  intro h
  have hle := h.length_le
  have hpos := List.length_pos_of_ne_nil hmark
  rw [List.length_dropLast] at hle
  omega

theorem cutAt_cons_eq_some {c d : Char} {text : List Char} (h : ¬ mark <+: c :: text) :
    cutAt mark (c :: text) = some (d :: before, after) ↔
      c = d ∧ cutAt mark text = some (before, after) := by
  rw [cutAt, if_neg (by rwa [List.isPrefixOf_iff_prefix])]
  cases cutAt mark text with
  | none => simp
  | some pair => simp [Prod.ext_iff, and_assoc]

/-- A text is cut where the mark stands for the first time: it does not stand earlier, not even in
part before this place. -/
theorem cutAt_eq_some (hmark : mark ≠ []) {text : List Char} :
    cutAt mark text = some (before, after) ↔
      text = before ++ (mark ++ after) ∧ ¬ mark <:+: before ++ mark.dropLast := by
  induction text generalizing before with
  | nil => simp [cutAt, hmark]
  | cons c text ih =>
    by_cases hprefix : mark <+: c :: text
    · obtain ⟨rest, hrest⟩ := hprefix
      have hcut : cutAt mark (c :: text) = some ([], rest) := by
        rw [cutAt, if_pos (List.isPrefixOf_iff_prefix.2 ⟨rest, hrest⟩), ← hrest, List.drop_left]
      rw [hcut, ← hrest]
      constructor
      · intro h
        obtain ⟨rfl, rfl⟩ := Prod.mk.inj (Option.some.inj h)
        exact ⟨rfl, not_infix_dropLast hmark⟩
      · rintro ⟨heq, hnot⟩
        cases before with
        | nil => rw [List.append_cancel_left heq]
        | cons d before =>
          -- the mark stands at the very beginning of what comes before it
          refine absurd (List.IsPrefix.isInfix ?_) hnot
          exact prefix_append_dropLast ⟨rest, heq⟩ (by rw [List.length_cons]; omega)
    · cases before with
      | nil =>
        refine iff_of_false ?_ fun h => hprefix ⟨after, h.1.symm⟩
        simp [cutAt, hprefix]
      | cons d before =>
        rw [cutAt_cons_eq_some hprefix]
        simp only [ih, List.cons_append, List.cons.injEq, List.infix_cons_iff, not_or]
        constructor
        · rintro ⟨rfl, rfl, hnot⟩
          refine ⟨⟨rfl, rfl⟩, fun hpart => hprefix (hpart.trans ?_), hnot⟩
          rw [List.cons_prefix_cons, List.prefix_append_right_inj]
          exact ⟨rfl, (List.dropLast_prefix mark).trans (List.prefix_append mark after)⟩
        · rintro ⟨⟨rfl, rfl⟩, -, hnot⟩
          exact ⟨rfl, rfl, hnot⟩

/-- A text is not cut behind a place where the mark stands. -/
theorem prefix_of_cutAt {first rest : List Char} (hmark : mark ≠ [])
    (h : cutAt mark (before ++ (mark ++ after)) = some (first, rest)) : first <+: before := by
  obtain ⟨heq, hnot⟩ := (cutAt_eq_some hmark).1 h
  have hfirst : first <+: before ++ (mark ++ after) := ⟨_, heq.symm⟩
  refine List.prefix_of_prefix_length_le hfirst (List.prefix_append _ _) ?_
  by_contra hlt
  have hmarked : before ++ mark <+: first ++ (mark ++ rest) := by
    rw [← heq, ← List.append_assoc]
    exact List.prefix_append _ _
  have hpart : before ++ mark <+: first ++ mark.dropLast :=
    prefix_append_dropLast hmarked (by rw [List.length_append]; omega)
  exact hnot ((List.suffix_append before mark).isInfix.trans hpart.isInfix)

end Marks

theorem singleton_infix {c : Char} {text : List Char} : [c] <:+: text ↔ c ∈ text := by
  constructor
  · intro h
    exact h.subset List.mem_cons_self
  · intro h
    obtain ⟨before, after, rfl⟩ := List.append_of_mem h
    exact ⟨before, after, by simp⟩

theorem cutAt_char {c : Char} {before : List Char} (h : c ∉ before) (after : List Char) :
    cutAt [c] (before ++ c :: after) = some (before, after) := by
  refine (cutAt_eq_some (List.cons_ne_nil c [])).2 ⟨rfl, ?_⟩
  rw [List.dropLast_singleton, List.append_nil, singleton_infix]
  exact h

theorem cutAt_char_none {c : Char} {text : List Char} (h : c ∉ text) : cutAt [c] text = none := by
  rw [Option.eq_none_iff_forall_ne_some]
  rintro ⟨before, after⟩ hcut
  rw [((cutAt_eq_some (List.cons_ne_nil c [])).1 hcut).1] at h
  simp at h

/-! ### Properties -/

/-- The value that a property has in the properties of a command. -/
def value? (name : List Char) (text : List Char) : Option (List Char) :=
  ((text.splitOn ',').filterMap (cutAt ['='])).lookup name

theorem value?_cons {property : List Char} (h : ',' ∉ property) (name text : List Char) :
    value? name (property ++ ',' :: text) = (value? name property).or (value? name text) := by
  simp only [value?, List.splitOn_append_cons_self_of_not_mem h, List.splitOn_eq_singleton h,
    List.filterMap_cons, List.filterMap_nil]
  cases cutAt ['='] property with
  | none => rfl
  | some pair =>
    obtain ⟨key, value⟩ := pair
    simp only [List.lookup_cons, List.lookup_nil]
    split <;> rfl

/-- The name of a property can be told from its value. -/
structure IsKey (key : List Char) : Prop where
  /-- It is not split. -/
  comma : ',' ∉ key
  /-- It ends at the sign of equality. -/
  equals : '=' ∉ key

theorem IsKey.value?_property {key value : List Char} (hkey : IsKey key) (hvalue : ',' ∉ value)
    (name : List Char) :
    value? name (key ++ '=' :: value) = if name = key then some value else none := by
  have hcomma : ',' ∉ key ++ '=' :: value := by simp [hkey.comma, hvalue]
  simp only [value?, List.splitOn_eq_singleton hcomma, List.filterMap_cons, List.filterMap_nil,
    cutAt_char hkey.equals, List.lookup_cons, List.lookup_nil]
  split <;> simp_all

theorem IsKey.value?_properties {key value : List Char} (hkey : IsKey key) (hvalue : ',' ∉ value)
    (name text : List Char) : value? name (key ++ '=' :: (value ++ ',' :: text)) =
      if name = key then some value else value? name text := by
  have hcomma : ',' ∉ key ++ '=' :: value := by simp [hkey.comma, hvalue]
  have hcons := value?_cons hcomma name text
  rw [List.append_assoc, List.cons_append] at hcons
  rw [hcons, hkey.value?_property hvalue]
  split <;> rfl

/-- The first properties of a command, when it is cut somewhere: the first of them is lost, or it is
the last one, or others come after it. -/
theorem IsKey.value?_of_prefix {key rest text : List Char} (hkey : IsKey key)
    (h : text <+: key ++ '=' :: rest) :
    (∀ name, value? name text = none) ∨
      ∃ value, ',' ∉ value ∧
        ((text = key ++ '=' :: value ∧ value <+: rest ∧
            ∀ name, value? name text = if name = key then some value else none) ∨
          ∃ more, text = key ++ '=' :: (value ++ ',' :: more) ∧ value ++ ',' :: more <+: rest ∧
            ∀ name, value? name text = if name = key then some value else value? name more) := by
  obtain ⟨rest', heq⟩ := h
  obtain ⟨tail, hkeyeq, -⟩ | ⟨tail, rfl, htail⟩ := List.append_eq_append_iff.1 heq
  · -- the text is not longer than the name
    refine .inl fun name => ?_
    have hcomma : ',' ∉ text := fun hmem => hkey.comma (by simp [hkeyeq, hmem])
    have hequals : '=' ∉ text := fun hmem => hkey.equals (by simp [hkeyeq, hmem])
    simp [value?, List.splitOn_eq_singleton hcomma, cutAt_char_none hequals]
  · cases tail with
    | nil =>
      refine .inl fun name => ?_
      simp [value?, List.splitOn_eq_singleton hkey.comma, cutAt_char_none hkey.equals]
    | cons c tail =>
      rw [List.cons_append, List.cons.injEq] at htail
      obtain ⟨rfl, rfl⟩ := htail
      right
      by_cases hcomma : ',' ∈ tail
      · obtain ⟨value, more, rfl, hvalue⟩ := List.eq_append_cons_of_mem hcomma
        exact ⟨value, hvalue, .inr ⟨more, rfl, List.prefix_append _ _, fun name =>
          hkey.value?_properties hvalue name more⟩⟩
      · exact ⟨tail, hcomma, .inl ⟨rfl, List.prefix_append _ _, fun name =>
          hkey.value?_property hcomma name⟩⟩

/-- A value that is read for the first property has no comma, and the properties start with it. -/
theorem IsKey.prefix_of_value? {key rest text value : List Char} (hkey : IsKey key)
    (h : text <+: key ++ '=' :: rest) (hvalue : value? key text = some value) :
    ',' ∉ value ∧ key ++ '=' :: value <+: text := by
  obtain hnone | ⟨value', hcomma, ⟨rfl, -, hval⟩ | ⟨more, rfl, -, hval⟩⟩ := hkey.value?_of_prefix h
  · rw [hnone] at hvalue
    cases hvalue
  · rw [hval, if_pos rfl] at hvalue
    obtain rfl := Option.some.inj hvalue
    exact ⟨hcomma, List.prefix_rfl⟩
  · rw [hval, if_pos rfl] at hvalue
    obtain rfl := Option.some.inj hvalue
    exact ⟨hcomma, by simp [List.prefix_append_right_inj]⟩

/-- A value that is read for another property stands behind the first one. -/
theorem IsKey.tail_of_value? {key value rest text : List Char} (hkey : IsKey key)
    (hvalue : ',' ∉ value) (h : text <+: key ++ '=' :: (value ++ ',' :: rest)) {name : List Char}
    (hname : name ≠ key) {found : List Char} (hfound : value? name text = some found) :
    ∃ more, text = key ++ '=' :: (value ++ ',' :: more) ∧ more <+: rest ∧
      value? name more = some found := by
  obtain hnone | ⟨value', hcomma, ⟨rfl, -, hval⟩ | ⟨more, rfl, ⟨rest', heq⟩, hval⟩⟩ :=
    hkey.value?_of_prefix h
  · rw [hnone] at hfound
    cases hfound
  · rw [hval, if_neg hname] at hfound
    cases hfound
  · rw [hval, if_neg hname] at hfound
    have hsplit := congrArg (List.splitOn ',') heq
    rw [List.append_assoc, List.cons_append, List.splitOn_append_cons_self_of_not_mem hcomma,
      List.splitOn_append_cons_self_of_not_mem hvalue] at hsplit
    obtain rfl := (List.cons.inj hsplit).1
    refine ⟨more, rfl, ⟨rest', ?_⟩, hfound⟩
    simpa using heq

/-- A value that is not shorter than the written one is the written one: it ends at the comma. -/
theorem eq_of_prefix_cons {value written rest : List Char} (hcomma : ',' ∉ value)
    (h : value <+: written ++ ',' :: rest) (hle : written.length ≤ value.length) :
    value = written := by
  obtain ⟨more, rfl⟩ := List.prefix_of_prefix_length_le (List.prefix_append written _) h hle
  cases more with
  | nil => exact List.append_nil written
  | cons c more =>
    rw [List.prefix_append_right_inj, List.cons_prefix_cons] at h
    rw [h.1] at hcomma
    simp at hcomma

/-! ### Two colons -/

theorem colons_infix_append_cons {before after : List Char} {c : Char} (hc : c ≠ ':') :
    [':', ':'] <:+: before ++ c :: after ↔ [':', ':'] <:+: before ∨ [':', ':'] <:+: after := by
  induction before with
  | nil => simp [List.infix_cons_iff, hc.symm]
  | cons d before ih =>
    rw [List.cons_append, List.infix_cons_iff, ih, List.infix_cons_iff, or_assoc]
    refine or_congr_left ?_
    cases before with
    | nil => simp [hc.symm]
    | cons d' before => simp

theorem colons_infix_append {before after : List Char} (h : ':' ∉ before) :
    [':', ':'] <:+: before ++ after ↔ [':', ':'] <:+: after := by
  induction before with
  | nil => rfl
  | cons c before ih =>
    rw [List.mem_cons, not_or] at h
    rw [List.cons_append, List.infix_cons_iff, ih h.2]
    simp [h.1]

/-! ### Commands -/

/-- What an annotation tells of an issue. -/
structure Notice where
  /-- How serious it is. -/
  severity : Severity
  /-- The text of the path of the file. -/
  file : String
  /-- The line. -/
  line : ℕ
  /-- The column. -/
  column : ℕ
  /-- The check that found it. -/
  check : String
  /-- What is wrong. -/
  message : String
  deriving DecidableEq

/-- The number that a text of digits stands for. -/
def natural? (digits : List Char) : Option ℕ :=
  if digits ≠ [] ∧ digits.all Char.isDigit then some (Nat.ofDigitChars 10 digits 0) else none

/-- The decoded value of a property. -/
def property? (name : String) (text : List Char) : Option (List Char) :=
  (value? name.toList text).map (unescape propertyCodes)

/-- The notice with some properties and a message. -/
def readNotice (severity : Severity) (properties message : List Char) : Option Notice := do
  let file ← property? "file" properties
  let line ← (property? "line" properties).bind natural?
  let column ← (property? "col" properties).bind natural?
  let check ← property? "title" properties
  return ⟨severity, .ofList file, line, column, .ofList check,
    .ofList (unescape messageCodes message)⟩

/-- The notice that a workflow command stands for. -/
def readCommand : List Char → Option Notice
  | ':' :: ':' :: text => do
    let (name, text) ← cutAt [' '] text
    let (properties, message) ← cutAt [':', ':'] text
    let severity ← [Severity.error, .warning].find? (·.label.toList = name)
    readNotice severity properties message
  | _ => none

/-- The notices in a report: each line may be a command. -/
def readReport (text : List Char) : List Notice :=
  (text.splitOn '\n').filterMap readCommand

/-- What the annotation of an issue should tell. -/
def notice (issue : Issue) : Notice :=
  ⟨issue.severity, issue.file.text, issue.line.toNat, issue.column.toNat, issue.check,
    issue.message⟩

/-- The path of the file and the check of an issue stand for themselves in an annotation. -/
structure Plain (issue : Issue) : Prop where
  /-- The path is not split. -/
  file_comma : ',' ∉ issue.file.text.toList
  /-- Nothing in the path looks like a code. -/
  file_codes : Uncoded propertyCodes issue.file.text.toList
  /-- Nothing in the path looks like the end of the properties. -/
  file_mark : ¬ [':', ':'] <:+: issue.file.text.toList
  /-- The check is not split. -/
  check_comma : ',' ∉ issue.check.toList
  /-- Nothing in the check looks like a code. -/
  check_codes : Uncoded propertyCodes issue.check.toList
  /-- Nothing in the check looks like the end of the properties, not even its last character. -/
  check_mark : ¬ [':', ':'] <:+: issue.check.toList ++ [':']

section Commands

variable {issue : Issue}

theorem natural?_toDigits (n : ℕ) : natural? (Nat.toDigits 10 n) = some n := by
  have hdigits : (Nat.toDigits 10 n).all Char.isDigit = true := List.all_eq_true.2 fun c hc =>
    Nat.isDigit_of_mem_toDigits (by decide) (by decide) hc
  rw [natural?, if_pos ⟨Nat.toDigits_ne_nil, hdigits⟩, Nat.ofDigitChars_ten_toDigits]

theorem isKey_file : IsKey "file".toList := ⟨by decide, by decide⟩

theorem isKey_line : IsKey "line".toList := ⟨by decide, by decide⟩

theorem isKey_col : IsKey "col".toList := ⟨by decide, by decide⟩

theorem isKey_title : IsKey "title".toList := ⟨by decide, by decide⟩

theorem properties_eq (issue : Issue) :
    properties issue = "file".toList ++ '=' :: (issue.file.text.toList ++ ',' ::
      ("line".toList ++ '=' :: (Nat.toDigits 10 issue.line.toNat ++ ',' ::
        ("col".toList ++ '=' :: (Nat.toDigits 10 issue.column.toNat ++ ',' ::
          ("title".toList ++ '=' :: issue.check.toList)))))) := by
  simp [properties]

/-- Two colons in the properties are in the path or in the check. -/
theorem colons_infix_properties :
    [':', ':'] <:+: properties issue ++ [':'] ↔
      [':', ':'] <:+: issue.file.text.toList ∨ [':', ':'] <:+: issue.check.toList ++ [':'] := by
  have hline : ':' ∉ "line".toList ++ '=' :: (Nat.toDigits 10 issue.line.toNat ++ ',' ::
      ("col".toList ++ '=' :: (Nat.toDigits 10 issue.column.toNat ++ ',' ::
        ("title".toList ++ ['='])))) := by
    simp [not_mem_toDigits]
  have heq : properties issue ++ [':'] = ("file".toList ++ ['=']) ++ (issue.file.text.toList ++
      ',' :: (("line".toList ++ '=' :: (Nat.toDigits 10 issue.line.toNat ++ ',' ::
      ("col".toList ++ '=' :: (Nat.toDigits 10 issue.column.toNat ++ ',' ::
        ("title".toList ++ ['=']))))) ++ (issue.check.toList ++ [':']))) := by
    simp [properties]
  rw [heq, colons_infix_append (by decide), colons_infix_append_cons (by decide),
    colons_infix_append hline]

theorem readCommand_content (issue : Issue) :
    readCommand (annotationContent issue) =
      (cutAt [':', ':'] (properties issue ++ ([':', ':'] ++
        issue.message.toList.flatMap escapeChar))).bind fun (properties, message) =>
        readNotice issue.severity properties message := by
  have hblank : ' ' ∉ issue.severity.label.toList := by cases issue.severity <;> decide
  have hseverity : [Severity.error, .warning].find?
      (·.label.toList = issue.severity.label.toList) = some issue.severity := by
    cases issue.severity <;> decide
  show (cutAt [' '] (issue.severity.label.toList ++ ' ' :: _)).bind _ = _
  rw [cutAt_char hblank, Option.bind_some]
  refine Option.bind_congr fun pair _ => ?_
  rw [hseverity]
  rfl

theorem Plain.readCommand_eq (h : Plain issue) :
    readCommand (annotationContent issue) = some (notice issue) := by
  have hmark : ¬ [':', ':'] <:+: properties issue ++ [':'] := by
    rw [colons_infix_properties]
    exact not_or.2 ⟨h.file_mark, h.check_mark⟩
  have hdigits (n : ℕ) : unescape propertyCodes (Nat.toDigits 10 n) = Nat.toDigits 10 n :=
    unescape_eq_self.2 (uncoded_of_not_mem (not_mem_toDigits (by decide) n))
  have hcomma (n : ℕ) : ',' ∉ Nat.toDigits 10 n := not_mem_toDigits (by decide) n
  have hvalue (name : List Char) : value? name (properties issue) =
      if name = "file".toList then some issue.file.text.toList
      else if name = "line".toList then some (Nat.toDigits 10 issue.line.toNat)
      else if name = "col".toList then some (Nat.toDigits 10 issue.column.toNat)
      else if name = "title".toList then some issue.check.toList else none := by
    rw [properties_eq, isKey_file.value?_properties h.file_comma,
      isKey_line.value?_properties (hcomma _), isKey_col.value?_properties (hcomma _),
      isKey_title.value?_property h.check_comma]
  rw [readCommand_content, (cutAt_eq_some (by simp)).2 ⟨rfl, hmark⟩, Option.bind_some]
  simp [readNotice, property?, hvalue, hdigits, natural?_toDigits, unescape_escape,
    unescape_eq_self.2 h.file_codes, unescape_eq_self.2 h.check_codes, notice]

/-- If the path and the check can be read from the first part of the properties, they are written as
they are, and the part is all of them: decoding makes nothing longer. -/
theorem eq_properties_of_value? {before file check : List Char} (h : before <+: properties issue)
    (hfile : value? "file".toList before = some file)
    (hfileText : unescape propertyCodes file = issue.file.text.toList)
    (hcheck : value? "title".toList before = some check)
    (hcheckText : unescape propertyCodes check = issue.check.toList) :
    (',' ∉ file ∧ file = issue.file.text.toList) ∧ (',' ∉ check ∧ check = issue.check.toList) ∧
      before = properties issue := by
  have hcomma (n : ℕ) : ',' ∉ Nat.toDigits 10 n := not_mem_toDigits (by decide) n
  rw [properties_eq] at h ⊢
  obtain ⟨hfileComma, hfilePrefix⟩ := isKey_file.prefix_of_value? h hfile
  have hfileRest := hfilePrefix.trans h
  have hfileLe := length_unescape_le propertyCodes file
  rw [List.prefix_append_right_inj, List.cons_prefix_cons] at hfileRest
  rw [hfileText] at hfileLe
  have hfileEq := eq_of_prefix_cons hfileComma hfileRest.2 hfileLe
  rw [← hfileEq] at h
  -- the check is looked up behind the properties that come before it
  obtain ⟨more, rfl, hmore, hcheck⟩ :=
    isKey_file.tail_of_value? hfileComma h (by decide) hcheck
  obtain ⟨more, rfl, hmore, hcheck⟩ :=
    isKey_line.tail_of_value? (hcomma _) hmore (by decide) hcheck
  obtain ⟨more, rfl, hmore, hcheck⟩ :=
    isKey_col.tail_of_value? (hcomma _) hmore (by decide) hcheck
  obtain ⟨hcheckComma, hcheckPrefix⟩ := isKey_title.prefix_of_value? hmore hcheck
  have hcheckRest := hcheckPrefix.trans hmore
  have hcheckLe := length_unescape_le propertyCodes check
  rw [List.prefix_append_right_inj, List.cons_prefix_cons] at hcheckRest
  rw [hcheckText] at hcheckLe
  have hcheckEq := hcheckRest.2.eq_of_length_le hcheckLe
  rw [← hcheckEq] at hmore
  refine ⟨⟨hfileComma, hfileEq⟩, ⟨hcheckComma, hcheckEq⟩, ?_⟩
  rw [hmore.eq_of_length_le hcheckPrefix.length_le, hfileEq, hcheckEq]

theorem plain_of_readCommand (h : readCommand (annotationContent issue) = some (notice issue)) :
    Plain issue := by
  rw [readCommand_content, Option.bind_eq_some_iff] at h
  obtain ⟨⟨before, message⟩, hcut, hread⟩ := h
  have hmark : ¬ [':', ':'] <:+: before ++ [':'] := ((cutAt_eq_some (by simp)).1 hcut).2
  simp only [readNotice, property?, Option.bind_eq_bind, Option.bind_eq_some_iff,
    Option.map_eq_some_iff, Option.pure_def, Option.some.injEq, notice, Notice.mk.injEq] at hread
  obtain ⟨_, ⟨file, hfile, rfl⟩, _, -, _, -, _, ⟨check, hcheck, rfl⟩, -, hfileText, -, -,
    hcheckText, -⟩ := hread
  replace hfileText : unescape propertyCodes file = issue.file.text.toList := by
    rw [← hfileText, String.toList_ofList]
  replace hcheckText : unescape propertyCodes check = issue.check.toList := by
    rw [← hcheckText, String.toList_ofList]
  obtain ⟨⟨hfileComma, rfl⟩, ⟨hcheckComma, rfl⟩, rfl⟩ :=
    eq_properties_of_value? (prefix_of_cutAt (by simp) hcut) hfile hfileText hcheck hcheckText
  rw [colons_infix_properties, not_or] at hmark
  exact ⟨hfileComma, unescape_eq_self.1 hfileText, hmark.1, hcheckComma,
    unescape_eq_self.1 hcheckText, hmark.2⟩

theorem splitOn_lines {lines : List (List Char)} (h : ∀ line ∈ lines, '\n' ∉ line) :
    (lines.flatMap (· ++ ['\n'])).splitOn '\n' = lines ++ [[]] := by
  induction lines with
  | nil => rfl
  | cons line lines ih =>
    rw [List.forall_mem_cons] at h
    rw [List.flatMap_cons, List.append_assoc, List.singleton_append,
      List.splitOn_append_cons_self_of_not_mem h.1, ih h.2, List.cons_append]

/-- Where all issues stand for themselves, line by line, they are read from the report. -/
theorem readReport_github {collection : IssueCollection}
    (h : ∀ issue ∈ collection.toList, Plain issue ∧ '\n' ∉ issue.file.text.toList ∧
      '\n' ∉ issue.check.toList) :
    readReport (github collection).toList = collection.toList.map notice := by
  have htext : (github collection).toList =
      (collection.toList.map annotationContent).flatMap (· ++ ['\n']) := by
    simp only [github, String.toList_join, List.flatMap_map, annotationLine_toList]
  have hlines : ∀ line ∈ collection.toList.map annotationContent, '\n' ∉ line := by
    intro line hline
    obtain ⟨issue, hissue, rfl⟩ := List.mem_map.1 hline
    rw [linebreak_mem_annotationContent, not_or]
    exact (h issue hissue).2
  have hread : (collection.toList.map annotationContent).filterMap readCommand =
      collection.toList.map notice := by
    rw [List.filterMap_map, ← List.filterMap_eq_map]
    exact List.filterMap_congr fun issue hissue => (h issue hissue).1.readCommand_eq
  rw [readReport, htext, splitOn_lines hlines, List.filterMap_append, hread]
  exact List.append_nil _

/-- **Reading annotations back.**  The annotation of an issue is read as what the issue says if and
only if the path of its file and its check stand for themselves; the message may be any text.  If
this is so for all issues of a report, and none of their lines is broken, the notices in the report
are those of its issues, so another report of this kind that has the same text tells of the same
issues. -/
theorem readCommand_iff (collection : IssueCollection) :
    (∀ issue ∈ collection.toList,
        (readCommand (annotationLine issue).toList.dropLast = some (notice issue) ↔ Plain issue)) ∧
      ((∀ issue ∈ collection.toList, Plain issue ∧ '\n' ∉ issue.file.text.toList ∧
          '\n' ∉ issue.check.toList) →
        readReport (github collection).toList = collection.toList.map notice ∧
          ∀ collection' : IssueCollection,
            (∀ issue ∈ collection'.toList, Plain issue ∧ '\n' ∉ issue.file.text.toList ∧
              '\n' ∉ issue.check.toList) →
            github collection = github collection' →
            collection.toList.map notice = collection'.toList.map notice) := by
  refine ⟨fun issue _ => ?_, fun h => ⟨readReport_github h, fun collection' h' heq => ?_⟩⟩
  · rw [annotationLine_toList, List.dropLast_concat]
    exact ⟨plain_of_readCommand, Plain.readCommand_eq⟩
  · rw [← readReport_github h, ← readReport_github h', heq]

/-- An issue of a plain file, with a message of two lines that looks like the end of properties. -/
theorem readCommand_iff_oneIssue :
    let issue : Issue :=
      ⟨"return.missing", .error, "100%::\n%0A,", (⟨"A.java"⟩ : Path), 7, 3, none, none⟩
    readReport (github ⟨[issue]⟩).toList = [notice issue] := by
  intro issue
  refine ((readCommand_iff ⟨[issue]⟩).2 fun other hother => ?_).1
  obtain rfl := List.mem_singleton.1 hother
  refine ⟨⟨?_, ?_, ?_, ?_, ?_, ?_⟩, ?_, ?_⟩ <;> decide

/-- An issue of a file with a comma in its name, of which only the beginning is read, and two
different issues with the same report: what is the check of one of them looks like the position and
the check of the other. -/
theorem readCommand_comma :
    let issue : Issue :=
      ⟨"return.missing", .error, "M", (⟨"a,b.java"⟩ : Path), 7, 3, none, none⟩
    let issue₁ : Issue :=
      ⟨"t,line=2,col=2,title=u", .error, "M", (⟨"f"⟩ : Path), 1, 1, none, none⟩
    let issue₂ : Issue :=
      ⟨"u", .error, "M", (⟨"f,line=1,col=1,title=t"⟩ : Path), 2, 2, none, none⟩
    readReport (github ⟨[issue]⟩).toList = [{ notice issue with file := "a" }] ∧
      github ⟨[issue₁]⟩ = github ⟨[issue₂]⟩ ∧ notice issue₁ ≠ notice issue₂ := by
  intro issue issue₁ issue₂
  have htext (issue : Issue) : (github ⟨[issue]⟩).toList = annotationContent issue ++ ['\n'] := by
    simp [github, annotationLine_toList]
  refine ⟨?_, ?_, by decide⟩
  · rw [htext]
    decide
  · rw [← String.toList_inj, htext, htext]
    decide

end Commands

end Report

end ReturnPaths
