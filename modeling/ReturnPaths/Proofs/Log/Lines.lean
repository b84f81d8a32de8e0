import ReturnPaths.Config.FromToml
import ReturnPaths.FlowUnit.Reader
import ReturnPaths.Log.Logger
import ReturnPaths.Proofs.Json.Spacing
import Mathlib.Data.List.TakeDrop
import Mathlib.Data.String.Basic

/-!
# What readers make of a log

Each line of a log starts with a date and a time in brackets.  Read as JSON this is a list that
starts with a number, and read as TOML it is a header with a blank in it; so a log contains neither
a flow unit nor, once something has been recorded, a configuration.

* `Logger.written` : the text of a log.
* `Logger.not_unit`, `Logger.not_config` : what it does not contain.
-/

namespace ReturnPaths

open Json

/-- The flow unit that some bytes contain. -/
def FlowUnit.ofBytes? (content : ByteArray) : Option FlowUnit :=
  (String.fromUTF8? content).bind fun text => (FlowUnit.ofJson text).toOption

theorem fromUTF8?_toUTF8 (text : String) : String.fromUTF8? text.toUTF8 = some text := by
  have hvalid : text.toUTF8.IsValidUTF8 := text.isValidUTF8
  rw [String.fromUTF8?, dif_pos hvalid]
  rfl

/-! ### Lists that start with a number -/

theorem readShape_scalar (steps depth : ℕ) (scalar : Scalar) (text : List Char) :
    readShape steps depth (.scalar scalar) text = readScalar depth text scalar := by
  cases depth <;> rw [readShape]

/-- No flow unit is written as a list that starts with a number, since the path of the source file
has to come first. -/
theorem ofJson_list {text : String} {c : Char} {rest : List Char}
    (htext : text.toList = '[' :: c :: rest) (hc : c.isDigit = true) :
    ∃ refusal, FlowUnit.ofJson text = .error refusal := by
  have hne (d : Char) (hd : d.isDigit = false) : c ≠ d := ne_of_isDigit hc hd
  have hblank : isBlank c = false := not_isBlank_of_isDigit hc
  have hopen : skipBlank ('[' :: c :: rest) = '[' :: c :: rest := skipBlank_cons rfl
  have hpath (depth : ℕ) : readScalar depth (c :: rest) .path =
      .error (mismatch "path string" (c :: rest)) := by
    rw [readScalar, readString, skipBlank_cons hblank]
    split
    · rename_i heq
      exact absurd (List.cons.inj heq).1 (hne '"' rfl)
    · rename_i heq
      cases heq
    · rfl
  have hnext : nextElement true (c :: rest) = .ok (true, c :: rest) := by
    rw [nextElement, skipBlank_cons hblank]
    split
    · rename_i heq
      exact absurd (List.cons.inj heq).1 (hne ']' rfl)
    · rename_i heq
      cases heq
    · rename_i heq
      exact absurd (List.cons.inj heq).1 (hne ',' rfl)
    · rfl
  have hrecord (steps depth : ℕ) : readShape steps (depth + 1) (.record .unit) ('[' :: c :: rest) =
      .error (mismatch "path string" (c :: rest)) := by
    rw [readShape, readRecord, hopen]
    simp only [readPositional, beq_self_eq_true, hnext, readSlot, readShape_scalar, bind,
      Except.bind, ↓reduceIte, hpath]
  have hlimit : depthLimit = 126 + 1 := rfl
  refine ⟨(mismatch "path string" (c :: rest)).locate ('[' :: c :: rest), ?_⟩
  rw [FlowUnit.ofJson, readWhole, htext, hlimit, hrecord]
  rfl

theorem ofJson_empty : ∃ refusal, FlowUnit.ofJson "" = .error refusal := by
  refine ⟨(Fault.here [] .endInValue).locate [], ?_⟩
  have hlimit : depthLimit = 126 + 1 := rfl
  rw [FlowUnit.ofJson, readWhole, String.toList_empty, hlimit, readShape, readRecord]
  rfl

/-! ### Headers with a blank in them -/

/-- A key that starts with a digit ends before a blank. -/
theorem readKeyPart_blank {c : Char} {name rest : List Char} (hc : c.isDigit = true)
    (hname : ∀ x ∈ name, Toml.isBareChar x = true) :
    Toml.readKeyPart (c :: (name ++ ' ' :: rest)) =
      some (String.ofList (c :: name), ' ' :: rest) := by
  have hbare : ∀ x ∈ c :: name, Toml.isBareChar x = true := by
    refine List.forall_mem_cons.2 ⟨?_, hname⟩
    simp [Toml.isBareChar, Char.isAlphanum, hc]
  have hblank : Toml.isBareChar ' ' = false := by decide
  have hspan : (c :: (name ++ ' ' :: rest)).span Toml.isBareChar = (c :: name, ' ' :: rest) := by
    rw [List.span_eq_takeWhile_dropWhile, ← List.cons_append, List.takeWhile_append_of_pos hbare,
      List.dropWhile_append_of_pos hbare, List.takeWhile_cons, List.dropWhile_cons, hblank]
    simp
  rw [Toml.readKeyPart]
  · rw [hspan]
  · rintro _ h
    exact ne_of_isDigit hc rfl (List.cons.inj h).1
  · rintro _ h
    exact ne_of_isDigit hc rfl (List.cons.inj h).1

/-- A header with a blank between two keys is refused. -/
theorem readHeader_blank {state : Toml.State} {c d : Char} {name rest : List Char}
    (hc : c.isDigit = true) (hname : ∀ x ∈ name, Toml.isBareChar x = true)
    (hd : d.isDigit = true) :
    Toml.readHeader state ('[' :: c :: (name ++ ' ' :: d :: rest)) = none := by
  have hskip (x : Char) (hx : x.isDigit = true) (text : List Char) :
      Toml.skipBlank (x :: text) = x :: text := by
    rw [Toml.skipBlank, List.dropWhile_cons, Toml.isBlank]
    simp [ne_of_isDigit hx (show ' '.isDigit = false from rfl),
      ne_of_isDigit hx (show '\t'.isDigit = false from rfl)]
  have hblank : Toml.skipBlank (' ' :: d :: rest) = d :: rest := by
    rw [Toml.skipBlank, List.dropWhile_cons, if_pos (by decide)]
    exact hskip d hd rest
  have hlimit : Toml.depthLimit - 1 = 78 + 1 := rfl
  -- the first key ends at the blank, and neither a dot nor a bracket follows
  have hkey : Toml.readKey (Toml.depthLimit - 1) (c :: (name ++ ' ' :: d :: rest)) =
      some (([], String.ofList (c :: name)), d :: rest) := by
    rw [hlimit, Toml.readKey, hskip c hc, readKeyPart_blank hc hname, Option.bind_eq_bind,
      Option.bind_some]
    simp only [hblank]
    split
    · rename_i heq
      exact absurd (List.cons.inj heq).1 (ne_of_isDigit hd rfl)
    · rfl
  rw [Toml.readHeader]
  · rw [hkey, Option.bind_eq_bind, Option.bind_some]
    split
    · rename_i heq
      obtain ⟨-, heq⟩ := Prod.mk.inj heq
      exact absurd (List.cons.inj heq).1 (ne_of_isDigit hd rfl)
    · rfl
  · rintro _ h
    exact ne_of_isDigit hc rfl (List.cons.inj h).1

/-- No configuration starts with such a header. -/
theorem ofToml?_header {text : String} {c d : Char} {name rest : List Char}
    (htext : text.toList = '[' :: c :: (name ++ ' ' :: d :: rest))
    (hc : c.isDigit = true) (hname : ∀ x ∈ name, Toml.isBareChar x = true)
    (hd : d.isDigit = true) : Config.ofToml? text = none := by
  have hmark : Toml.dropMark text.toList = '[' :: c :: (name ++ ' ' :: d :: rest) := by
    rw [htext]
    rfl
  rw [Config.ofToml?, Toml.parse?, hmark]
  simp only [Toml.readDocument]
  have hlines : Toml.skipLines false ('[' :: c :: (name ++ ' ' :: d :: rest)) =
      some ('[' :: c :: (name ++ ' ' :: d :: rest)) := by
    rfl
  rw [hlines]
  simp only [Option.bind_eq_bind, Option.bind_some, readHeader_blank hc hname hd, Option.bind_none]

/-! ### Dates -/

theorem exists_digit_toString (n : ℕ) :
    ∃ c rest, (toString n).toList = c :: rest ∧ c.isDigit = true := by
  obtain ⟨c, rest, hdigits⟩ := List.exists_cons_of_ne_nil (Nat.toDigits_ne_nil (n := n) (b := 10))
  refine ⟨c, rest, ?_, ?_⟩
  · rw [Nat.toString_eq_ofList_toDigits, String.toList_ofList, hdigits]
  · refine Nat.isDigit_of_mem_toDigits (b := 10) (n := n) (by decide) (by decide) ?_
    rw [hdigits]
    exact List.mem_cons_self

theorem exists_digit_padded (width n : ℕ) :
    ∃ c rest, (Timestamp.padded width n).toList = c :: rest ∧ c.isDigit = true := by
  obtain ⟨c, rest, hdigits, hc⟩ := exists_digit_toString n
  rw [Timestamp.padded, String.toList_append, String.toList_ofList, hdigits]
  cases width - (toString n).length with
  | zero => exact ⟨c, rest, rfl, hc⟩
  | succ m => exact ⟨'0', List.replicate m '0' ++ c :: rest, rfl, rfl⟩

theorem isDigit_of_mem_padded {width n : ℕ} {c : Char}
    (hc : c ∈ (Timestamp.padded width n).toList) : c.isDigit = true := by
  rw [Timestamp.padded, String.toList_append, String.toList_ofList, List.mem_append] at hc
  rcases hc with hc | hc
  · rw [List.eq_of_mem_replicate hc]
    rfl
  · rw [Nat.toString_eq_ofList_toDigits, String.toList_ofList] at hc
    exact Nat.isDigit_of_mem_toDigits (b := 10) (by decide) (by decide) hc

/-- A time stamp is a date and, after a blank, a time of day. -/
theorem toList_render (now : Timestamp) : ∃ c date d time,
    now.render.toList = c :: (date ++ ' ' :: d :: time) ∧ c.isDigit = true ∧
      (∀ x ∈ date, Toml.isBareChar x = true) ∧ d.isDigit = true := by
  obtain ⟨year, month, day, hour, minute, second, fraction, hrender⟩ :
      ∃ year month day hour minute second fraction, now.render =
        Timestamp.padded 4 year ++ "-" ++ Timestamp.padded 2 month ++ "-" ++
          Timestamp.padded 2 day ++ " " ++ Timestamp.padded 2 hour ++ ":" ++
          Timestamp.padded 2 minute ++ ":" ++ Timestamp.padded 2 second ++ "." ++
          Timestamp.padded 3 fraction := ⟨_, _, _, _, _, _, _, rfl⟩
  have hbare (width n : ℕ) (x : Char) (hx : x ∈ (Timestamp.padded width n).toList) :
      Toml.isBareChar x = true := by
    simp [Toml.isBareChar, Char.isAlphanum, isDigit_of_mem_padded hx]
  obtain ⟨c, rest, hyear, hc⟩ := exists_digit_padded 4 year
  obtain ⟨d, time, hhour, hd⟩ := exists_digit_padded 2 hour
  have hrest : ∀ x ∈ rest, Toml.isBareChar x = true := by
    intro x hx
    exact hbare 4 year x (by rw [hyear]; exact List.mem_cons_of_mem c hx)
  refine ⟨c, rest ++ '-' :: ((Timestamp.padded 2 month).toList ++
    '-' :: (Timestamp.padded 2 day).toList), d, time ++ (":" ++ Timestamp.padded 2 minute ++ ":" ++
      Timestamp.padded 2 second ++ "." ++ Timestamp.padded 3 fraction).toList, ?_, hc, ?_, hd⟩
  · rw [hrender]
    simp [hyear, hhour]
  · intro x hx
    simp only [List.mem_append, List.mem_cons] at hx
    rcases hx with hx | rfl | hx | rfl | hx
    · exact hrest x hx
    · rfl
    · exact hbare 2 month x hx
    · rfl
    · exact hbare 2 day x hx

namespace Logger

/-- A line starts with the date and the time in brackets. -/
theorem toList_line (now : Timestamp) (message : String) : ∃ c date d rest,
    (line now message).toList = '[' :: c :: (date ++ ' ' :: d :: rest) ∧ c.isDigit = true ∧
      (∀ x ∈ date, Toml.isBareChar x = true) ∧ d.isDigit = true := by
  obtain ⟨c, date, d, time, hrender, hc, hdate, hd⟩ := toList_render now
  have hline : line now message = "[" ++ now.render ++ "] " ++ message ++ "\n" := rfl
  refine ⟨c, date, d, time ++ ("] " ++ message ++ "\n").toList, ?_, hc, hdate, hd⟩
  rw [hline]
  simp only [String.toList_append, hrender, List.cons_append, List.append_assoc]
  rfl

/-- The text of a log with these messages, each with its time. -/
def written (lines : List (Timestamp × String)) : String :=
  String.join (lines.map fun (now, message) => line now message)

theorem written_append (lines lines' : List (Timestamp × String)) :
    written (lines ++ lines') = written lines ++ written lines' := by
  rw [written, List.map_append, String.join_append, written, written]

theorem toList_written (first : Timestamp × String) (rest : List (Timestamp × String)) :
    (written (first :: rest)).toList =
      (line first.1 first.2).toList ++ (written rest).toList := by
  rw [written, List.map_cons, String.join_cons, String.toList_append]
  rfl

/-- A log contains no flow unit. -/
theorem not_unit (lines : List (Timestamp × String)) :
    FlowUnit.ofBytes? (written lines).toUTF8 = none := by
  have hrefused : ∃ refusal, FlowUnit.ofJson (written lines) = .error refusal := by
    cases lines with
    | nil => exact ofJson_empty
    | cons first rest =>
      obtain ⟨c, date, d, chars, hline, hc, -, -⟩ := toList_line first.1 first.2
      have htext : (written (first :: rest)).toList =
          '[' :: c :: (date ++ ' ' :: d :: chars ++ (written rest).toList) := by
        rw [toList_written, hline]
        rfl
      exact ofJson_list htext hc
  obtain ⟨refusal, hrefusal⟩ := hrefused
  rw [FlowUnit.ofBytes?, fromUTF8?_toUTF8, Option.bind_some, hrefusal]
  rfl

/-- A log in which something has been recorded contains no configuration. -/
theorem not_config {lines : List (Timestamp × String)} (hlines : lines ≠ []) :
    Config.ofToml? (written lines) = none := by
  obtain ⟨first, rest, rfl⟩ := List.exists_cons_of_ne_nil hlines
  obtain ⟨c, date, d, chars, hline, hc, hdate, hd⟩ := toList_line first.1 first.2
  have htext : (written (first :: rest)).toList =
      '[' :: c :: (date ++ ' ' :: d :: (chars ++ (written rest).toList)) := by
    rw [toList_written, hline]
    simp
  exact ofToml?_header htext hc hdate hd

end Logger

end ReturnPaths
