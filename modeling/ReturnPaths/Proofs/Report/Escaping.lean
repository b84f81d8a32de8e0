import ReturnPaths.Proofs.Report.Annotation
import ReturnPaths.Proofs.Text.Replacement

/-!
# Escaped messages

In the message of an annotation, a percent sign and the two characters that break lines are written
as codes.  Nothing is lost by this, since the percent sign, with which codes begin, is itself
written as one.  Replacing one character after another gives the same text, as long as the percent
sign is the first: the codes that are put in for the others contain none of the characters that
follow.

* `Coded` : all percent signs of a text belong to codes.
* `escapeMessage_eq_replace` : escaping replaces one character after another.
* `escapeMessage_lossless` : what escaping keeps and what it leaves out.
-/

namespace ReturnPaths

namespace Report

/-- Every percent sign in a text begins a code. -/
def Coded (codes : Codes) (text : List Char) : Prop :=
  ∀ after, '%' :: after <:+ text → ∃ code ∈ codes, [code.1.1, code.1.2] <+: after

theorem coded_nil (codes : Codes) : Coded codes [] := by
  intro after h
  cases List.suffix_nil.1 h

theorem coded_cons_iff {codes : Codes} {c : Char} {text : List Char} :
    Coded codes (c :: text) ↔
      (c = '%' → ∃ code ∈ codes, [code.1.1, code.1.2] <+: text) ∧ Coded codes text := by
  simp only [Coded, List.suffix_cons_iff, List.cons.injEq]
  constructor
  · intro h
    exact ⟨fun hc => h text (.inl ⟨hc.symm, rfl⟩), fun after hafter => h after (.inr hafter)⟩
  · rintro ⟨hhead, hrest⟩ after (⟨rfl, rfl⟩ | hafter)
    · exact hhead rfl
    · exact hrest after hafter

theorem coded_cons {codes : Codes} {c : Char} (hc : c ≠ '%') {text : List Char} :
    Coded codes (c :: text) ↔ Coded codes text := by
  rw [coded_cons_iff, and_iff_right fun h => absurd h hc]

/-- In an escaped message every percent sign begins a code. -/
theorem coded_escape (message : List Char) : Coded messageCodes (message.flatMap escapeChar) := by
  induction message with
  | nil => exact coded_nil _
  | cons c message ih =>
    have hcode {a b d : Char} (ha : a ≠ '%') (hb : b ≠ '%') (h : ((a, b), d) ∈ messageCodes) :
        Coded messageCodes ('%' :: a :: b :: message.flatMap escapeChar) :=
      coded_cons_iff.2 ⟨fun _ => ⟨_, h, List.prefix_append [a, b] _⟩,
        (coded_cons ha).2 ((coded_cons hb).2 ih)⟩
    rw [List.flatMap_cons]
    unfold escapeChar
    split
    · exact hcode (by decide) (by decide) (d := '%') (by decide)
    · exact hcode (by decide) (by decide) (d := '\r') (by decide)
    · exact hcode (by decide) (by decide) (d := '\n') (by decide)
    · rename_i hpercent _ _
      exact (coded_cons hpercent).2 ih

theorem return_not_mem_escapeChar (c : Char) : '\r' ∉ escapeChar c := by
  unfold escapeChar
  split <;> simp_all [eq_comm]

theorem toList_escapeMessage (message : String) :
    (escapeMessage message).toList = message.toList.flatMap escapeChar :=
  String.toList_ofList

theorem escapeMessage_injective : Function.Injective escapeMessage := by
  intro message message' h
  have hunescape := congrArg (fun text => unescape messageCodes text.toList) h
  simpa only [toList_escapeMessage, unescape_escape, String.toList_inj] using hunescape

/-- A message is escaped by replacing one character after another. -/
theorem escapeMessage_eq_replace (message : String) :
    escapeMessage message =
      ((message.replace '%' "%25").replace '\r' "%0D").replace '\n' "%0A" := by
  have hchar (c : Char) : Text.substitute '\n' "%0A".toList (Text.substitute '\r' "%0D".toList
      (Text.substitute '%' "%25".toList [c])) = escapeChar c := by
    unfold escapeChar
    split
    · decide
    · decide
    · decide
    · simp_all [Text.substitute]
  rw [← String.toList_inj, toList_escapeMessage, Text.toList_replace, Text.toList_replace,
    Text.toList_replace]
  -- the characters of the message are replaced each on its own
  induction message.toList with
  | nil => rfl
  | cons c text ih =>
    rw [List.flatMap_cons, ← hchar, ih, ← Text.substitute_append, ← Text.substitute_append,
      ← Text.substitute_append, List.singleton_append]

/-- **Escaping loses nothing.**  An escaped message has no line breaks and no percent sign but for
those that begin a code; reading it from left to right and decoding the codes gives the message, so
different messages are escaped to different texts; and escaping all characters at once is the same
as replacing first the percent signs, then the carriage returns and then the line feeds. -/
theorem escapeMessage_lossless :
    Function.Injective escapeMessage ∧ ∀ message : String,
      '\r' ∉ (escapeMessage message).toList ∧ '\n' ∉ (escapeMessage message).toList ∧
      Coded messageCodes (escapeMessage message).toList ∧
      unescape messageCodes (escapeMessage message).toList = message.toList ∧
      escapeMessage message =
        ((message.replace '%' "%25").replace '\r' "%0D").replace '\n' "%0A" := by
  refine ⟨escapeMessage_injective, fun message => ?_⟩
  have hreplace := escapeMessage_eq_replace message
  rw [toList_escapeMessage]
  refine ⟨?_, ?_, coded_escape _, unescape_escape _, hreplace⟩
  · simp [return_not_mem_escapeChar]
  · simp [linebreak_not_mem_escapeChar]

end Report

end ReturnPaths
