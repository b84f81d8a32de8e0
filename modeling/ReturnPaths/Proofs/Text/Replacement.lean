import Mathlib.Data.String.Basic

/-!
# Replacing a character

A text is searched for a character from left to right, in steps that each either find it or pass
over a stretch without it; what is found is replaced, and the rest is kept.  So replacing a
character is a substitution, character by character.

* `Text.substitute` : a list of characters with a code in place of one of them.
* `Text.toList_replace` : what replacing makes of a text.
-/

namespace ReturnPaths

namespace Text

open String.Slice Pattern Pattern.Model

/-- The characters of a text with a code in place of one of them. -/
def substitute (c : Char) (code text : List Char) : List Char :=
  text.flatMap fun d => if d = c then code else [d]

theorem substitute_append (c : Char) (code text text' : List Char) :
    substitute c code (text ++ text') = substitute c code text ++ substitute c code text' :=
  List.flatMap_append

theorem substitute_of_not_mem {c : Char} {code text : List Char} (h : c ∉ text) :
    substitute c code text = text := by
  induction text with
  | nil => rfl
  | cons d text ih =>
    rw [List.mem_cons, not_or] at h
    rw [substitute, List.flatMap_cons, if_neg (Ne.symm h.1), ← substitute, ih h.2,
      List.singleton_append]

variable {c : Char} {s : String.Slice} {start stop : s.Pos} {before part after : String}

/-- A stretch in which the search does not find the character does not contain it. -/
theorem not_mem_of_rejected (hstart : start.Splits before (part ++ after))
    (hstop : stop.Splits (before ++ part) after)
    (hnone : ∀ pos, start ≤ pos → pos < stop → ¬ MatchesAt c pos) : c ∉ part.toList := by
  intro hmem
  obtain ⟨front, back, hpart⟩ := List.append_of_mem hmem
  obtain rfl : part = String.ofList front ++ (String.singleton c ++ String.ofList back) := by
    rw [← String.toList_inj]
    simp [hpart]
  have heq : s.copy = (before ++ String.ofList front) ++
      (String.singleton c ++ (String.ofList back ++ after)) := by
    rw [hstart.eq_append]
    simp only [String.append_assoc]
  -- the place of the character lies within the stretch
  have hpos := Pos.splits_ofEqAppend heq
  refine hnone _ ?_ ?_ (Char.matchesAt_iff_splits.2 ⟨_, _, hpos⟩)
  · refine (hstart.le_iff_exists_eq_append hpos).2 ⟨String.ofList front, rfl, ?_⟩
    simp only [String.append_assoc]
  · refine (hpos.lt_iff_exists_eq_append hstop).2
      ⟨String.singleton c ++ String.ofList back, by simp, ?_, ?_⟩
    · simp only [String.append_assoc]
    · simp only [String.append_assoc]

/-- What is written for a step of the search. -/
def replaceStep (code done : String) : SearchStep s → String
  | .matched _ _ => done ++ code.toSlice
  | .rejected start stop => done ++ s.slice! start stop

/-- The steps of a search write the rest of the text with the character replaced. -/
theorem foldl_replaceStep {steps : List (SearchStep s)} (h : IsValidSearchFrom c start steps)
    (hstart : start.Splits before after) (code done : String) :
    (steps.foldl (replaceStep code) done).toList =
      done.toList ++ substitute c code.toList after.toList := by
  induction h generalizing before after done with
  | endPos =>
    obtain rfl : after = "" := hstart.eq_endPos_iff.1 rfl
    simp [substitute]
  | matched hmatch _ ih =>
    obtain ⟨hne, rfl, hget⟩ := Char.isLongestMatchAt_iff.1 hmatch
    obtain ⟨rest, rfl⟩ := hstart.exists_eq_singleton_append hne
    rw [List.foldl_cons, ih hstart.next, hget]
    simp [replaceStep, substitute, String.appendSlice_eq]
  | @mismatched _ start stop hlt hnone _ ih =>
    have hstop := stop.splits
    obtain ⟨part, hbefore, rfl⟩ :=
      (hstart.le_iff_exists_eq_append hstop).1 (Std.le_of_lt hlt)
    rw [hbefore] at hstop
    obtain ⟨hle, hpart⟩ := copy_slice_eq_iff_splits.2 ⟨_, _, hstart, hstop⟩
    rw [List.foldl_cons, ih hstop, replaceStep, ← slice_eq_slice! (h := hle),
      String.appendSlice_eq, hpart, String.toList_append, String.toList_append, substitute_append,
      substitute_of_not_mem (not_mem_of_rejected hstart hstop hnone), List.append_assoc]

theorem toList_replace (text : String) (c : Char) (code : String) :
    (text.replace c code).toList = substitute c code.toList text.toList := by
  have hsearch : IsValidSearchFrom c text.toSlice.startPos
      (ToForwardSearcher.toSearcher c text.toSlice).toList :=
    LawfulToForwardSearcherModel.isValidSearchFrom_toList text.toSlice
  have hfold : text.replace c code =
      (ToForwardSearcher.toSearcher c text.toSlice).toList.foldl (replaceStep code) "" := by
    rw [String.replace, String.Slice.replace, ← Std.Iter.foldl_toList]
    congr 1
    funext done step
    cases step <;> rfl
  rw [hfold, foldl_replaceStep hsearch text.toSlice.splits_startPos]
  simp

end Text

end ReturnPaths
