import Workpad.Proofs.Completion.Ghost
import Workpad.Proofs.Completion.Reached
import Workpad.Proofs.Text.Letters

/-!
What a suggestion is made from. Of the buffer only the word at its end counts, and of the table the
first entry that goes on where the word ends.
-/
namespace Workpad

namespace Completion
open Text
variable {s v w : List Char}

/-- The longest end of a text without white space and separators. -/
structure TrailingWord (s w : List Char) : Prop where
  atEnd : w <:+ s
  whole : ∀ c ∈ w, isBreak c = false
  longest : ∀ v, v <:+ s → (∀ c ∈ v, isBreak c = false) → v.length ≤ w.length

theorem TrailingWord.unique (hv : TrailingWord s v) (hw : TrailingWord s w) : v = w := by
  have shorter := hw.longest v hv.atEnd hv.whole
  have longer := hv.longest w hw.atEnd hw.whole
  exact (List.suffix_of_suffix_length_le hv.atEnd hw.atEnd shorter).eq_of_length (by omega)

theorem trailingWord_activeWord (s : List Char) : TrailingWord s (activeWord s) := by
  obtain ⟨before, parts, whole, apart⟩ := activeWord_parts s
  refine ⟨⟨before, parts.symm⟩, whole, fun v hv free => ?_⟩
  by_contra longer
  obtain ⟨u, rfl⟩ := List.suffix_of_suffix_length_le ⟨before, parts.symm⟩ hv (Nat.le_of_not_le longer)
  have more : u ≠ [] := by
    rintro rfl
    exact longer (Nat.le_of_eq rfl)
  obtain ⟨x, hx⟩ := hv
  rw [← List.append_assoc] at hx
  have split : x ++ u = before := List.append_cancel_right (hx.trans parts)
  have last : before.getLast? = some (u.getLast more) := by
    rw [← split, List.getLast?_append_of_ne_nil x more, List.getLast?_eq_some_getLast more]
  have here := free _ (List.mem_append_left _ (List.getLast_mem more))
  exact absurd (here.symm.trans (apart _ last)) Bool.false_ne_true

theorem adapt_ne_nil (w : List Char) (hs : s ≠ []) : adapt w s ≠ [] := by
  obtain ⟨c, r, rfl⟩ := List.exists_cons_of_ne_nil hs
  have raised : upper (c :: r) ≠ [] := by
    rw [upper, List.flatMap_cons]
    exact List.append_ne_nil_of_left_ne_nil (upperChar_ne_nil c) _
  have lowered : lower (c :: r) ≠ [] := lowerFrom_ne_nil false hs
  unfold adapt
  split
  · exact raised
  split
  · exact lowered
  split
  · exact List.append_ne_nil_of_left_ne_nil (upperChar_ne_nil c) _
  · exact hs

end Completion

open Completion Text

/-- Lower-cased, the symbol is the word and something more. -/
def Symbol.Extends (s : Symbol) (w : List Char) : Prop :=
  ∃ rest ≠ [], lower s.text.toList = lower w ++ rest

theorem Symbol.extends_iff (s : Symbol) (w : List Char) :
    s.Extends w ↔ begins w s.text.toList = true := by
  rw [begins_iff]
  constructor
  · rintro ⟨rest, more, h⟩
    rw [h]
    exact ⟨List.prefix_append _ _, by simpa using more⟩
  · rintro ⟨⟨rest, h⟩, differs⟩
    refine ⟨rest, ?_, h.symm⟩
    rintro rfl
    rw [List.append_nil] at h
    exact differs h.symm

theorem Symbol.Extends.ne_nil {s : Symbol} {w : List Char} (h : s.Extends w) :
    s.text.toList ≠ [] := by
  intro none
  obtain ⟨rest, more, parts⟩ := h
  rw [none] at parts
  exact more (List.append_eq_nil_iff.mp parts.symm).2

/-- Something is proposed just if an entry of the table extends the word, and then the first one is. -/
theorem ofWord?_eq_some_iff_first {table : List Symbol} {w : List Char} (hw : w ≠ []) (x : Suggestion) :
    ofWord? table w = some x ↔ ∃ before s after, table = before ++ s :: after ∧
      (∀ e ∈ before, ¬ e.Extends w) ∧ s.Extends w ∧
        x = ⟨String.ofList (adapt w s.text.toList), s.category, w.length⟩ := by
  rw [ofWord?_eq_some_iff]
  simp only [List.find?_eq_some_iff_append, Symbol.extends_iff]
  constructor
  · rintro ⟨-, s, ⟨hs, before, after, parts, none⟩, rfl⟩
    exact ⟨before, s, after, parts, fun e he => by simpa using none e he, hs, rfl⟩
  · rintro ⟨before, s, after, parts, none, hs, rfl⟩
    exact ⟨hw, s, ⟨hs, before, after, parts, fun e he => by simpa using none e he⟩, rfl⟩

theorem suggestText_eq_empty_iff (table : List Symbol) (buffer : String) :
    suggestText table buffer = "" ↔ suggest? table buffer = none := by
  cases h : suggest? table buffer with
  | none => simp [suggestText, h]
  | some x =>
    obtain ⟨-, s, found, rfl⟩ := ofWord?_eq_some_iff.mp h
    have hs := List.find?_some (p := fun s : Symbol => begins _ s.text.toList) found
    have filled := adapt_ne_nil (activeWord buffer.toList) ((s.extends_iff _).mpr hs).ne_nil
    simpa [suggestText, h] using filled

/-- Buffers that end in the same word get the same suggestion, whatever stands before it. It is made
from the first entry that extends the word; there is none if no entry does or if there is no word, and
just then the text of the suggestion is empty. -/
theorem suggestion_of_trailing_word (table : List Symbol) :
    (∀ a b w, TrailingWord a.toList w → TrailingWord b.toList w →
      suggest? table a = suggest? table b ∧ suggestText table a = suggestText table b) ∧
    ∀ buffer : String, ∃ w, TrailingWord buffer.toList w ∧
      (w = [] → suggest? table buffer = none) ∧
      (w ≠ [] → (suggest? table buffer = none ↔ ∀ s ∈ table, ¬ s.Extends w) ∧
        ∀ x, suggest? table buffer = some x ↔ ∃ before s after, table = before ++ s :: after ∧
          (∀ e ∈ before, ¬ e.Extends w) ∧ s.Extends w ∧
            x = ⟨String.ofList (adapt w s.text.toList), s.category, w.length⟩) ∧
      (suggestText table buffer = "" ↔ suggest? table buffer = none) := by
  constructor
  · intro a b w ha hb
    have wa := (trailingWord_activeWord a.toList).unique ha
    have wb := (trailingWord_activeWord b.toList).unique hb
    have same : suggest? table a = suggest? table b := by rw [suggest?, suggest?, wa, wb]
    exact ⟨same, by rw [suggestText, suggestText, same]⟩
  · intro buffer
    refine ⟨activeWord buffer.toList, trailingWord_activeWord buffer.toList, fun none => ?_,
      fun hw => ⟨?_, ofWord?_eq_some_iff_first hw⟩, suggestText_eq_empty_iff table buffer⟩
    · rw [suggest?, none]
      rfl
    · rw [suggest?, ofWord?_eq_none_iff hw]
      simp only [Symbol.extends_iff, Bool.not_eq_true]

end Workpad
