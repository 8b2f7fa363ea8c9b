import Workpad.Completion.Symbols
import Workpad.Proofs.Completion.Typing
import Workpad.Proofs.Text.Letters

/-!
What is offered behind small letters. A word without capitals gets the symbol in small letters if one of
its letters could be a capital; a word of digits and underscores alone counts as one in capitals.
-/
namespace Workpad
open Text Completion

namespace Completion
variable {w s : List Char}

theorem upper_ne_of_mem {c : Char} (hc : c ∈ w) (raised : upperChar c ≠ [c]) : upper w ≠ w :=
  fun same => raised ((upper_eq_self_iff w).mp same c hc)

theorem no_sigma_of_small (small : ∀ c ∈ w, isUppercase c = false) : 'Σ' ∉ w := by
  intro sigma
  have capital : isUppercase 'Σ' = true := by decide
  exact absurd ((small _ sigma).symm.trans capital) Bool.false_ne_true

/-- Small letters are answered in small letters. -/
theorem adapt_small (small : ∀ c ∈ w, isUppercase c = false) (plain : ∀ c ∈ w, isTitlecase c = false)
    {c : Char} (hc : c ∈ w) (raised : upperChar c ≠ [c]) : adapt w s = lower s := by
  have stays : lower w = w := (lower_eq_self_iff_of_no_sigma (no_sigma_of_small small)).mpr fun d hd =>
    lowerChar_of_not_capital (small d hd) (plain d hd)
  rw [adapt, if_neg (by simpa using upper_ne_of_mem hc raised), if_pos (by simpa using stays)]

theorem adapt_uncased (uncased : ∀ c ∈ w, upperChar c = [c]) : adapt w s = upper s := by
  rw [adapt, if_pos (by simpa using (upper_eq_self_iff w).mpr uncased)]

/-- A title-case letter is in neither case, and no capital. -/
theorem adapt_titlecase (small : ∀ c ∈ w, isUppercase c = false) {c : Char} (hc : c ∈ w)
    (title : isTitlecase c = true) : adapt w s = s := by
  obtain ⟨raised, lowered⟩ := maps_of_isTitlecase title
  have up : upper w ≠ w := upper_ne_of_mem hc raised
  have down : lower w ≠ w := fun same =>
    lowered ((lower_eq_self_iff_of_no_sigma (no_sigma_of_small small)).mp same c hc)
  have first : isCapitalized w = false := by
    cases w with
    | nil => rfl
    | cons d r => rw [isCapitalized, small d List.mem_cons_self, Bool.false_and]
  rw [adapt, if_neg (by simpa using up), if_neg (by simpa using down), first,
    if_neg Bool.false_ne_true]

end Completion

/-- Behind a word without upper-case letters. If one of its letters could be one, the symbol is offered
in small letters, and whoever accepts it gets no capitals; with a title-case letter the casing counts
as mixed. A word in which nothing could be upper case gets the symbol in upper case. -/
theorem suggestion_for_small (table : List Symbol) (buffer : String) (x : Suggestion)
    (h : suggest? table buffer = some x)
    (small : ∀ c ∈ activeWord buffer.toList, isUppercase c = false) :
    let w := activeWord buffer.toList
    ∃ s, table.find? (fun s => begins w s.text.toList) = some s ∧
      ((∃ c ∈ w, upperChar c ≠ [c]) → (∀ c ∈ w, isTitlecase c = false) →
        x.text.toList = lower s.text.toList ∧ ∀ c ∈ x.text.toList, lowerChar c = [c]) ∧
      ((∃ c ∈ w, isTitlecase c = true) → x.text = s.text) ∧
      ((∀ c ∈ w, upperChar c = [c]) → x.text.toList = upper s.text.toList) := by
  intro w
  obtain ⟨-, s, found, rfl⟩ := ofWord?_eq_some_iff.mp h
  refine ⟨s, found, ?_, ?_, fun uncased => ?_⟩
  · rintro ⟨c, hc, raised⟩ plain
    have text : adapt w s.text.toList = lower s.text.toList := adapt_small small plain hc raised
    rw [String.toList_ofList, text]
    exact ⟨rfl, lowerChar_of_mem_lower⟩
  · rintro ⟨c, hc, title⟩
    have text : adapt w s.text.toList = s.text.toList := adapt_titlecase small hc title
    rw [text, String.ofList_toList]
  · rw [String.toList_ofList]
    exact adapt_uncased uncased

/-- One small letter behind the underscores is enough. -/
theorem suggestion_for_dunder :
    let x : Suggestion := ⟨"__name__", .constant, 3⟩
    suggest? pythonSymbols "print(__n" = some x ∧
      (∀ c ∈ activeWord "print(__n".toList, isUppercase c = false) ∧
      ∀ c ∈ x.text.toList, lowerChar c = [c] := by
  intro x
  have word : activeWord "print(__n".toList = ['_', '_', 'n'] := by decide +kernel
  have found : suggest? pythonSymbols "print(__n" = some x := by decide +kernel
  have small : ∀ c ∈ activeWord "print(__n".toList, isUppercase c = false := by
    simp only [word, List.forall_mem_cons]
    exact ⟨rfl, rfl, rfl, by simp⟩
  have plain : ∀ c ∈ ['_', '_', 'n'], isTitlecase c = false := by
    simp only [List.forall_mem_cons]
    exact ⟨rfl, rfl, rfl, by simp⟩
  have lowered := suggestion_for_small pythonSymbols "print(__n" x found small
  rw [word] at lowered
  obtain ⟨_, -, lowered, -⟩ := lowered
  exact ⟨found, small, (lowered ⟨'n', by decide, by decide⟩ plain).2⟩

/-- An underscore alone is answered in capitals. -/
theorem capitals_behind_underscore :
    activeWord "_".toList = ['_'] ∧ isUppercase '_' = false ∧
      pythonSymbols.find? (fun s => begins ['_'] s.text.toList) = some ⟨"__name__", .constant⟩ ∧
      suggest? pythonSymbols "_" = some ⟨"__NAME__", .constant, 1⟩ ∧
      String.ofList (lower "__name__".toList) = "__name__" := by
  decide +kernel

end Workpad
