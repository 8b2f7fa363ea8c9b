import Workpad.Text.Blank

/-!
The words of a text. They are not empty and have no white space in them, and together they are all of
the text but its white space.
-/
namespace Workpad.Text

/-- Splitting takes the characters away at which it splits, and no others. -/
theorem flatten_splitOnP (p : Char → Bool) (s : List Char) :
    (s.splitOnP p).flatten = s.filter fun c => !p c := by
  induction s with
  | nil => rfl
  | cons c s ih =>
    rw [List.splitOnP_cons_eq_if_modifyHead, List.filter_cons]
    cases hc : p c with
    | true => simpa using ih
    | false =>
      obtain ⟨first, rest, parts⟩ := List.exists_cons_of_ne_nil (List.splitOnP_ne_nil p s)
      rw [parts] at ih ⊢
      simpa using ih

theorem flatten_words (s : List Char) : (words s).flatten = s.filter fun c => !isBlank c := by
  rw [words, List.flatten_filter_not_isEmpty, flatten_splitOnP]

theorem ne_nil_of_mem_words {s w : List Char} (h : w ∈ words s) : w ≠ [] := by
  simpa using (List.mem_filter.mp h).2

theorem solid_of_mem_words {s w : List Char} (h : w ∈ words s) : ∀ c ∈ w, isBlank c = false := by
  intro c hc
  have kept : c ∈ (words s).flatten := List.mem_flatten.mpr ⟨w, h, hc⟩
  rw [flatten_words] at kept
  simpa using (List.mem_filter.mp kept).2

/-- A text of nothing but white space has no words, and no other has none. -/
theorem words_eq_nil_iff (s : List Char) : words s = [] ↔ allBlank s = true := by
  have empty : words s = [] ↔ (words s).flatten = [] := by
    refine ⟨fun h => by rw [h]; rfl, fun h => List.eq_nil_iff_forall_not_mem.mpr fun w hw => ?_⟩
    exact ne_nil_of_mem_words hw (List.flatten_eq_nil_iff.mp h w hw)
  rw [empty, flatten_words, List.filter_eq_nil_iff, allBlank, List.all_eq_true]
  simp

end Workpad.Text
