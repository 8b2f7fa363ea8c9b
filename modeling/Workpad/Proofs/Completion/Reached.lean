import Workpad.Proofs.Completion.Typing
import Workpad.Proofs.Text.Sigma

/-!
Typing towards a symbol. Whatever part of it has been typed, the symbol is one that the word begins, but
for a part that ends in a capital sigma while the symbol goes on: there the word is lower-cased as if it
were complete, with a final sigma that the symbol does not have.
-/
namespace Workpad

namespace Completion
open Text
variable {p q s : List Char}

theorem begins_append_iff (hq : q ≠ []) :
    begins p (p ++ q) = true ↔ (endsInSigma p && startsCased q) = false := by
  rw [begins_iff, lower_prefix_append_iff]
  exact and_iff_left (lower_append_ne p hq)

theorem activeWord_eq_nil (h : s.getLast?.all isBreak = true) : activeWord s = [] := by
  rw [← List.head?_reverse] at h
  rw [activeWord, List.reverse_eq_nil_iff]
  cases hs : s.reverse with
  | nil => rfl
  | cons c r =>
    have stops : isBreak c = true := by simpa [hs] using h
    simp [stops]

theorem ofWord?_eq_none_iff {table : List Symbol} {w : List Char} (h : w ≠ []) :
    ofWord? table w = none ↔ ∀ s ∈ table, begins w s.text.toList = false := by
  simp [ofWord?, h]

end Completion

/-- A beginning of a symbol is typed behind a break, or into an empty buffer. Something is offered from
every table with that symbol, unless the beginning ends in a capital sigma, with a cased character
before it, and what is left of the symbol starts cased; and then the symbol itself is not offered. -/
theorem typing_reaches_symbol (table : List Symbol) (s : Symbol) (before p q : String)
    (mem : s ∈ table) (whole : s.text.toList.any Completion.isBreak = false)
    (parts : s.text = p ++ q) (hp : p ≠ "") (hq : q ≠ "")
    (behind : before.toList.getLast?.all Completion.isBreak = true) :
    let cut := Text.endsInSigma p.toList && Text.startsCased q.toList
    (cut = false → suggest? table (before ++ p) ≠ none) ∧
      (suggest? [s] (before ++ p) = none ↔ cut = true) ∧ (cut = true → 'Σ' ∈ p.toList) := by
  intro cut
  have hp' : p.toList ≠ [] := by simpa using hp
  have hq' : q.toList ≠ [] := by simpa using hq
  have text : s.text.toList = p.toList ++ q.toList := by rw [parts, String.toList_append]
  have begins : Completion.begins p.toList s.text.toList = true ↔ cut = false := by
    rw [text, Completion.begins_append_iff hq']
  have offered (table : List Symbol) : suggest? table (before ++ p) = none ↔
      ∀ s ∈ table, Completion.begins p.toList s.text.toList = false := by
    have word : ∀ c ∈ p.toList, Completion.isBreak c = false := fun c hc =>
      Bool.eq_false_iff.mpr (List.any_eq_false.mp whole c (text ▸ List.mem_append_left _ hc))
    rw [suggest?, String.toList_append, Completion.activeWord_append word,
      Completion.activeWord_eq_nil behind, List.nil_append, Completion.ofWord?_eq_none_iff hp']
  refine ⟨fun joined none => ?_, ?_, fun h => ?_⟩
  · have not := (offered table).mp none s mem
    rw [begins.mpr joined] at not
    contradiction
  · rw [offered]
    simp only [List.mem_singleton, forall_eq]
    rw [← Bool.not_eq_true, begins, Bool.not_eq_false]
  · exact Text.mem_of_endsInSigma (Bool.and_eq_true_iff.mp h).1

/-- A sigma at the end of what is typed, and an underscore after it. -/
theorem typing_reaches_underscore :
    let s : Symbol := ⟨"ΑΣ_Α", .function⟩
    let table := Completion.pythonSymbols ++ [s]
    s ∈ table ∧ s.text.toList.any Completion.isBreak = false ∧ s.text = "ΑΣ" ++ "_Α" ∧
      suggest? table ("x = " ++ "ΑΣ") ≠ none := by
  intro s table
  have mem : s ∈ table := List.mem_append_right _ List.mem_cons_self
  have whole : s.text.toList.any Completion.isBreak = false := by decide
  have parts : s.text = "ΑΣ" ++ "_Α" := by decide
  have reached := typing_reaches_symbol table s "x = " "ΑΣ" "_Α" mem whole parts (by decide)
    (by decide) (by decide)
  exact ⟨mem, whole, parts, reached.1 (by decide +kernel)⟩

/-- The beginning of a symbol for which nothing is offered: its sigma is taken for a final one. -/
theorem nothing_for_cut_sigma :
    let s : Symbol := ⟨"ΑΣΑ", .function⟩
    s.text.toList.any Completion.isBreak = false ∧ s.text = "ΑΣ" ++ "Α" ∧
      suggest? [s] "ΑΣ" = none := by
  decide +kernel

end Workpad
