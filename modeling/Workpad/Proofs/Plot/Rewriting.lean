import Workpad.Proofs.Plot.Prepare
import Workpad.Proofs.Text.Ends
import Workpad.Proofs.Text.Search

/-!
Code that plots, as it is handed over. In front of it stands the prelude with the id of the new
target in all its places, and behind that the code begins a line and is what was typed.
-/
namespace Workpad
open Text

def TargetId.IsPlotId (id : TargetId) : Prop :=
  ∃ digits, id.text.toList = "plot-".toList ++ digits ∧ digits.length = 32 ∧
    ∀ d ∈ digits, d ∈ "0123456789abcdef".toList

/-- Such an id neither starts as the placeholder goes on, nor contains its brace. -/
theorem TargetId.IsPlotId.foreign {id : TargetId} (h : id.IsPlotId) :
    Foreign targetPlaceholder.toList id.text.toList := by
  obtain ⟨digits, text, -, hex⟩ := h
  refine ⟨⟨'p', "lot-".toList ++ digits, text, by decide +kernel⟩,
    ⟨'\x7b', "target\x7d".toList, rfl, fun inside => ?_⟩⟩
  rw [text, List.mem_append] at inside
  obtain inside | inside := inside
  · revert inside
    decide +kernel
  · have digit := hex _ inside
    revert digit
    decide +kernel

namespace Plotter
variable {p : Plotter} {code : String}

theorem detects_iff (p : Plotter) (code : String) :
    p.detects code = true ↔ p.keyword.toList <:+: code.toList := occursIn_iff _ _

theorem fill_eq {id : TargetId} {text : List Char}
    (h : replaceAll targetPlaceholder.toList id.text.toList p.prelude.toList = text) :
    p.fill id = text ++ if text = [] ∨ text.getLast? = some '\n' then [] else ['\n'] := by
  simp only [fill, h, Bool.or_eq_true, List.isEmpty_iff, beq_iff_eq]
  split <;> simp

section
variable {pieces : List (List Char)} (cut : Cut targetPlaceholder.toList p.prelude.toList pieces)
include cut

/-- The pieces of the prelude around its places, with an id between them. -/
theorem fill_of_cut (id : TargetId) :
    let text := id.text.toList.intercalate pieces
    p.fill id = text ++ if text = [] ∨ text.getLast? = some '\n' then [] else ['\n'] := by
  obtain ⟨pieces', cut', joined⟩ :=
    exists_cut (by decide : targetPlaceholder.toList ≠ []) p.prelude.toList
  obtain rfl := cut.unique cut'
  exact fill_eq (joined id.text.toList)

theorem redirect_of_cut (id : TargetId) (code : String) :
    let text := id.text.toList.intercalate pieces
    let newline := if text = [] ∨ text.getLast? = some '\n' then [] else ['\n']
    p.redirect id code = String.ofList (text ++ newline ++ code.toList) := by
  intro text newline
  have filled : p.fill id = text ++ newline := fill_of_cut cut id
  rw [redirect, filled, @String.ofList_append (text ++ newline), String.ofList_toList]

end

/-- Whatever the prelude is, the code behind it begins a line. -/
theorem endsLine_fill (p : Plotter) (id : TargetId) : EndsLine (p.fill id) := by
  rw [fill_eq rfl]
  split
  next closed =>
    rw [List.append_nil]
    obtain empty | newline := closed
    · simp [empty, EndsLine]
    · exact endsLine_of_getLast? newline
  next => exact endsLine_concat _

/-- Code without the keyword, and all code while the slot is held, stays as it is and changes
nothing. Other code gets a new target, which joins the transcript and takes the slot, and is put
behind the prelude: word for word, at the start of a line. The id of the target stands in all places
of the prelude, found from the left, and no place is left there or made by it. -/
theorem prepare_rewrites (p : Plotter) (code : String) (t : Transcript) :
    let place := targetPlaceholder.toList
    let id := p.nextId
    (¬ p.keyword.toList <:+: code.toList ∨ p.slot.holder ≠ none →
      p.prepare code t = ({ code }, p, t)) ∧
    (p.keyword.toList <:+: code.toList → p.slot.holder = none →
      ∃ pieces, (∀ other, Cut place p.prelude.toList other ↔ other = pieces) ∧
        let text := id.text.toList.intercalate pieces
        let newline := if text = [] ∨ text.getLast? = some '\n' then [] else ['\n']
        p.prepare code t =
          (⟨String.ofList (text ++ newline ++ code.toList), some id⟩,
            { p.mint with slot := ⟨some id⟩ }, t.attachTarget { id }) ∧
        EndsLine (text ++ newline) ∧ (id.IsPlotId → ¬ place <:+: text)) := by
  intro place id
  refine ⟨fun stays => ?_, fun plots free => ?_⟩
  · rw [prepare_eq, if_neg]
    rintro ⟨plots, free⟩
    rw [detects_iff] at plots
    obtain other | held := stays
    · exact other plots
    · exact held free
  · obtain ⟨pieces, cut, -⟩ := exists_cut (by decide : place ≠ []) p.prelude.toList
    refine ⟨pieces, fun other => cut.iff_eq, ?_, ?_, fun plain => ?_⟩
    · rw [prepare_of_detects free ((p.detects_iff code).mpr plots), redirect_of_cut cut]
    · rw [← fill_of_cut cut]
      exact p.endsLine_fill id
    · exact cut.not_infix plain.foreign

/-- The parts of a placeholder around another one do not become a place when that one is filled. -/
theorem prepare_rewrites_nested :
    let p : Plotter :=
      { keyword := "plot", prelude := "\x7btar" ++ targetPlaceholder ++ "get\x7d", icons := {}
        supply := .numbered }
    p.nextId.IsPlotId ∧ ∃ pieces, Cut targetPlaceholder.toList p.prelude.toList pieces ∧
      ¬ targetPlaceholder.toList <:+: p.nextId.text.toList.intercalate pieces := by
  intro p
  have plain : p.nextId.IsPlotId := by
    refine ⟨Nat.toDigits 10 (Nat.pow 10 31), ?_, by decide +kernel, ?_⟩
    · simp [p, nextId, Supply.numbered]
    · have hex : (Nat.toDigits 10 (Nat.pow 10 31)).all (fun d =>
          "0123456789abcdef".toList.contains d) = true := by decide +kernel
      exact fun d hd => List.contains_iff_mem.mp (List.all_eq_true.mp hex d hd)
  have plots : p.keyword.toList <:+: "plot()".toList := by decide +kernel
  obtain ⟨pieces, cut, -, -, left⟩ := (p.prepare_rewrites "plot()" {}).2 plots rfl
  exact ⟨plain, pieces, (cut pieces).mpr rfl, left plain⟩

end Plotter

end Workpad
