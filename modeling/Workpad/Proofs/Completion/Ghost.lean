import Workpad.Proofs.Completion.Typing
import Workpad.Proofs.Text.Ends

/-!
What accepting a completion comes to. The ghost is what the word leaves of the symbol, and behind a
word in one of three casings it completes the text that was offered, letter by letter.
-/
namespace Workpad.Completion
open Text
variable {w s : List Char}

/-- Capitals only, small letters only, or a capital first and none after it. Characters that are no
letters go with each of them. -/
inductive EvenlyCased : List Char → Prop where
  | capitals {w : List Char} (h : ∀ c ∈ w, c.isLower = false) : EvenlyCased w
  | small {w : List Char} (h : ∀ c ∈ w, c.isUpper = false) : EvenlyCased w
  | capitalFirst {c : Char} {r : List Char} (h : c.isUpper = true)
      (rest : ∀ d ∈ r, d.isUpper = false) : EvenlyCased (c :: r)

/-- In these casings a word finds its own characters at the start of the symbol adapted to it. -/
theorem take_adapt (hs : ∀ c ∈ s, isAscii c = true) (hw : ∀ c ∈ w, isAscii c = true)
    (h : begins w s = true) (even : EvenlyCased w) : (adapt w s).take w.length = w := by
  have starts : (lower s).take w.length = lower w := by
    have hp := List.prefix_iff_eq_take.mp ((begins_iff w s).mp h).1
    rw [length_lower (forall_lowersToAscii hw)] at hp
    exact hp.symm
  have raised : (upper s).take w.length = upper w := by
    rw [← upper_lower hs, ← upper_lower hw, ← starts,
      upper_take (forall_lowersToAscii (isAscii_of_mem_lower hs))]
  -- The cases are tried in the order in which `adapt` tries them: a word can be in several casings.
  by_cases hu : upper w = w
  · rw [adapt, if_pos (by simpa using hu), raised, hu]
  by_cases hl : lower w = w
  · rw [adapt, if_neg (by simpa using hu), if_pos (by simpa using hl), starts, hl]
  cases even with
  | capitals h => exact absurd (upper_of_not_isLower hw h) hu
  | small h => exact absurd (lower_of_not_isUpper hw h) hl
  | @capitalFirst c r first rest =>
    obtain ⟨hc, hr⟩ := List.forall_mem_cons.mp hw
    have hrest : lower r = r := lower_of_not_isUpper hr rest
    have capitalized : isCapitalized (c :: r) = true := by
      simp [isCapitalized, isUppercase, hc, first, hrest]
    rw [adapt, if_neg (by simpa using hu), if_neg (by simpa using hl), if_pos capitalized]
    obtain ⟨a, t, rfl⟩ : ∃ a t, s = a :: t :=
      List.exists_cons_of_length_pos ((Nat.zero_le _).trans_lt (word_of_begins hs h).2)
    have first' : a.toUpper = c := by
      rw [upper_eq_map (forall_lowersToAscii hs), upper_eq_map (forall_lowersToAscii hw),
        List.map_cons, List.map_cons, List.length_cons, List.take_succ_cons] at raised
      exact (List.cons.inj raised).1.trans (toUpper_of_isUpper hc first)
    have rest' : (t.map Char.toLower).take r.length = r := by
      rw [lower_of_isAscii hs, lower_of_isAscii hw, List.map_cons, List.map_cons, List.length_cons,
        List.take_succ_cons, ← lower_of_isAscii hr] at starts
      exact (List.cons.inj starts).2.trans hrest
    rw [capitalize_of_isAscii hs, List.length_cons, List.take_succ_cons, first', rest']

/-- The word of a buffer stands at its end, behind a break if anything is before it. -/
theorem activeWord_parts (s : List Char) : ∃ before, s = before ++ activeWord s ∧
    (∀ c ∈ activeWord s, isBreak c = false) ∧ ∀ c ∈ before.getLast?, isBreak c = true := by
  refine ⟨(s.reverse.dropWhile fun c => !isBreak c).reverse, ?_, fun c hc => ?_, fun c hc => ?_⟩
  · rw [activeWord, ← List.reverse_append, List.takeWhile_append_dropWhile, List.reverse_reverse]
  · simpa using List.mem_takeWhile_imp (List.mem_reverse.mp hc)
  · rw [List.getLast?_reverse] at hc
    simpa using stops_dropWhile (fun c => !isBreak c) s.reverse c hc

end Workpad.Completion

namespace Workpad
open Text Completion

def Symbol.isAscii (s : Symbol) : Bool := s.text.toList.all Text.isAscii

/-- In a table of symbols in ASCII the ghost is never empty, the text has as many characters as the
symbol, and word and ghost make the symbol, case aside. Behind a word in ASCII whose casing is not
mixed, the ghost completes the text itself, so the buffer with the ghost shows just that text. -/
theorem ghost_completes_word (table : List Symbol)
    (ascii : ∀ s ∈ table, s.isAscii = true) (buffer : String) (x : Suggestion)
    (h : suggest? table buffer = some x) :
    let w := activeWord buffer.toList
    ∃ before s, buffer.toList = before ++ w ∧ (∀ c ∈ w, isBreak c = false) ∧
      (∀ c ∈ before.getLast?, isBreak c = true) ∧
      table.find? (fun s => begins w s.text.toList) = some s ∧ x.category = s.category ∧
      x.ghost ≠ "" ∧ x.text.length = s.text.length ∧
      lower w ++ lower x.ghost.toList = lower s.text.toList ∧
      ((∀ c ∈ w, isAscii c = true) → EvenlyCased w → x.text.toList = w ++ x.ghost.toList ∧
        (buffer ++ x.ghost).toList = before ++ x.text.toList) := by
  obtain ⟨-, s, found, rfl⟩ := ofWord?_eq_some_iff.mp h
  obtain ⟨before, hbefore, whole, apart⟩ := activeWord_parts buffer.toList
  generalize activeWord buffer.toList = w at found hbefore whole ⊢
  have hs := List.all_eq_true.mp (ascii s (List.mem_of_find?_eq_some found))
  have hb := List.find?_some (p := fun s : Symbol => begins w s.text.toList) found
  refine ⟨before, s, hbefore, whole, apart, found, rfl, fun empty => ?_, ?_, ?_,
    fun hw even => ?_⟩
  · have longer := (word_of_begins hs hb).2
    have none := congrArg (fun g : String => g.toList.length) empty
    simp only [Suggestion.toList_ghost, String.toList_ofList, List.length_drop, length_adapt hs,
      String.toList_empty, List.length_nil] at none
    omega
  · rw [String.length_ofList, length_adapt hs, String.length_toList]
  · rw [Suggestion.toList_ghost, String.toList_ofList]
    exact lower_append_lower_drop hs hb
  · have text := List.take_append_drop w.length (adapt w s.text.toList)
    rw [take_adapt hs hw hb even] at text
    rw [String.toList_append, hbefore, Suggestion.toList_ghost, String.toList_ofList,
      List.append_assoc, text]
    exact ⟨rfl, rfl⟩

/-- Behind one capital no other is offered, so the ghost completes the word as it was typed. -/
theorem ghost_completes_capitalized :
    let x : Suggestion := ⟨"Keyerror", .type, 2⟩
    suggest? [⟨"KeyError", .type⟩] "d[Ke" = some x ∧ activeWord "d[Ke".toList = ['K', 'e'] ∧
      x.text.toList = ['K', 'e'] ++ x.ghost.toList := by
  intro x
  have found : suggest? [⟨"KeyError", .type⟩] "d[Ke" = some x := by decide +kernel
  have word : activeWord "d[Ke".toList = ['K', 'e'] := by decide +kernel
  have completes := ghost_completes_word [⟨"KeyError", .type⟩] (by decide +kernel) "d[Ke" x found
  rw [word] at completes
  obtain ⟨_, _, -, -, -, -, -, -, -, -, shown⟩ := completes
  have even : EvenlyCased ['K', 'e'] := .capitalFirst (by decide) (by simp)
  exact ⟨found, word, (shown (List.all_eq_true.mp rfl) even).1⟩

end Workpad
