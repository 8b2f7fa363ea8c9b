import Mathlib.Algebra.Order.BigOperators.Group.List
import Mathlib.Algebra.Order.Group.Nat
import Mathlib.Logic.Function.Iterate
import Workpad.Completion.Symbols
import Workpad.Proofs.Completion.Casing

/-!
Typing along a completion. As long as what is typed is what was offered, the same completion is
offered, in the same casing; and whoever accepts one completion after another comes to an end.
-/
namespace Workpad

def Symbol.isPlain (s : Symbol) : Bool :=
  s.text.toList.all fun c => Text.isAscii c && !Completion.isBreak c

theorem Symbol.isPlain_iff (s : Symbol) : s.isPlain = true ↔
    (∀ c ∈ s.text.toList, Text.isAscii c = true) ∧
      ∀ c ∈ s.text.toList, Completion.isBreak c = false := by
  simp [isPlain, forall_and]

namespace Completion

def isLetter (c : Char) : Bool := c.isAlpha || c == '_'

theorem isAscii_of_isLetter {c : Char} (h : isLetter c = true) : Text.isAscii c = true := by
  rw [Text.isAscii_iff]
  rw [isLetter, Bool.or_eq_true, beq_iff_eq] at h
  obtain h | rfl := h
  · change c.val.toNat < 128
    obtain upper | lower : c.isUpper = true ∨ c.isLower = true := (Bool.or_eq_true _ _).mp h
    · have most : c.val.toNat ≤ 'Z'.val.toNat :=
        UInt32.le_iff_toNat_le.mp (of_decide_eq_true upper).2
      exact Nat.lt_of_le_of_lt most (by decide)
    · have most : c.val.toNat ≤ 'z'.val.toNat :=
        UInt32.le_iff_toNat_le.mp (of_decide_eq_true ((Bool.and_eq_true _ _).mp lower).2)
      exact Nat.lt_of_le_of_lt most (by decide)
  · decide

theorem isPlain_of_letters {s : Symbol} (h : s.text.toList.all isLetter = true) :
    s.isPlain = true := by
  rw [List.all_eq_true] at h
  refine s.isPlain_iff.mpr ⟨fun c hc => isAscii_of_isLetter (h c hc), fun c hc => ?_⟩
  exact Text.forall_isAscii (P := fun c => isLetter c = true → isBreak c = false)
    (by decide +kernel) (isAscii_of_isLetter (h c hc)) (h c hc)

theorem pythonSymbols_isPlain : ∀ s ∈ pythonSymbols, s.isPlain = true := by
  have letters : ∀ s ∈ pythonSymbols, s.text.toList.all isLetter = true := by
    decide +kernel
  exact fun s hs => isPlain_of_letters (letters s hs)

theorem ofWord?_eq_some_iff {table : List Symbol} {w : List Char} {x : Suggestion} :
    ofWord? table w = some x ↔ w ≠ [] ∧ ∃ s,
      table.find? (fun s => begins w s.text.toList) = some s ∧
        x = ⟨String.ofList (adapt w s.text.toList), s.category, w.length⟩ := by
  cases w with
  | nil => simp [ofWord?]
  | cons c r =>
    rw [ofWord?, if_neg (by simp), Option.map_eq_some_iff]
    simp [eq_comm]

theorem activeWord_append {s p : List Char} (h : ∀ c ∈ p, isBreak c = false) :
    activeWord (s ++ p) = activeWord s ++ p := by
  have hr : ∀ c ∈ p.reverse, (!isBreak c) = true := fun c hc => by
    simp [h c (List.mem_reverse.mp hc)]
  rw [activeWord, List.reverse_append, List.takeWhile_append_of_pos hr, List.reverse_append,
    List.reverse_reverse, activeWord]

end Completion

theorem Suggestion.toList_ghost (x : Suggestion) : x.ghost.toList = x.text.toList.drop x.typed := by
  simp [ghost]

namespace Completion
variable {table : List Symbol} {x y : Suggestion} {w p q : List Char}

/-- The word goes on as offered, and the same is offered. -/
theorem ofWord?_append (plain : ∀ s ∈ table, s.isPlain = true) (h : ofWord? table w = some x)
    (hp : x.ghost.toList = p ++ q) (hq : q ≠ []) :
    ofWord? table (w ++ p) = some { x with typed := x.typed + p.length } := by
  obtain ⟨hne, s, found, rfl⟩ := ofWord?_eq_some_iff.mp h
  have ascii := ((Symbol.isPlain_iff s).mp (plain s (List.mem_of_find?_eq_some found))).1
  obtain ⟨hb, before, after, rfl, earlier⟩ := List.find?_eq_some_iff_append.mp found
  have hw := (word_of_begins ascii hb).1
  rw [Suggestion.toList_ghost, String.toList_ofList] at hp
  have hmem : ∀ c ∈ p, c ∈ (adapt w s.text.toList).drop w.length := fun c hc => by simp [hp, hc]
  have hpl := Text.forall_lowersToAscii fun c hc =>
    isAscii_of_mem_drop_adapt ascii w.length c (hmem c hc)
  refine ofWord?_eq_some_iff.mpr ⟨by simp [hne], s, ?_, ?_⟩
  · refine List.find?_eq_some_iff_append.mpr
      ⟨begins_append ascii hb hp hq, before, after, rfl, fun a ha => ?_⟩
    have not : ¬ begins w a.text.toList = true := by simpa using earlier a ha
    simpa using fun longer => not (begins_of_append hw hpl longer)
  · simp [adapt_append ascii hw hne hmem]

theorem exists_of_ofWord? (plain : ∀ s ∈ table, s.isPlain = true) (h : ofWord? table w = some x) :
    ∃ s ∈ table, w.length < s.text.length ∧ x.text.length = s.text.length ∧
      x.typed = w.length := by
  obtain ⟨-, s, found, rfl⟩ := ofWord?_eq_some_iff.mp h
  have hm := List.mem_of_find?_eq_some found
  have ascii := ((Symbol.isPlain_iff s).mp (plain s hm)).1
  have hb := List.find?_some (p := fun s : Symbol => begins w s.text.toList) found
  refine ⟨s, hm, ?_, ?_, rfl⟩
  · rw [← String.length_toList]
    exact (word_of_begins ascii hb).2
  · rw [String.length_ofList, length_adapt ascii, String.length_toList]

/-- Behind the whole of what was offered, only something longer is offered. -/
theorem length_of_ofWord?_append (plain : ∀ s ∈ table, s.isPlain = true)
    (h : ofWord? table w = some x) (hy : ofWord? table (w ++ x.ghost.toList) = some y) :
    x.text.length < y.text.length := by
  obtain ⟨s, -, hlt, hs, typed⟩ := exists_of_ofWord? plain h
  obtain ⟨s', -, hlt', hs', -⟩ := exists_of_ofWord? plain hy
  rw [List.length_append, Suggestion.toList_ghost, List.length_drop, String.length_toList] at hlt'
  omega

theorem isBreak_of_mem_ghost (plain : ∀ s ∈ table, s.isPlain = true)
    (h : ofWord? table w = some x) : ∀ c ∈ x.ghost.toList, isBreak c = false := by
  obtain ⟨-, s, found, rfl⟩ := ofWord?_eq_some_iff.mp h
  obtain ⟨ascii, whole⟩ := (Symbol.isPlain_iff s).mp (plain s (List.mem_of_find?_eq_some found))
  intro c hc
  rw [Suggestion.toList_ghost, String.toList_ofList] at hc
  exact isBreak_of_mem_adapt ascii whole c (List.mem_of_mem_drop hc)

end Completion

section Typing
variable {table : List Symbol} {buffer : String} {x y : Suggestion}

/-- Some of the ghost typed behind the buffer is typed behind the word. -/
theorem suggest?_append (plain : ∀ s ∈ table, s.isPlain = true) (h : suggest? table buffer = some x)
    {p q : String} (hp : x.ghost = p ++ q) : suggest? table (buffer ++ p) =
      Completion.ofWord? table (Completion.activeWord buffer.toList ++ p.toList) := by
  rw [suggest?, String.toList_append, Completion.activeWord_append]
  intro c hc
  refine Completion.isBreak_of_mem_ghost plain h c ?_
  rw [hp, String.toList_append]
  exact List.mem_append_left _ hc

theorem suggest?_typed (plain : ∀ s ∈ table, s.isPlain = true) (h : suggest? table buffer = some x)
    {p q : String} (hp : x.ghost = p ++ q) (hq : q ≠ "") :
    suggest? table (buffer ++ p) = some { x with typed := x.typed + p.length } := by
  rw [suggest?_append plain h hp, ← String.length_toList]
  refine Completion.ofWord?_append plain h (q := q.toList) ?_ ?_
  · rw [hp, String.toList_append]
  · simpa using hq

theorem length_of_suggest?_ghost (plain : ∀ s ∈ table, s.isPlain = true)
    (h : suggest? table buffer = some x) (hy : suggest? table (buffer ++ x.ghost) = some y) :
    x.text.length < y.text.length := by
  rw [suggest?_append plain h (String.append_empty).symm] at hy
  exact Completion.length_of_ofWord?_append plain h hy

def acceptSuggestion (table : List Symbol) (buffer : String) : String :=
  buffer ++ ((suggest? table buffer).map Suggestion.ghost).getD ""

/-- The induction is on what a text offered next could have beyond the one offered now. -/
theorem exists_accepted_of_room (plain : ∀ s ∈ table, s.isPlain = true) {bound : Nat}
    (hbound : ∀ s ∈ table, s.text.length ≤ bound) (room : Nat) (h : suggest? table buffer = some x)
    (hroom : bound < x.text.length + room) :
    ∃ n, suggest? table ((acceptSuggestion table)^[n] buffer) = none := by
  induction room generalizing buffer x with
  | zero =>
    obtain ⟨s, hs, -, hl, -⟩ := Completion.exists_of_ofWord? plain h
    have hle := hbound s hs
    omega
  | succ room ih =>
    have next : acceptSuggestion table buffer = buffer ++ x.ghost := by simp [acceptSuggestion, h]
    cases hy : suggest? table (buffer ++ x.ghost) with
    | none => exact ⟨1, by rw [Function.iterate_one, next, hy]⟩
    | some y =>
      have longer := length_of_suggest?_ghost plain h hy
      obtain ⟨n, hn⟩ := ih hy (by omega)
      exact ⟨n + 1, by rw [Function.iterate_succ_apply, next, hn]⟩

/-- Accepting one completion after another comes to an end, as each is longer than the one before
and none is longer than the symbols. -/
theorem exists_accepted (plain : ∀ s ∈ table, s.isPlain = true) (buffer : String) :
    ∃ n, suggest? table ((acceptSuggestion table)^[n] buffer) = none := by
  obtain ⟨bound, hbound⟩ : ∃ n, ∀ s ∈ table, s.text.length ≤ n :=
    ⟨(table.map fun s => s.text.length).sum,
      fun s hs => List.le_sum_of_mem (List.mem_map_of_mem hs)⟩
  cases h : suggest? table buffer with
  | none => exact ⟨0, h⟩
  | some x => exact exists_accepted_of_room plain hbound (bound + 1) h (by omega)

/-- In a table of plain symbols, as the Python symbols are: while the ghost is typed, the same text of
the same category is offered and the ghost is what is left of it; once all of it has been typed,
anything that is offered is longer. So accepting completions comes to an end. -/
theorem typing_keeps_suggestion : (∀ s ∈ Completion.pythonSymbols, s.isPlain = true) ∧
    ∀ table : List Symbol, (∀ s ∈ table, s.isPlain = true) → ∀ buffer,
      (∀ x, suggest? table buffer = some x →
        (∀ p q, x.ghost = p ++ q → q ≠ "" → ∃ y, suggest? table (buffer ++ p) = some y ∧
          y.text = x.text ∧ y.category = x.category ∧ y.ghost = q) ∧
        ∀ y, suggest? table (buffer ++ x.ghost) = some y → x.text.length < y.text.length) ∧
      ∃ n, suggest? table ((acceptSuggestion table)^[n] buffer) = none := by
  refine ⟨Completion.pythonSymbols_isPlain, fun table plain buffer =>
    ⟨fun x h => ⟨fun p q hp hq => ?_, ?_⟩, exists_accepted plain buffer⟩⟩
  · refine ⟨_, suggest?_typed plain h hp hq, rfl, rfl, ?_⟩
    rw [← String.toList_inj, Suggestion.toList_ghost, ← List.drop_drop,
      ← Suggestion.toList_ghost, hp, String.toList_append, ← String.length_toList,
      List.drop_left]
  · exact fun y hy => length_of_suggest?_ghost plain h hy

/-- A word that begins with the Kelvin sign is capitalized, and stays so. -/
theorem typing_after_kelvin :
    suggest? Completion.pythonSymbols "x = \u212Aey" = some ⟨"Keyerror", .type, 3⟩ ∧
      ∃ y, suggest? Completion.pythonSymbols ("x = \u212Aey" ++ "err") = some y ∧
        y.text = "Keyerror" ∧ y.category = .type ∧ y.ghost = "or" := by
  have found : suggest? Completion.pythonSymbols "x = \u212Aey" =
      some ⟨"Keyerror", .type, 3⟩ := by decide +kernel
  have stable := typing_keeps_suggestion.2 Completion.pythonSymbols
    Completion.pythonSymbols_isPlain "x = \u212Aey"
  exact ⟨found, (stable.1 _ found).1 "err" "or" (by decide +kernel) (by decide +kernel)⟩

end Typing

end Workpad
