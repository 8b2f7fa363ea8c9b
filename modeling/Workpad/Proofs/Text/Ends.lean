import Mathlib.Data.List.DropRight
import Workpad.Text.Blank

/-!
The ends of a text. Trimming takes away the white space there and nothing that has other characters
on both sides, so white space put at the ends goes again, and text in front of a character that is
not blank stays.
-/
namespace Workpad.Text
variable {s t w : List Char}

def StartsSolid (s : List Char) : Prop := ∀ c ∈ s.head?, isBlank c = false

def EndsSolid (s : List Char) : Prop := ∀ c ∈ s.getLast?, isBlank c = false

/-- Whatever follows begins a line. -/
def EndsLine (s : List Char) : Prop := ∀ c ∈ s.getLast?, c = '\n'

theorem allBlank_append (s t : List Char) : allBlank (s ++ t) = (allBlank s && allBlank t) :=
  List.all_append

theorem allBlank_reverse (s : List Char) : allBlank s.reverse = allBlank s := List.all_reverse

theorem not_allBlank_of_startsSolid (h : StartsSolid s) (hne : s ≠ []) : allBlank s = false := by
  obtain ⟨c, r, rfl⟩ := List.exists_cons_of_ne_nil hne
  have hc : isBlank c = false := h c rfl
  simp [allBlank, hc]

theorem EndsLine.append (hs : EndsLine s) (ht : EndsLine t) : EndsLine (s ++ t) := by
  intro c hc
  rw [List.getLast?_append, Option.mem_def, Option.or_eq_some_iff] at hc
  obtain hc | ⟨-, hc⟩ := hc
  · exact ht c hc
  · exact hs c hc

theorem endsLine_of_getLast? (h : s.getLast? = some '\n') : EndsLine s := fun _ hc =>
  Option.some.inj (hc.symm.trans h)

theorem endsLine_concat (s : List Char) : EndsLine (s ++ ['\n']) :=
  endsLine_of_getLast? List.getLast?_concat

/-! The start. -/

/-- What is dropped from the start is dropped as far as it goes. -/
theorem stops_dropWhile (p : Char → Bool) (s : List Char) :
    ∀ c ∈ (s.dropWhile p).head?, p c = false := by
  intro c hc
  have stops := List.head?_dropWhile_not p s
  rw [Option.mem_def] at hc
  simpa [hc] using stops

theorem trimStart_append_of_allBlank (h : allBlank w = true) (s : List Char) :
    trimStart (w ++ s) = trimStart s :=
  List.dropWhile_append_of_pos (List.all_eq_true.mp h)

theorem trimStart_append (h : allBlank s = false) (t : List Char) :
    trimStart (s ++ t) = trimStart s ++ t := by
  have left : ¬ (s.dropWhile isBlank).isEmpty = true := by
    intro he
    have none := (trimStart_eq_nil_iff s).mp (List.isEmpty_iff.mp he)
    rw [h] at none
    exact Bool.false_ne_true none
  rw [trimStart, List.dropWhile_append, if_neg left]
  rfl

theorem startsSolid_trimStart (s : List Char) : StartsSolid (trimStart s) :=
  stops_dropWhile isBlank s

theorem trimStart_of_startsSolid (h : StartsSolid s) : trimStart s = s := by
  cases s with
  | nil => rfl
  | cons c r =>
    have hc : isBlank c = false := h c rfl
    simp [trimStart, hc]

/-! The end, which is the start of the text read backwards. -/

theorem trimEnd_append_of_allBlank (s : List Char) (h : allBlank w = true) :
    trimEnd (s ++ w) = trimEnd s := by
  have hr : allBlank w.reverse = true := (allBlank_reverse w).trans h
  calc
    trimEnd (s ++ w) = (trimStart (w.reverse ++ s.reverse)).reverse := by
      rw [← List.reverse_append]
      rfl
    _ = trimEnd s := by
      rw [trimStart_append_of_allBlank hr]
      rfl

theorem trimEnd_append (s : List Char) (h : allBlank t = false) :
    trimEnd (s ++ t) = s ++ trimEnd t := by
  have hr : allBlank t.reverse = false := (allBlank_reverse t).trans h
  calc
    trimEnd (s ++ t) = (trimStart (t.reverse ++ s.reverse)).reverse := by
      rw [← List.reverse_append]
      rfl
    _ = s ++ trimEnd t := by
      rw [trimStart_append hr, List.reverse_append, List.reverse_reverse]
      rfl

theorem endsSolid_trimEnd (s : List Char) : EndsSolid (trimEnd s) := by
  intro c hc
  rw [trimEnd, List.getLast?_reverse] at hc
  exact startsSolid_trimStart s.reverse c hc

theorem trimEnd_of_endsSolid (h : EndsSolid s) : trimEnd s = s := by
  have hr : StartsSolid s.reverse := fun c hc => h c (by rwa [List.head?_reverse] at hc)
  have ht := congrArg List.reverse (trimStart_of_startsSolid hr)
  rwa [List.reverse_reverse] at ht

/-! Both ends. -/

theorem trim_of_solid (hs : StartsSolid s) (he : EndsSolid s) : trim s = s := by
  rw [trim, trimStart_of_startsSolid hs, trimEnd_of_endsSolid he]

theorem startsSolid_trim (s : List Char) : StartsSolid (trim s) := by
  obtain ⟨w, hw⟩ : trim s <+: trimStart s :=
    List.rdropWhile_prefix isBlank (trimStart s)
  intro c hc
  apply startsSolid_trimStart s c
  rw [← hw, List.head?_append, hc]
  rfl

theorem trim_eq_nil_iff (s : List Char) : trim s = [] ↔ allBlank s = true := by
  constructor
  · intro h
    have hb : allBlank (trimStart s) = true :=
      List.all_eq_true.mpr (List.rdropWhile_eq_nil_iff.mp h)
    by_contra hne
    rw [← trimStart_eq_nil_iff] at hne
    simp [not_allBlank_of_startsSolid (startsSolid_trimStart s) hne] at hb
  · intro h
    rw [trim, (trimStart_eq_nil_iff s).mpr h]
    rfl

/-- White space around a text does not matter to what is left of it. -/
theorem trim_pad {u v : List Char} (hu : allBlank u = true) (hv : allBlank v = true)
    (s : List Char) : trim (u ++ s ++ v) = trim s := by
  rw [List.append_assoc, trim, trimStart_append_of_allBlank hu]
  cases hs : allBlank s with
  | true =>
    have both : allBlank (s ++ v) = true := by rw [allBlank_append, hs, hv]; rfl
    rw [(trimStart_eq_nil_iff _).mpr both, (trim_eq_nil_iff s).mpr hs]
    rfl
  | false => rw [trimStart_append hs, trimEnd_append_of_allBlank _ hv, trim]

end Workpad.Text
