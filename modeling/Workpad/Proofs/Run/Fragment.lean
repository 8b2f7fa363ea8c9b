import Workpad.Proofs.Text.Ends
import Workpad.Report

/-!
The fragment of a run. All output stands in it as it was written, closed line by line, and a value or
a fault behind it on a line of its own; trimming only ever reaches the end of that last part.
-/
namespace Workpad.Report
open Text

theorem endsLine_closeLine (s : List Char) : EndsLine (closeLine s) := by
  unfold closeLine
  split
  next closed => exact endsLine_of_getLast? (beq_iff_eq.mp closed)
  next => exact endsLine_concat s

theorem endsLine_body (r : Report) : EndsLine r.body := by
  obtain ⟨output, outcome⟩ := r
  induction output with
  | nil => simp [body, EndsLine]
  | cons c output ih => exact (endsLine_closeLine c.text.toList).append ih

/-- Every message starts with a letter. -/
theorem exists_message (f : Fault) :
    ∃ c r, f.message.toList = c :: r ∧ isBlank c = false ∧ c ≠ '<' := by
  cases f with
  | notLoaded => exact ⟨'E', _, rfl, by decide, by decide⟩
  | dependency m => exact ⟨'D', _, String.toList_append, by decide, by decide⟩
  | evaluation m => exact ⟨'P', _, String.toList_append, by decide, by decide⟩

theorem not_allBlank_message (f : Fault) : allBlank f.message.toList = false := by
  obtain ⟨c, r, hm, hc, -⟩ := exists_message f
  simp [hm, allBlank, hc]

def bareMark : List Char := "<--".toList

theorem not_bareMark_prefix (f : Fault) : ¬ bareMark <+: trimEnd f.message.toList := by
  obtain ⟨c, r, hm, -, hc⟩ := exists_message f
  intro h
  obtain ⟨rest, hr⟩ := h.trans (List.rdropWhile_prefix isBlank _)
  rw [hm] at hr
  exact hc (List.cons.inj hr).1.symm

/-- A value that is blank leaves the bare mark, and no value leaves less. -/
theorem trimEnd_value (v : List Char) : trimEnd (valueMark.toList ++ v) =
    if allBlank v = true then bareMark else valueMark.toList ++ trimEnd v := by
  split
  next blank =>
    have mark : valueMark.toList = bareMark ++ [' '] := rfl
    have rest : allBlank (' ' :: v) = true := blank
    rw [mark, List.append_assoc, List.singleton_append, trimEnd_append_of_allBlank _ rest]
    rfl
  next solid => exact trimEnd_append _ (Bool.eq_false_iff.mpr solid)

theorem not_allBlank_value (v : List Char) : allBlank (valueMark.toList ++ v) = false := by
  rw [allBlank_append]
  rfl

/-- Only where there is neither a value nor a fault can trimming reach the output. -/
theorem toList_fragment (r : Report) : r.fragment.toList =
    match r.outcome with
    | .ok (some v) => r.body ++
        if allBlank v.toList = true then bareMark else valueMark.toList ++ trimEnd v.toList
    | .ok none => trimEnd r.body
    | .error f => r.body ++ trimEnd f.message.toList := by
  obtain ⟨output, outcome⟩ := r
  rw [fragment, String.toList_ofList]
  match outcome with
  | .ok none => rw [ending, List.append_nil]
  | .ok (some v) => rw [ending, trimEnd_append _ (not_allBlank_value v.toList), trimEnd_value]
  | .error f => rw [ending, trimEnd_append _ (not_allBlank_message f)]

/-- The fragment is the output, every chunk closed by a newline, and behind it the value or the
fault. Trimming goes no further than that last part, so with a value or a fault the output is there
word for word, and what follows it begins a line. -/
theorem fragment_keeps_output (r : Report) :
    let body := r.output.flatMap fun c =>
      if c.text.toList.getLast? = some '\n' then c.text.toList else c.text.toList ++ ['\n']
    (r.fragment.toList =
      match r.outcome with
      | .ok (some v) => body ++
          if allBlank v.toList = true then "<--".toList else "<-- ".toList ++ trimEnd v.toList
      | .ok none => trimEnd body
      | .error f => body ++ trimEnd f.message.toList) ∧
    (r.outcome ≠ .ok none → body <+: r.fragment.toList) ∧ EndsLine body ∧
    (∀ v, r.value? = some v ↔ r.outcome = .ok (some v)) ∧
    (∀ f, r.fault? = some f ↔ r.outcome = .error f) ∧
    (r.value? = none ∨ r.fault? = none) ∧
    (∀ f, r.fault? = some f → ¬ "<--".toList <+: trimEnd f.message.toList) ∧
    EndsSolid r.fragment.toList := by
  intro body
  have same : body = r.body := by simp [body, Report.body, closeLine]
  have whole := toList_fragment r
  rw [← same] at whole
  refine ⟨whole, fun ends => ?_, same ▸ endsLine_body r, fun v => ?_, fun f => ?_, ?_,
    fun f _ => not_bareMark_prefix f, ?_⟩
  · match ho : r.outcome with
    | .ok none => exact absurd ho ends
    | .ok (some v) => simp only [whole, ho, List.prefix_append]
    | .error f => simp only [whole, ho, List.prefix_append]
  · match ho : r.outcome with
    | .ok none | .ok (some _) | .error _ => simp [value?, ho, Except.toOption]
  · match ho : r.outcome with
    | .ok _ | .error _ => simp [fault?, ho]
  · match ho : r.outcome with
    | .ok _ => simp [fault?, ho]
    | .error _ => simp [value?, ho, Except.toOption]
  · rw [fragment, String.toList_ofList]
    exact endsSolid_trimEnd _

end Workpad.Report
