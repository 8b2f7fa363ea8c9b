import Mathlib.Data.List.Induction
import Workpad.Text.Case

/-!
Lower-casing the beginning of a text. Only a capital sigma sees what follows it: it is final if nothing
cased does. So the lower case of a beginning begins the lower case of the whole, unless the text was
cut behind a sigma that goes on.
-/
namespace Workpad.Text

/-- `startsCased` of a text with more behind it; `next` says whether that starts cased. -/
def startsCasedBefore (next : Bool) (s : List Char) : Bool :=
  if s.all isCaseIgnorable then next else startsCased s

theorem startsCased_cons (c : Char) (s : List Char) :
    startsCased (c :: s) = if isCaseIgnorable c then startsCased s else isCased c := by
  cases h : isCaseIgnorable c <;> simp [startsCased, h]

theorem startsCased_append (s q : List Char) :
    startsCased (s ++ q) = startsCasedBefore (startsCased q) s := by
  induction s with
  | nil => rfl
  | cons c s ih =>
    rw [List.cons_append, startsCased_cons, ih, startsCasedBefore, startsCasedBefore,
      startsCased_cons, List.all_cons]
    cases isCaseIgnorable c <;> rfl

theorem startsCasedBefore_append (next : Bool) (p q : List Char) :
    startsCasedBefore next (p ++ q) = startsCasedBefore (startsCasedBefore next q) p := by
  rw [startsCasedBefore, startsCased_append, List.all_append, startsCasedBefore, startsCasedBefore,
    startsCasedBefore]
  cases p.all isCaseIgnorable <;> rfl

/-- Whether the last character that counts is cased, once `s` has been passed. -/
def casedAfter (after : Bool) (s : List Char) : Bool :=
  s.foldl (fun b c => if isCaseIgnorable c then b else isCased c) after

def lowerBefore (next after : Bool) : List Char → List Char
  | [] => []
  | c :: r =>
    let here :=
      if c == 'Σ' then [if after && !startsCasedBefore next r then 'ς' else 'σ'] else lowerChar c
    here ++ lowerBefore next (if isCaseIgnorable c then after else isCased c) r

theorem lowerFrom_append (after : Bool) (p q : List Char) : lowerFrom after (p ++ q) =
    lowerBefore (startsCased q) after p ++ lowerFrom (casedAfter after p) q := by
  induction p generalizing after with
  | nil => rfl
  | cons c p ih =>
    rw [List.cons_append, lowerFrom, ih, startsCased_append, lowerBefore, casedAfter, casedAfter,
      List.foldl_cons, List.append_assoc]

theorem lowerBefore_append (next after : Bool) (p q : List Char) : lowerBefore next after (p ++ q) =
    lowerBefore (startsCasedBefore next q) after p ++ lowerBefore next (casedAfter after p) q := by
  induction p generalizing after with
  | nil => rfl
  | cons c p ih =>
    rw [List.cons_append, lowerBefore, ih, startsCasedBefore_append, lowerBefore, casedAfter,
      casedAfter, List.foldl_cons, List.append_assoc]

/-- With nothing behind it, that is its lower case. -/
theorem lowerBefore_false (p : List Char) : lowerBefore false false p = lower p := by
  have whole := lowerFrom_append false p []
  rw [List.append_nil, lowerFrom, List.append_nil] at whole
  exact whole.symm

/-- What follows changes a sigma, but not how long it is. -/
theorem length_lowerBefore (next after : Bool) (p : List Char) :
    (lowerBefore next after p).length = (lowerBefore false after p).length := by
  induction p generalizing after with
  | nil => rfl
  | cons c p ih =>
    rw [lowerBefore, lowerBefore, List.length_append, List.length_append, ih]
    congr 1
    split <;> rfl

/-- There is a capital sigma that would be final where the text ends: a cased character stands before
it, and nothing that counts behind it. -/
def endsInSigma (s : List Char) : Bool :=
  match s.reverse.dropWhile isCaseIgnorable with
  | 'Σ' :: before => startsCased before
  | _ => false

theorem mem_of_endsInSigma {s : List Char} (h : endsInSigma s = true) : 'Σ' ∈ s := by
  unfold endsInSigma at h
  split at h
  next before hd =>
    have here : 'Σ' ∈ s.reverse.dropWhile isCaseIgnorable := by rw [hd]; exact List.mem_cons_self
    exact List.mem_reverse.mp ((List.dropWhile_sublist _).subset here)
  next => contradiction

theorem casedAfter_false (s : List Char) : casedAfter false s = startsCased s.reverse := by
  induction s using List.reverseRecOn with
  | nil => rfl
  | append_singleton s c ih =>
    rw [List.reverse_append, List.reverse_singleton, List.singleton_append, startsCased_cons, ← ih,
      casedAfter, List.foldl_append]
    rfl

theorem endsInSigma_concat (s : List Char) (c : Char) : endsInSigma (s ++ [c]) =
    if isCaseIgnorable c then endsInSigma s else c == 'Σ' && startsCased s.reverse := by
  rw [endsInSigma, List.reverse_append, List.reverse_singleton, List.singleton_append,
    List.dropWhile_cons]
  cases isCaseIgnorable c with
  | true => rfl
  | false =>
    by_cases h : c = 'Σ'
    · subst h
      rfl
    · simp [h]

theorem sigma_counts : isCaseIgnorable 'Σ' = false := by
  decide +kernel

/-- Something cased behind a text changes its lower case just if it ends in a sigma. -/
theorem lowerBefore_true_iff (p : List Char) :
    lowerBefore true false p = lower p ↔ endsInSigma p = false := by
  rw [← lowerBefore_false]
  induction p using List.reverseRecOn with
  | nil => simp [lowerBefore, endsInSigma]
  | append_singleton p c ih =>
    rw [lowerBefore_append, lowerBefore_append, endsInSigma_concat, casedAfter_false]
    cases h : isCaseIgnorable c with
    | true =>
      have sigma : c ≠ 'Σ' := by
        rintro rfl
        rw [sigma_counts] at h
        contradiction
      simp [startsCasedBefore, h, lowerBefore, sigma, ih]
    | false =>
      obtain rfl | sigma := Decidable.em (c = 'Σ')
      · simp [startsCasedBefore, h, lowerBefore]
      · simp [startsCasedBefore, h, lowerBefore, sigma]

theorem lowerChar_ne_nil (c : Char) : lowerChar c ≠ [] := by
  unfold lowerChar
  split
  · exact List.cons_ne_nil _ _
  · cases he : lowerExpansions.lookup c.toNat with
    | some image =>
      have filled : ∀ e ∈ lowerExpansions, e.2 ≠ [] := by decide
      obtain ⟨before, after, hl, -⟩ := List.lookup_eq_some_iff.mp he
      have here := filled (c.toNat, image) (by simp [hl])
      simpa using here
    | none => exact List.cons_ne_nil _ _

theorem lowerFrom_ne_nil (after : Bool) {s : List Char} (h : s ≠ []) : lowerFrom after s ≠ [] := by
  obtain ⟨c, s, rfl⟩ := List.exists_cons_of_ne_nil h
  rw [lowerFrom]
  split
  · exact List.cons_ne_nil _ _
  · exact List.append_ne_nil_of_left_ne_nil (lowerChar_ne_nil c) _

/-- The lower case of a beginning begins the lower case of the whole, unless a sigma is cut off there
from something cased. -/
theorem lower_prefix_append_iff (p q : List Char) :
    lower p <+: lower (p ++ q) ↔ (endsInSigma p && startsCased q) = false := by
  have whole : lower (p ++ q) = _ := lowerFrom_append false p q
  have length := length_lowerBefore (startsCased q) false p
  rw [lowerBefore_false] at length
  have begins : lower p <+: lower (p ++ q) ↔ lowerBefore (startsCased q) false p = lower p := by
    rw [whole]
    constructor
    · intro h
      have first := List.prefix_of_prefix_length_le h (List.prefix_append _ _)
        (Nat.le_of_eq length.symm)
      exact (first.eq_of_length length.symm).symm
    · intro h
      rw [h]
      exact List.prefix_append _ _
  rw [begins]
  cases startsCased q with
  | true => rw [lowerBefore_true_iff, Bool.and_true]
  | false => simp [lowerBefore_false]

theorem lower_append_ne (p : List Char) {q : List Char} (h : q ≠ []) :
    lower (p ++ q) ≠ lower p := by
  have whole : lower (p ++ q) = _ := lowerFrom_append false p q
  have length := length_lowerBefore (startsCased q) false p
  rw [lowerBefore_false] at length
  have more := List.length_pos_iff.mpr (lowerFrom_ne_nil (casedAfter false p) h)
  intro same
  rw [whole] at same
  have same := congrArg List.length same
  rw [List.length_append] at same
  omega

end Workpad.Text
