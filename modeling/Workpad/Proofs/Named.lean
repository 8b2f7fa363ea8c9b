/-!
Things kept by name: what is found after one of them was removed, or put in the place of another, and
what is picked of those that have one name.
-/
namespace Workpad

section
variable {κ α : Type} [BEq κ] [LawfulBEq κ] [DecidableEq κ]

theorem lookup_filter_ne (l : List (κ × α)) (a b : κ) :
    (l.filter (·.1 != a)).lookup b = if b = a then none else l.lookup b := by
  induction l with
  | nil => simp
  | cons x l ih =>
    obtain ⟨k, v⟩ := x
    rw [List.filter_cons, List.lookup_cons]
    by_cases hk : k = a
    · subst hk
      by_cases hb : b = k
      · simpa [hb] using ih
      · have hf : (b == k) = false := by simpa using hb
        simpa [hb, hf] using ih
    · by_cases hb : b = k
      · simp [hk, hb]
      · have hf : (b == k) = false := by simpa using hb
        simpa [hk, hf, List.lookup_cons] using ih

theorem lookup_replaced (l : List (κ × α)) (a b : κ) (x : α) :
    ((a, x) :: l.filter (·.1 != a)).lookup b = if b = a then some x else l.lookup b := by
  rw [List.lookup_cons, lookup_filter_ne]
  by_cases h : b = a
  · simp [h]
  · have hf : (b == a) = false := by simpa using h
    simp [h, hf]

end

theorem filterMap_named {κ α : Type} (p : κ → Prop) [DecidablePred p] (k : κ) (as : List α) :
    (as.map (k, ·)).filterMap (fun x => if p x.1 then some x.2 else none) =
      if p k then as else [] := by
  have each : (fun x : κ × α => if p x.1 then some x.2 else none) ∘ (k, ·) =
      if p k then some else fun _ => none := by
    funext a
    by_cases h : p k <;> simp [h]
  rw [List.filterMap_map, each]
  split
  next => exact List.filterMap_some
  next => exact List.filterMap_eq_nil_iff.mpr fun _ _ => rfl

end Workpad
