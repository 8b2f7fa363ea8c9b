import Workpad.Plot.Plotter

/-!
What preparing code and tidying up after it come to when the slot is free and the ids to come are new:
code that plots leaves one more target without controls, and the slot is free again.
-/
namespace Workpad

namespace Transcript
variable {id : TargetId} {f : Target → Target}

theorem ids_changeFirst (id : TargetId) (hf : ∀ x, (f x).id = x.id) (es : List Entry) :
    ((changeFirst id f es).filterMap Entry.target?).map Target.id =
      (es.filterMap Entry.target?).map Target.id := by
  induction es with
  | nil => rfl
  | cons e es ih =>
    cases e with
    | target x =>
      by_cases hx : x.id = id
      · simp [changeFirst, hx, Entry.target?, hf]
      · simpa [changeFirst, hx, Entry.target?] using ih
    | echo _ | fragment _ => exact ih

theorem changeFirst_concat {es : List Entry} (h : ∀ x ∈ es.filterMap Entry.target?, x.id ≠ id)
    {x : Target} (hx : x.id = id) :
    changeFirst id f (es ++ [.target x]) = es ++ [.target (f x)] := by
  induction es with
  | nil => simp [changeFirst, hx]
  | cons e es ih =>
    cases e with
    | target y =>
      have hy : y.id ≠ id := h y (by simp [Entry.target?])
      have ih := ih fun z hz => h z (by simp [Entry.target?, hz])
      simp [changeFirst, hy, ih]
    | echo _ | fragment _ =>
      have ih := ih fun z hz => h z hz
      simp [changeFirst, ih]

end Transcript

namespace Plotter
variable {p : Plotter} {t : Transcript} {code : String}

/-- The slot is free, and no target has an id that the supply is still to give. -/
structure Fresh (p : Plotter) (t : Transcript) : Prop where
  free : p.slot.holder = none
  ids : ∀ x ∈ t.targets, ∀ n, p.minted ≤ n → x.id ≠ p.supply.id n

/-- Code gets a target of its own just if it plots and nobody holds the slot. -/
theorem prepare_eq (p : Plotter) (code : String) (t : Transcript) : p.prepare code t =
    if p.detects code = true ∧ p.slot.holder = none then
      (⟨p.redirect p.nextId code, some p.nextId⟩, { p.mint with slot := ⟨some p.nextId⟩ },
        t.attachTarget { id := p.nextId })
    else ({ code }, p, t) := by
  cases hd : p.detects code with
  | false => simp [prepare, hd]
  | true => cases hs : p.slot.holder <;> simp [prepare, hd, Slot.claim, hs]

def after (p : Plotter) (code : String) : Plotter := if p.detects code then p.mint else p

theorem prepare_of_detects (h : p.slot.holder = none) (hd : p.detects code = true) :
    p.prepare code t = (⟨p.redirect p.nextId code, some p.nextId⟩,
      { p.mint with slot := ⟨some p.nextId⟩ }, t.attachTarget { id := p.nextId }) := by
  rw [prepare_eq, if_pos ⟨hd, h⟩]

theorem prepare_of_not_detects (hd : p.detects code = false) :
    p.prepare code t = ({ code }, p, t) := by
  simp [prepare_eq, hd]

theorem abandon_prepare (h : p.slot.holder = none) (code : String) (t : Transcript) :
    (p.prepare code t).2.1.abandon (p.prepare code t).1 = p.after code := by
  have hs : p.slot = ⟨none⟩ := by
    cases hp : p.slot with
    | mk holder => rw [hp] at h; simpa using h
  cases hd : p.detects code with
  | true =>
    rw [prepare_of_detects h hd, after, if_pos hd]
    simp [abandon, Slot.release, mint, hs]
  | false =>
    rw [prepare_of_not_detects hd, after, hd]
    rfl

/-- The new target has no controls, so finishing changes nothing in the transcript. -/
theorem finish_prepare (h : p.Fresh t) (code : String) :
    (p.prepare code t).2.1.finish (p.prepare code t).1 (p.prepare code t).2.2 =
      (p.after code, (p.prepare code t).2.2) := by
  have ha := abandon_prepare h.free code t
  cases hd : p.detects code with
  | true =>
    rw [prepare_of_detects h.free hd] at ha ⊢
    have hids : ∀ x ∈ t.entries.filterMap Entry.target?, x.id ≠ p.nextId :=
      fun x hx => h.ids x hx p.minted (Nat.le_refl _)
    have ht : (t.attachTarget { id := p.nextId }).changeTarget p.nextId
        (Target.relabel p.icons) = t.attachTarget { id := p.nextId } := by
      simp only [Transcript.changeTarget, Transcript.attachTarget]
      rw [Transcript.changeFirst_concat hids rfl]
      rfl
    exact Prod.ext ha ht
  | false =>
    rw [prepare_of_not_detects hd] at ha ⊢
    simp [finish, after, hd]

structure Like (p q : Plotter) : Prop where
  keyword : p.keyword = q.keyword
  prelude : p.prelude = q.prelude
  supply : p.supply = q.supply

theorem Like.refl (p : Plotter) : p.Like p := ⟨rfl, rfl, rfl⟩

theorem Like.symm {q : Plotter} (h : p.Like q) : q.Like p :=
  ⟨h.keyword.symm, h.prelude.symm, h.supply.symm⟩

theorem Like.trans {q r : Plotter} (h : p.Like q) (h' : q.Like r) : p.Like r :=
  ⟨h.keyword.trans h'.keyword, h.prelude.trans h'.prelude, h.supply.trans h'.supply⟩

theorem Like.detects {q : Plotter} (h : p.Like q) (code : String) :
    p.detects code = q.detects code := by
  rw [Plotter.detects, Plotter.detects, h.keyword]

theorem Like.redirect {q : Plotter} (h : p.Like q) (id : TargetId) (code : String) :
    p.redirect id code = q.redirect id code := by
  rw [Plotter.redirect, Plotter.redirect, fill, fill, h.prelude]

theorem Like.after {q : Plotter} (h : p.Like q) (code : String) : (p.after code).Like q := by
  unfold Plotter.after
  split <;> exact ⟨h.keyword, h.prelude, h.supply⟩

theorem like_prepare (p : Plotter) (code : String) (t : Transcript) :
    (p.prepare code t).2.1.Like p := by
  rw [prepare_eq]
  split <;> exact ⟨rfl, rfl, rfl⟩

theorem like_abandon (p : Plotter) (prepared : Prepared) : (p.abandon prepared).Like p := by
  unfold abandon
  split <;> exact ⟨rfl, rfl, rfl⟩

theorem like_finish (p : Plotter) (prepared : Prepared) (t : Transcript) :
    (p.finish prepared t).1.Like p := by
  unfold finish
  split
  · exact .refl p
  · exact p.like_abandon prepared

theorem minted_prepare (h : p.slot.holder = none) (code : String) (t : Transcript) :
    (p.prepare code t).2.1.minted = (p.after code).minted := by
  cases hd : p.detects code with
  | true => rw [prepare_of_detects h hd, after, if_pos hd]
  | false =>
    rw [prepare_of_not_detects hd, after, hd]
    rfl

/-- Where targets only go, the ids to come stay new. -/
theorem Fresh.edit (h : p.Fresh t) {t' : Transcript}
    (ids : t'.targets.map Target.id ⊆ t.targets.map Target.id) : p.Fresh t' := by
  refine ⟨h.free, fun x hx n hn => ?_⟩
  obtain ⟨y, hy, he⟩ := List.mem_map.mp (ids (List.mem_map_of_mem hx))
  exact he ▸ h.ids y hy n hn

theorem Fresh.after (h : p.Fresh t) (code : String) :
    (p.after code).Fresh (p.prepare code t).2.2 := by
  cases hd : p.detects code with
  | true =>
    rw [prepare_of_detects h.free hd, Plotter.after, if_pos hd]
    refine ⟨h.free, fun x hx n hn => ?_⟩
    have hn : p.minted + 1 ≤ n := hn
    have hx : x ∈ t.targets ++ [{ id := p.nextId }] := by
      simpa [Transcript.targets, Transcript.attachTarget, Entry.target?] using hx
    obtain hx | hx := List.mem_append.mp hx
    · exact h.ids x hx n (by omega)
    · rw [List.mem_singleton.mp hx]
      intro he
      have := p.supply.distinct _ _ he
      omega
  | false =>
    rw [prepare_of_not_detects hd, Plotter.after, hd]
    exact h

theorem Like.prepare_targets {q : Plotter} (like : p.Like q) (h : p.slot.holder = none)
    (code : String) (t : Transcript) {k : Nat} (hk : p.minted = q.minted + k) :
    ∃ k', (p.prepare code t).2.1.minted = q.minted + k' ∧
      (List.range' q.minted k).map q.supply.id ++ (p.prepare code t).1.target.toList =
        (List.range' q.minted k').map q.supply.id := by
  cases hd : p.detects code with
  | true =>
    rw [prepare_of_detects h hd]
    refine ⟨k + 1, ?_, ?_⟩
    · simp [mint, hk, Nat.add_assoc]
    · rw [List.range'_1_concat, List.map_append]
      simp [nextId, hk, like.supply]
  | false =>
    rw [prepare_of_not_detects hd]
    exact ⟨k, hk, List.append_nil _⟩

end Plotter

end Workpad
