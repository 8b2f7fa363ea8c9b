import Mathlib.Data.List.Forall2
import Workpad.Proofs.Plot.Ownership

/-!
Tidying up behind code that plotted. The save controls of its own target get the configured labels;
whatever else stands in the transcript stays as it is, and the view hears nothing of it.
-/
namespace Workpad

/-- What becomes of a control. One that saves gets the label configured for it, any other keeps its
own. -/
inductive Control.Labelled (i : Icons) : Control → Control → Prop where
  | image (label : String) : Labelled i ⟨.saveImage, label⟩ ⟨.saveImage, i.image⟩
  | vector (label : String) : Labelled i ⟨.saveVector, label⟩ ⟨.saveVector, i.vector⟩
  | document (label : String) : Labelled i ⟨.saveDocument, label⟩ ⟨.saveDocument, i.document⟩
  | other (name label : String) : Labelled i ⟨.other name, label⟩ ⟨.other name, label⟩

structure Target.Labelled (i : Icons) (x y : Target) : Prop where
  id : y.id = x.id
  controls : List.Forall₂ (Control.Labelled i) x.controls y.controls

/-- What becomes of an entry when the target `own` is tidied up, if there is one. -/
inductive Entry.Tidied (i : Icons) (own : Option TargetId) : Entry → Entry → Prop where
  | own {x y : Target} (mine : own = some x.id) (labelled : x.Labelled i y) :
    Tidied i own (.target x) (.target y)
  | other {e : Entry} (foreign : ∀ x ∈ e.target?, own ≠ some x.id) : Tidied i own e e

section
variable (i : Icons)

theorem Control.labelled_relabel (c : Control) : Control.Labelled i c (c.relabel i) := by
  obtain ⟨action, label⟩ := c
  cases action with
  | saveImage => exact .image label
  | saveVector => exact .vector label
  | saveDocument => exact .document label
  | other name => exact .other name label

theorem Control.relabel_relabel (c : Control) : (c.relabel i).relabel i = c.relabel i := by
  obtain ⟨action, label⟩ := c
  cases action <;> rfl

theorem Target.labelled_relabel (x : Target) : x.Labelled i (x.relabel i) :=
  ⟨rfl, List.forall₂_map_right_iff.mpr (List.forall₂_same.mpr fun c _ => c.labelled_relabel i)⟩

theorem Target.relabel_relabel (x : Target) : (x.relabel i).relabel i = x.relabel i := by
  simp [Target.relabel, Function.comp_def, Control.relabel_relabel]

end

namespace Transcript
variable {id : TargetId} {f : Target → Target} {es : List Entry}

theorem changeFirst_of_absent (absent : ∀ x ∈ es.filterMap Entry.target?, x.id ≠ id) :
    changeFirst id f es = es := by
  induction es with
  | nil => rfl
  | cons e es ih =>
    cases e with
    | target x =>
      obtain ⟨here, rest⟩ := List.forall_mem_cons.mp absent
      rw [changeFirst, if_neg here, ih rest]
    | echo _ | fragment _ => rw [changeFirst, ih absent]; simp

theorem changeFirst_changeFirst (ids : ∀ x, (f x).id = x.id) (again : ∀ x, f (f x) = f x)
    (id : TargetId) (es : List Entry) :
    changeFirst id f (changeFirst id f es) = changeFirst id f es := by
  induction es with
  | nil => rfl
  | cons e es ih =>
    cases e with
    | target x => by_cases hx : x.id = id <;> simp [changeFirst, hx, ids, again, ih]
    | echo _ | fragment _ => simp [changeFirst, ih]

/-- The search stops at the first target of that id; where ids differ it is the only one. -/
theorem tidied_changeFirst (i : Icons) (id : TargetId)
    (apart : ((es.filterMap Entry.target?).map Target.id).Nodup) :
    List.Forall₂ (Entry.Tidied i (some id)) es (changeFirst id (Target.relabel i) es) := by
  induction es with
  | nil => exact .nil
  | cons e es ih =>
    cases e with
    | target x =>
      obtain ⟨alone, rest⟩ := List.nodup_cons.mp apart
      by_cases hx : x.id = id
      · rw [changeFirst, if_pos hx]
        refine .cons (.own (congrArg some hx.symm) (x.labelled_relabel i)) ?_
        refine List.forall₂_same.mpr fun e he => .other fun y hy same => alone ?_
        rw [hx, Option.some.inj same]
        exact List.mem_map_of_mem (List.mem_filterMap.mpr ⟨e, he, hy⟩)
      · rw [changeFirst, if_neg hx]
        refine .cons (.other fun y hy same => hx ?_) (ih rest)
        rw [Option.some.inj same, Option.some.inj hy]
    | echo _ | fragment _ =>
      exact .cons (.other fun y hy => absurd hy (Option.not_mem_none y)) (ih apart)

end Transcript

namespace Slot
variable {s : Slot} {own : Option TargetId}

theorem giveBack_of_ne (other : s.holder ≠ own) : s.giveBack own = s := by
  cases own with
  | none => rfl
  | some id => rw [giveBack, release, if_neg other]

theorem giveBack_giveBack : (s.giveBack own).giveBack own = s.giveBack own := by
  cases own with
  | none => rfl
  | some id =>
    refine giveBack_of_ne ?_
    rw [holder_giveBack]
    split
    next => exact nofun
    next other => exact other

/-- The slot is freed just if it was held by that target. -/
theorem freed_giveBack_iff : (s.holder ≠ none ∧ (s.giveBack own).holder = none) ↔
    ∃ id, own = some id ∧ s.holder = some id := by
  rw [holder_giveBack]
  constructor
  · rintro ⟨taken, freed⟩
    split at freed
    next mine =>
      obtain ⟨id, held⟩ := Option.ne_none_iff_exists'.mp taken
      exact ⟨id, mine.symm.trans held, held⟩
    next => exact absurd freed taken
  · rintro ⟨id, mine, held⟩
    rw [if_pos (held.trans mine.symm), held]
    exact ⟨nofun, rfl⟩

end Slot

namespace Plotter
variable (p : Plotter) (prepared : Prepared) (t : Transcript)

theorem plotter_finish :
    (p.finish prepared t).1 = { p with slot := p.slot.giveBack prepared.target } := by
  cases h : prepared.target <;> simp [finish, abandon, h, Slot.giveBack]

theorem transcript_finish : (p.finish prepared t).2 =
    prepared.target.elim t fun id => t.changeTarget id (Target.relabel p.icons) := by
  cases h : prepared.target <;> simp [finish, h]

theorem tidied_finish (apart : (t.targets.map Target.id).Nodup) :
    List.Forall₂ (Entry.Tidied p.icons prepared.target) t.entries
      (p.finish prepared t).2.entries := by
  rw [transcript_finish]
  cases prepared.target with
  | none => exact List.forall₂_same.mpr fun e _ => .other nofun
  | some id => exact Transcript.tidied_changeFirst p.icons id apart

/-- Labelled once, the controls have their labels, and the claim is given back only once. -/
theorem finish_finish :
    (p.finish prepared t).1.finish prepared (p.finish prepared t).2 = p.finish prepared t := by
  refine Prod.ext ?_ ?_
  · rw [plotter_finish, plotter_finish, Slot.giveBack_giveBack]
  · rw [transcript_finish, transcript_finish, plotter_finish]
    cases prepared.target with
    | none => rfl
    | some id =>
      have again := Transcript.changeFirst_changeFirst (f := Target.relabel p.icons)
        (fun _ => rfl) (Target.relabel_relabel p.icons) id t.entries
      exact congrArg (fun entries => { t with entries }) again

theorem transcript_finish_of_absent (absent : ∀ x ∈ t.targets, prepared.target ≠ some x.id) :
    (p.finish prepared t).2 = t := by
  rw [transcript_finish]
  cases own : prepared.target with
  | none => rfl
  | some id =>
    have gone : ∀ x ∈ t.targets, x.id ≠ id := fun x hx same =>
      absent x hx (own.trans (congrArg some same.symm))
    exact congrArg (fun entries => { t with entries }) (Transcript.changeFirst_of_absent gone)

theorem told_finish : (p.finish prepared t).2.told = t.told := by
  rw [transcript_finish]
  cases prepared.target <;> rfl

/-- Whatever the transcript has become since the code was prepared, and whoever holds the slot now:
the entries stay in their places, and only the code's own target gets its save controls labelled. A
second time changes nothing more. Without that target nothing is changed at all. The view is told
nothing, and the slot is freed just if that target still held it. -/
theorem finish_labels_own_target (apart : (t.targets.map Target.id).Nodup) :
    let q := (p.finish prepared t).1
    let u := (p.finish prepared t).2
    List.Forall₂ (Entry.Tidied p.icons prepared.target) t.entries u.entries ∧
      q.finish prepared u = (q, u) ∧
      ((∀ x ∈ t.targets, prepared.target ≠ some x.id) → u = t) ∧
      u.told = t.told ∧
      q = { p with slot := q.slot } ∧
      ((p.slot.holder ≠ none ∧ q.slot.holder = none) ↔
        ∃ id, prepared.target = some id ∧ p.slot.holder = some id) ∧
      (p.slot.holder ≠ prepared.target → q.slot = p.slot) := by
  intro q u
  have plotter : q = { p with slot := p.slot.giveBack prepared.target } :=
    p.plotter_finish prepared t
  have slot : q.slot = p.slot.giveBack prepared.target := congrArg Plotter.slot plotter
  refine ⟨p.tidied_finish prepared t apart, p.finish_finish prepared t,
    p.transcript_finish_of_absent prepared t, p.told_finish prepared t, ?_, ?_, fun other => ?_⟩
  · rw [slot]
    exact plotter
  · rw [slot]
    exact Slot.freed_giveBack_iff
  · rw [slot, Slot.giveBack_of_ne other]

/-- Two targets with controls that save: the one whose code is done gets its labels and gives the slot
back, the other keeps the label it has. -/
theorem finish_labels_own_target_of_two :
    let b := (Bench.fresh {} .numbered {}).run [.prepare "a" "import matplotlib",
      .attach "a" ⟨.saveImage, "png"⟩, .releaseFor "a", .prepare "b" "import matplotlib",
      .attach "b" ⟨.saveImage, "png"⟩, .attach "b" ⟨.other "zoom", "Zoom"⟩,
      .attach "b" ⟨.saveDocument, "pdf"⟩]
    let prepared : Prepared := (b.alive? "b").getD { code := "" }
    let q := (b.plotter.finish prepared b.transcript).1
    let u := (b.plotter.finish prepared b.transcript).2
    (b.transcript.targets.map Target.id).Nodup ∧
      b.transcript.targets.map (·.controls.map (·.label)) = [["png"], ["png", "Zoom", "pdf"]] ∧
      List.Forall₂ (Entry.Tidied {} prepared.target) b.transcript.entries u.entries ∧
      u.targets.map (·.controls.map (·.label)) = [["png"], ["🖼 PNG", "Zoom", "📄 PDF"]] ∧
      q.finish prepared u = (q, u) ∧
      b.plotter.slot.holder = prepared.target ∧ q.slot.holder = none := by
  intro b prepared q u
  have apart : (b.transcript.targets.map Target.id).Nodup := by decide +kernel
  have own : prepared.target = some (Supply.numbered.id 1) := by decide +kernel
  have held : b.plotter.slot.holder = some (Supply.numbered.id 1) := by decide +kernel
  obtain ⟨tidied, again, -, -, -, freed, -⟩ :=
    finish_labels_own_target b.plotter prepared b.transcript apart
  refine ⟨apart, by decide +kernel, tidied, by decide +kernel, again, held.trans own.symm, ?_⟩
  exact (freed.mpr ⟨_, own, held⟩).2

end Plotter

end Workpad
