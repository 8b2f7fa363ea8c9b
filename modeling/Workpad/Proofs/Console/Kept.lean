import Workpad.Proofs.Console.Schedule
import Workpad.Proofs.Plot.Prepare

/-!
What stays as it was made, whatever happens at a console: how its plotter treats code, and the width
of its help.
-/
namespace Workpad

namespace Workspace

theorem plotter_writeAll (w : Workspace) (cs : List Chunk) : (w.writeAll cs).plotter = w.plotter := by
  induction cs generalizing w with
  | nil => rfl
  | cons c cs ih =>
    have hc : (w.writeInstalled c).plotter = w.plotter := by
      cases h : w.sinks.installed? c.stream <;> simp [writeInstalled, h, write]
    exact (ih (w.writeInstalled c)).trans hc

theorem plotter_hear (i : Interpreter) (x : Progress × Workspace) :
    (hear i x).2.plotter = x.2.plotter := by
  rcases x with ⟨⟨_ | _ | _⟩ | _, w⟩ <;> simp [hear, plotter_writeAll]

theorem like_proceed (w : Workspace) (code : String) : (w.proceed code).2.plotter.Like w.plotter := by
  unfold proceed
  split
  · exact .refl _
  · split
    · exact .refl _
    · split
      · exact .refl _
      · exact w.plotter.like_prepare code w.transcript

theorem like_advance (i : Interpreter) (w : Workspace) (stage : Stage) :
    (w.advance i stage).2.plotter.Like w.plotter := by
  have finished (job : Job) := w.plotter.like_finish job.prepared w.transcript
  cases stage with
  | awaiting code =>
    rw [advance, plotter_hear]
    exact w.like_proceed code
  | resolving job =>
    cases ha : (w.resolution i job).answer with
    | none => simpa [advance, ha] using Plotter.Like.refl w.plotter
    | some a =>
      simp only [advance, ha, plotter_hear]
      cases a
      · exact finished job
      · exact .refl _
  | evaluating job =>
    cases ha : (w.evaluation i job).answer with
    | none => simpa [advance, ha] using Plotter.Like.refl w.plotter
    | some a =>
      simp only [advance, ha]
      cases a <;> exact finished job

end Workspace

/-- A console that was made as another was. -/
structure Console.Akin (c d : Console) : Prop where
  plotter : d.workspace.plotter.Like c.workspace.plotter
  helpWidth : d.helpWidth = c.helpWidth

namespace Console.Akin
variable {c d : Console}

theorem refl (c : Console) : Akin c c := ⟨.refl _, rfl⟩

theorem trans {e : Console} (h : Akin c d) (h' : Akin d e) : Akin c e :=
  ⟨h'.plotter.trans h.plotter, h'.helpWidth.trans h.helpWidth⟩

theorem settle (c : Console) {x : Progress × Workspace} (h : x.2.plotter.Like c.workspace.plotter) :
    Akin c (c.settle x).2 := by
  obtain ⟨stage | report, w⟩ := x <;> exact ⟨h, rfl⟩

theorem accept (c : Console) (r : Request) : Akin c (c.accept r).2 := by
  cases r with
  | submit line =>
    cases h : Command.ofLine? line with
    | none => simpa [Console.accept, h] using refl c
    | some command => cases command <;> simp only [Console.accept, h] <;> exact ⟨.refl _, rfl⟩
  | script code => exact ⟨.refl _, rfl⟩
  | transcript => exact refl c

theorem start (i : Interpreter) (c : Console) (r : Request) : Akin c (c.start i r).2 := by
  have ha := accept c r
  rw [Console.start]
  generalize c.accept r = x at ha ⊢
  obtain ⟨text | code, d⟩ := x
  · exact ha
  · exact ha.trans (settle d (d.workspace.request.like_advance i (.awaiting code)))

theorem cancel (c : Console) (stage : Stage) : Akin c (c.cancel stage) := by
  refine ⟨?_, rfl⟩
  cases stage with
  | awaiting _ => exact .refl _
  | resolving job | evaluating job => exact c.workspace.plotter.like_abandon job.prepared

end Console.Akin

namespace Terminal
variable {i : Interpreter} {c : Console} {t : Terminal}

open Console (Akin)

theorem akin_await (c : Console) : Akin c (await c).2.console := by
  unfold await
  split <;> exact ⟨.refl _, rfl⟩

theorem akin_whenIdle {f : Console → Answer × Terminal} (h : ∀ c, Akin c (f c).2.console)
    (t : Terminal) : Akin t.console (t.whenIdle f).2.console :=
  whenIdle_keeps .refl h t

theorem akin_start (i : Interpreter) (c : Console) (r : Request) :
    Akin c (ofStanding (c.start i r)).2.console := by
  rw [console_ofStanding]
  exact .start i c r

theorem akin_step (i : Interpreter) (t : Terminal) (e : Event) :
    Akin t.console (t.step i e).2.console := by
  cases e with
  | ask r => exact akin_whenIdle (fun c => akin_start i c r) t
  | enter =>
    refine akin_whenIdle (fun c => ?_) t
    have taken : Akin c c.takeInput.2 := ⟨.refl _, rfl⟩
    exact taken.trans (akin_start i c.takeInput.2 c.takeInput.1)
  | announce =>
    refine akin_whenIdle (fun c => ?_) t
    have asked : Akin c { c with workspace := c.workspace.request } := ⟨.refl _, rfl⟩
    exact asked.trans (akin_await { c with workspace := c.workspace.request })
  | look =>
    exact look_keeps .refl (fun c stage => .settle c (c.workspace.like_advance i stage)) akin_await t
  | cancel => exact cancel_keeps .refl .cancel t
  | setInput _ | recallPrevious | recallNext | edit _ | claim _ | release _ =>
    refine akin_whenIdle (fun c => ?_) t
    exact ⟨⟨rfl, rfl, rfl⟩, rfl⟩
  | request | allowFinish | load | write _ _ => exact ⟨.refl _, rfl⟩
  | emit chunk =>
    have hp : (t.console.workspace.writeInstalled chunk).plotter = t.console.workspace.plotter :=
      Workspace.plotter_writeAll _ [chunk]
    exact ⟨hp ▸ .refl _, rfl⟩

theorem akin_run (i : Interpreter) (t : Terminal) (es : List Event) :
    Akin t.console (t.run i es).console := by
  induction es generalizing t with
  | nil => exact .refl _
  | cons e es ih => exact (akin_step i t e).trans (ih _)

end Terminal

end Workpad
