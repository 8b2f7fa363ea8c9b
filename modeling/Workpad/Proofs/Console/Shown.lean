import Workpad.Proofs.Console.Schedule
import Workpad.Proofs.Plot.Prepare
import Workpad.Proofs.Transcript.Mirror

/-!
Whatever is done at a console, its transcript is changed by edits only, and no edit of the console's
own gives a target another id, so that a view of the transcript shows it as it is. Only who gives a
target another id from outside leaves the view behind.
-/
namespace Workpad

open Transcript (EditsTo)

namespace Plotter

theorem editsTo_prepare (p : Plotter) (code : String) (t : Transcript) :
    t.EditsTo (p.prepare code t).2.2 := by
  rw [prepare_eq]
  split
  · exact .one t (e := .attach { id := p.nextId }) trivial
  · exact .refl t

theorem editsTo_finish (p : Plotter) (prepared : Prepared) (t : Transcript) :
    t.EditsTo (p.finish prepared t).2 := by
  unfold finish
  split
  · exact .refl t
  next id _ => exact .one t (e := .change id (Target.relabel p.icons)) fun _ same => same

end Plotter

namespace Workspace
variable {w : Workspace}

theorem editsTo_proceed (w : Workspace) (code : String) :
    w.transcript.EditsTo (w.proceed code).2.transcript := by
  unfold proceed
  split
  · exact .refl _
  · split
    · exact .refl _
    · split
      · exact .refl _
      · exact w.plotter.editsTo_prepare code w.transcript

theorem editsTo_conclude (w : Workspace) (job : Job) (outcome : Outcome) :
    w.transcript.EditsTo (w.conclude job outcome).2.transcript :=
  w.plotter.editsTo_finish job.prepared w.transcript

theorem editsTo_resolved (w : Workspace) (job : Job) (a : Except String Unit) :
    w.transcript.EditsTo (w.resolved job a).2.transcript := by
  cases a with
  | error m => exact w.editsTo_conclude job _
  | ok _ => exact .refl _

theorem editsTo_evaluated (w : Workspace) (job : Job) (a : Except String (Option String)) :
    w.transcript.EditsTo (w.evaluated job a).2.transcript := by
  cases a <;> exact w.editsTo_conclude job _

theorem transcript_writeAll (w : Workspace) (cs : List Chunk) :
    (w.writeAll cs).transcript = w.transcript := by
  induction cs generalizing w with
  | nil => rfl
  | cons c cs ih =>
    have hc : (w.writeInstalled c).transcript = w.transcript := by
      cases h : w.sinks.installed? c.stream <;> simp [writeInstalled, h, write]
    exact (ih (w.writeInstalled c)).trans hc

theorem transcript_hear (i : Interpreter) (x : Progress × Workspace) :
    (hear i x).2.transcript = x.2.transcript := by
  rcases x with ⟨⟨_ | _ | _⟩ | _, w⟩ <;> simp [hear, transcript_writeAll]

theorem editsTo_advance (i : Interpreter) (w : Workspace) (stage : Stage) :
    w.transcript.EditsTo (w.advance i stage).2.transcript := by
  cases stage with
  | awaiting code =>
    rw [advance, transcript_hear]
    exact w.editsTo_proceed code
  | resolving job =>
    cases ha : (w.resolution i job).answer with
    | none => simpa [advance, ha] using EditsTo.refl w.transcript
    | some a =>
      simp only [advance, ha, transcript_hear]
      exact w.editsTo_resolved job a
  | evaluating job =>
    cases ha : (w.evaluation i job).answer with
    | none => simpa [advance, ha] using EditsTo.refl w.transcript
    | some a =>
      simp only [advance, ha]
      exact w.editsTo_evaluated job a

end Workspace

namespace Console
variable {c : Console}

/-- What a run comes to is edits, and so is the fragment behind it. -/
theorem editsTo_settle {t : Transcript} {x : Progress × Workspace} (h : t.EditsTo x.2.transcript)
    (c : Console) : t.EditsTo (c.settle x).2.transcript := by
  obtain ⟨stage | report, w⟩ := x
  · exact h
  · exact h.trans (.one _ (e := .fragment report.fragment) trivial)

theorem editsTo_respond (c : Console) (line reply : String) :
    c.transcript.EditsTo ((c.record line).respond line reply).transcript :=
  (EditsTo.one _ (e := .echo (prompt ++ line)) trivial).trans
    (.one _ (e := .fragment reply) trivial)

theorem editsTo_accept (c : Console) (r : Request) :
    c.transcript.EditsTo (c.accept r).2.transcript := by
  cases r with
  | submit line =>
    cases hl : Command.ofLine? line with
    | none => simpa [accept, hl] using EditsTo.refl c.transcript
    | some command =>
      simp only [accept, hl]
      cases command with
      | clear => exact .one _ (e := .clear) trivial
      | help => exact editsTo_respond c line _
      | echo text => exact editsTo_respond c line text
      | code code => exact .one _ (e := .echo (prompt ++ line)) trivial
  | script code => exact .one _ (e := .echo runningMessage) trivial
  | transcript => exact .refl _

theorem editsTo_start (i : Interpreter) (c : Console) (r : Request) :
    c.transcript.EditsTo (c.start i r).2.transcript := by
  refine (editsTo_accept c r).trans ?_
  rw [start]
  obtain ⟨text | code, d⟩ := c.accept r
  · exact .refl _
  · exact editsTo_settle (Workspace.editsTo_advance i d.workspace.request (.awaiting code)) d

theorem editsTo_advance (i : Interpreter) (c : Console) (stage : Stage) :
    c.transcript.EditsTo (c.advance i stage).2.transcript :=
  editsTo_settle (c.workspace.editsTo_advance i stage) c

end Console

namespace Terminal
variable {i : Interpreter} {t : Terminal}

def Edits (c d : Console) : Prop := c.transcript.EditsTo d.transcript

theorem edits_start (i : Interpreter) (c : Console) (r : Request) :
    Edits c (ofStanding (c.start i r)).2.console := by
  rw [console_ofStanding]
  exact Console.editsTo_start i c r

theorem edits_await (c : Console) : Edits c (await c).2.console := by
  unfold await
  split
  · exact .refl _
  next status _ => exact .one _ (e := .fragment (Console.announcement status)) trivial

theorem edits_whenIdle {f : Console → Answer × Terminal} (h : ∀ c, Edits c (f c).2.console)
    (t : Terminal) : Edits t.console (t.whenIdle f).2.console :=
  whenIdle_keeps (R := Edits) (fun c => .refl c.transcript) h t

theorem edits_change {f : Console → Console} (h : ∀ c, Edits c (f c)) (t : Terminal) :
    Edits t.console (t.change f).2.console :=
  edits_whenIdle h t

def Event.KeepsIds : Event → Prop
  | .edit e => e.KeepsIds
  | _ => True

theorem edits_step (t : Terminal) {e : Event} (keeps : e.KeepsIds) :
    Edits t.console (t.step i e).2.console := by
  cases e with
  | ask r => exact edits_whenIdle (fun c => edits_start i c r) t
  | enter => exact edits_whenIdle (fun c => edits_start i c.takeInput.2 c.takeInput.1) t
  | announce =>
    exact edits_whenIdle (fun c => edits_await { c with workspace := c.workspace.request }) t
  | look =>
    exact look_keeps (R := Edits) (fun c => .refl c.transcript)
      (fun c stage => Console.editsTo_advance i c stage) edits_await t
  | cancel =>
    refine cancel_keeps (R := Edits) (fun c => .refl c.transcript) (fun c stage => ?_) t
    cases stage <;> exact .refl c.transcript
  | edit e =>
    refine edits_change (fun c => ?_) t
    exact .one c.transcript keeps
  | setInput _ | recallPrevious | recallNext | claim _ | release _ =>
    refine edits_change (fun c => ?_) t
    exact .refl c.transcript
  | request | allowFinish | load | write _ _ => exact .refl _
  | emit chunk =>
    have ht : (t.console.workspace.writeInstalled chunk).transcript = t.console.transcript :=
      Workspace.transcript_writeAll _ [chunk]
    simpa [Edits, step, meanwhile, Console.transcript, ht] using EditsTo.refl t.console.transcript

theorem edits_run (t : Terminal) {es : List Event} (keep : ∀ e ∈ es, e.KeepsIds) :
    Edits t.console (t.run i es).console := by
  induction es generalizing t with
  | nil => exact .refl _
  | cons e es ih =>
    have first := edits_step (i := i) t (keep e List.mem_cons_self)
    exact first.trans (ih _ fun e' he' => keep e' (List.mem_cons_of_mem e he'))

/-- A transcript made with a view, and edited in any way that leaves targets under their ids, is what
its view shows from all that it was told, and that is what the edits come to; and it is what the view
shows wherever things stand at a console with such a transcript. -/
theorem view_shows_transcript (es : List Transcript.Edit) (keep : ∀ e ∈ es, e.KeepsIds)
    (s : Settings) (w : Workspace) (i : Interpreter) (events : List Event)
    (kept : ∀ e ∈ events, e.KeepsIds) :
    let new : Transcript := { told := some [] }
    let console := Console.ofSettings s { w with transcript := new.editAll es }
    (new.editAll es).ShownAs (es.foldl Transcript.Edit.follow []) ∧
      ∃ shown, (({ console } : Terminal).run i events).console.transcript.ShownAs shown := by
  intro new console
  have mirrored : new.Mirrored := rfl
  have edited := mirrored.editAll keep
  have blocks : (new.editAll es).blocks = es.foldl Transcript.Edit.follow [] :=
    new.blocks_editAll keep
  exact ⟨blocks ▸ edited.shownAs, _, ((edits_run { console } kept).mirrored edited).shownAs⟩

/-- A target with a control that comes later, and a plot that is given up behind it. -/
theorem view_shows_transcript_plot :
    let i : Interpreter := ⟨fun _ _ => { answer := some (.ok ()) },
      fun _ _ => { answer := some (.ok none) }⟩
    let w : Workspace := .ofSettings {} .numbered (fun _ => .ready) true {}
    let new : Transcript := { told := some [] }
    let first : TargetId := ⟨"first"⟩
    let save (x : Target) : Target := x.attach ⟨.saveImage, "png"⟩
    let console := Console.ofSettings {}
      { w with transcript := new.editAll [.attach { id := first }, .change first save] }
    let t := ({ console } : Terminal).run i [.ask (.submit "import matplotlib"), .load, .load, .load,
      .load, .look, .cancel, .edit (.change (Supply.numbered.id 0) save)]
    t.console.transcript.targets.map (·.controls.length) = [1, 1] ∧
      t.console.transcript.ShownAs
        [.target first, .text "> import matplotlib", .target (Supply.numbered.id 0)] := by
  intro i w new first save console t
  obtain ⟨-, _, mirrored⟩ := view_shows_transcript [.attach { id := first }, .change first save]
    (by simp [Transcript.Edit.KeepsIds, save, Target.attach]) {} w i
    [.ask (.submit "import matplotlib"), .load, .load, .load, .load, .look, .cancel,
      .edit (.change (Supply.numbered.id 0) save)]
    (by simp [Event.KeepsIds, Transcript.Edit.KeepsIds, save, Target.attach])
  have entries : t.console.transcript.entries.map Entry.block =
      [.target first, .text "> import matplotlib", .target (Supply.numbered.id 0)] := by
    decide +kernel
  refine ⟨by decide +kernel, ?_⟩
  rw [← entries, ← mirrored.entries]
  exact mirrored

/-- A target that is given another id: the view still shows the id that it was told. -/
theorem view_misses_other_id :
    let new : Transcript := { told := some [] }
    let t := new.editAll [.attach { id := ⟨"a"⟩ }, .change ⟨"a"⟩ fun _ => { id := ⟨"b"⟩ }]
    t.entries = [.target { id := ⟨"b"⟩ }] ∧ t.told.map replay = some [.target ⟨"a"⟩] ∧
      ¬ ∃ shown, t.ShownAs shown := by
  refine ⟨by decide, by decide, fun ⟨shown, mirrored⟩ => ?_⟩
  have told := mirrored.told
  rw [mirrored.entries] at told
  exact absurd told (by decide)

end Terminal

end Workpad
