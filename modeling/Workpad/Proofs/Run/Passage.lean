import Workpad.Proofs.Run.Underway

/-!
A run apart from the workspace that it began on. How far it has come, where the load is and what the
buffers hold is its passage, and that goes by two replies of the interpreter; the workspace is the one
from the beginning with the passage put in.
-/
namespace Workpad

namespace Sinks

def capture (s : Sinks) : Sinks := (s.add.install s.next .out).install s.next .err

def writeInstalled (s : Sinks) (c : Chunk) : Sinks :=
  match s.installed? c.stream with
  | some buffer => s.write buffer c
  | none => s

def hear (s : Sinks) (cs : List Chunk) : Sinks := cs.foldl writeInstalled s

end Sinks

namespace Workspace

theorem writeInstalled_eq (w : Workspace) (c : Chunk) :
    w.writeInstalled c = { w with sinks := w.sinks.writeInstalled c } := by
  cases h : w.sinks.installed? c.stream <;> simp [writeInstalled, Sinks.writeInstalled, h, write]

theorem writeAll_eq (w : Workspace) (cs : List Chunk) :
    w.writeAll cs = { w with sinks := w.sinks.hear cs } := by
  induction cs generalizing w with
  | nil => rfl
  | cons c cs ih =>
    rw [writeAll, List.foldl_cons, ← writeAll, ih, writeInstalled_eq]
    rfl

theorem launch_eq (w : Workspace) (code : String) :
    w.launch code = (w.job code, w.handing code (w.job code).calls w.sinks.capture) := by
  simp [launch, Workspace.capture, install, call, handing, handled, job, Job.calls, Sinks.capture]

end Workspace

inductive Phase where
  | awaiting
  | resolving
  | evaluating
  | refused
  | concluded (report : Report) (evaluated : Bool)

def Phase.calls (job : Job) : Phase → List Call
  | .awaiting | .refused => []
  | .resolving | .concluded _ false => job.calls
  | .evaluating | .concluded _ true => job.calls ++ [.evaluate job.prepared.code]

def Progress.report? : Progress → Option Report
  | .suspended _ => none
  | .finished report => some report

def Phase.report? : Phase → Option Report
  | .refused => some (.ofFault .notLoaded)
  | .concluded report _ => some report
  | .awaiting | .resolving | .evaluating => none

structure Replies where
  resolution : Reply Unit
  evaluation : Reply (Option String)

def Workspace.replies (i : Interpreter) (b : Workspace) (code : String) : Replies :=
  ⟨b.resolving i code, b.evaluating i code⟩

structure Passage where
  phase : Phase := .awaiting
  startup : Startup
  sinks : Sinks

namespace Passage
variable {i : Interpreter} {b : Workspace} {code : String} {p : Passage}

def conclude (own : Nat) (p : Passage) (outcome : Outcome) (evaluated : Bool) : Passage where
  phase := .concluded ⟨p.sinks.contents own, outcome⟩ evaluated
  startup := p.startup
  sinks := p.sinks.drain own

def look (own : Nat) (r : Replies) (p : Passage) : Passage :=
  match p.phase with
  | .awaiting =>
    match p.startup.settled? with
    | none => p
    | some status =>
      if status.isReady && p.startup.hasInterpreter then
        { p with phase := .resolving, sinks := p.sinks.capture.hear r.resolution.output }
      else { p with phase := .refused }
  | .resolving =>
    match r.resolution.answer with
    | none => p
    | some (.error m) => p.conclude own (.error (.dependency m)) false
    | some (.ok _) => { p with phase := .evaluating, sinks := p.sinks.hear r.evaluation.output }
  | .evaluating =>
    match r.evaluation.answer with
    | none => p
    | some answer => p.conclude own (answer.mapError .evaluation) true
  | .refused | .concluded _ _ => p

def on (p : Passage) (b : Workspace) (code : String) : Progress × Workspace :=
  let w := { b.handing code (p.phase.calls (b.job code)) p.sinks with startup := p.startup }
  match p.phase with
  | .awaiting => (.suspended (.awaiting code), { b with startup := p.startup, sinks := p.sinks })
  | .resolving => (.suspended (.resolving (b.job code)), w)
  | .evaluating => (.suspended (.evaluating (b.job code)), w)
  | .refused => (.finished (.ofFault .notLoaded), { b with startup := p.startup, sinks := p.sinks })
  | .concluded report _ =>
    (.finished report, b.concluded code (p.phase.calls (b.job code)) p.startup p.sinks)

theorem further_awaiting (startup : Startup) {sinks : Sinks} (next : sinks.next = b.sinks.next) :
    Workspace.further i (on ⟨.awaiting, startup, sinks⟩ b code) =
      (look b.sinks.next (b.replies i code) ⟨.awaiting, startup, sinks⟩).on b code := by
  have job : ({ b with startup, sinks } : Workspace).job code = b.job code := by
    simp [Workspace.job, next]
  simp only [on, Workspace.further, Workspace.advance, Workspace.proceed, look]
  cases hq : startup.settled? with
  | none => rfl
  | some status =>
    cases hr : status.isReady && startup.hasInterpreter with
    | false => obtain h | h := Bool.and_eq_false_iff.mp hr <;> simp [h, Workspace.hear]
    | true =>
      -- the job is the one of the beginning: nothing it is made from has changed while waiting
      obtain ⟨ready, has⟩ := Bool.and_eq_true_iff.mp hr
      simp only [ready, has, Bool.not_true, Bool.false_eq_true, if_false, Workspace.launch_eq, job,
        Workspace.hear, Workspace.writeAll_eq]
      rfl

theorem further_resolving (startup : Startup) (sinks : Sinks) :
    Workspace.further i (on ⟨.resolving, startup, sinks⟩ b code) =
      (look b.sinks.next (b.replies i code) ⟨.resolving, startup, sinks⟩).on b code := by
  have reply : (on ⟨.resolving, startup, sinks⟩ b code).2.resolution i (b.job code) =
      (b.replies i code).resolution := rfl
  have goes : Workspace.further i (on ⟨.resolving, startup, sinks⟩ b code) =
      (on ⟨.resolving, startup, sinks⟩ b code).2.advance i (.resolving (b.job code)) := rfl
  rw [goes, Workspace.advance, reply, look]
  cases (b.replies i code).resolution.answer with
  | none => rfl
  | some answer =>
    cases answer with
    | error m => rfl
    | ok _ =>
      have called : (on ⟨.resolving, startup, sinks⟩ b code).2.call
          (.evaluate (b.job code).prepared.code) = (on ⟨.evaluating, startup, sinks⟩ b code).2 := by
        simp [on, Workspace.call, Workspace.handing, Workspace.handled, Phase.calls]
      simp only [Workspace.resolved, called, Workspace.hear, Workspace.writeAll_eq]
      rfl

theorem further_evaluating (startup : Startup) (sinks : Sinks) :
    Workspace.further i (on ⟨.evaluating, startup, sinks⟩ b code) =
      (look b.sinks.next (b.replies i code) ⟨.evaluating, startup, sinks⟩).on b code := by
  have reply : (on ⟨.evaluating, startup, sinks⟩ b code).2.evaluation i (b.job code) =
      (b.replies i code).evaluation := rfl
  have goes : Workspace.further i (on ⟨.evaluating, startup, sinks⟩ b code) =
      (on ⟨.evaluating, startup, sinks⟩ b code).2.advance i (.evaluating (b.job code)) := rfl
  rw [goes, Workspace.advance, reply, look]
  cases (b.replies i code).evaluation.answer with
  | none => rfl
  | some answer => cases answer <;> rfl

/-- A run looks where it stands, and its passage goes on by the replies to it. -/
theorem further_on (code : String) (own : p.phase = .awaiting → p.sinks.next = b.sinks.next) :
    Workspace.further i (p.on b code) = (p.look b.sinks.next (b.replies i code)).on b code := by
  obtain ⟨phase, startup, sinks⟩ := p
  cases phase with
  | awaiting => exact further_awaiting startup (own rfl)
  | resolving => exact further_resolving startup sinks
  | evaluating => exact further_evaluating startup sinks
  | refused | concluded report evaluated => rfl

end Passage

namespace Workspace

theorem calls_on (p : Passage) (b : Workspace) (code : String) :
    (p.on b code).2.calls = b.calls ++ p.phase.calls (b.job code) := by
  obtain ⟨phase, startup, sinks⟩ := p
  cases phase <;> simp [Passage.on, handing, handled, concluded, Phase.calls]

theorem report?_on (p : Passage) (b : Workspace) (code : String) :
    (p.on b code).1.report? = p.phase.report? := by
  obtain ⟨phase, startup, sinks⟩ := p
  cases phase <;> rfl

theorem startup_on (p : Passage) (b : Workspace) (code : String) :
    (p.on b code).2.startup = p.startup ∧ (p.on b code).2.sinks = p.sinks := by
  obtain ⟨phase, startup, sinks⟩ := p
  cases phase <;> exact ⟨rfl, rfl⟩

/-- What stands in the transcript makes no difference to a run but in the transcript. -/
theorem on_retold (p : Passage) (b : Workspace) (code : String) (t : Transcript) :
    ∃ u, p.on { b with transcript := t } code =
      ((p.on b code).1, { (p.on b code).2 with transcript := u }) := by
  refine ⟨(p.on { b with transcript := t } code).2.transcript, ?_⟩
  obtain ⟨phase, startup, sinks⟩ := p
  have prepared : (b.plotter.prepare code t).1 = (b.plotter.prepare code b.transcript).1 ∧
      (b.plotter.prepare code t).2.1 = (b.plotter.prepare code b.transcript).2.1 := by
    rw [Plotter.prepare_eq, Plotter.prepare_eq]
    split <;> exact ⟨rfl, rfl⟩
  have finished (q : Plotter) (x : Prepared) (t t' : Transcript) :
      (q.finish x t).1 = (q.finish x t').1 := by
    cases h : x.target <;> simp [Plotter.finish, h]
  cases phase with
  | awaiting | refused => rfl
  | resolving | evaluating =>
    simp only [Passage.on, job_retold, handing, handled, prepared]
  | concluded report evaluated =>
    simp only [Passage.on, job_retold, concluded, prepared]
    rw [finished]

end Workspace

end Workpad
