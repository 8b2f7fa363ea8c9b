import Workpad.Proofs.Startup.Loaded
import Workpad.Run.Workspace

/-!
Running code step by step comes to the same as running it as far as it goes: it makes no difference
where a run waits in between, and when the load comes to its end.
-/
namespace Workpad

structure Interpreter.Answers (i : Interpreter) : Prop where
  resolve : ∀ calls code, (i.resolve calls code).answer ≠ none
  evaluate : ∀ calls code, (i.evaluate calls code).answer ≠ none

def Stage.isLaunched : Stage → Bool
  | .awaiting _ => false
  | .resolving _ | .evaluating _ => true

namespace Workspace
variable {i : Interpreter} {w : Workspace}

def withStartup (s : Startup) (w : Workspace) : Workspace := { w with startup := s }

def loaded (w : Workspace) : Workspace := w.withStartup w.startup.loaded

/-! Once its code is with the interpreter, a run does not look at the startup. -/

theorem writeAll_withStartup (s : Startup) (w : Workspace) (cs : List Chunk) :
    (w.withStartup s).writeAll cs = (w.writeAll cs).withStartup s := by
  induction cs generalizing w with
  | nil => rfl
  | cons c cs ih =>
    have hc : (w.withStartup s).writeInstalled c = (w.writeInstalled c).withStartup s := by
      cases h : w.sinks.installed? c.stream <;> simp [writeInstalled, withStartup, h, write]
    simpa [writeAll, hc] using ih (w.writeInstalled c)

theorem startup_writeAll (w : Workspace) (cs : List Chunk) : (w.writeAll cs).startup = w.startup := by
  induction cs generalizing w with
  | nil => rfl
  | cons c cs ih =>
    have hc : (w.writeInstalled c).startup = w.startup := by
      cases h : w.sinks.installed? c.stream <;> simp [writeInstalled, h, write]
    exact (ih (w.writeInstalled c)).trans hc

theorem hear_withStartup (i : Interpreter) (s : Startup) (x : Progress × Workspace) :
    hear i (Prod.map id (withStartup s) x) = Prod.map id (withStartup s) (hear i x) := by
  rcases x with ⟨⟨_ | _ | _⟩ | _, w⟩
  case suspended.resolving => simp only [hear, Prod.map, id, ← writeAll_withStartup]; rfl
  case suspended.evaluating => simp only [hear, Prod.map, id, ← writeAll_withStartup]; rfl
  all_goals rfl

theorem startup_hear (i : Interpreter) (x : Progress × Workspace) :
    (hear i x).2.startup = x.2.startup := by
  rcases x with ⟨⟨_ | _ | _⟩ | _, w⟩ <;> simp [hear, startup_writeAll]

theorem resolved_withStartup (s : Startup) (w : Workspace) (job : Job) (a : Except String Unit) :
    (w.withStartup s).resolved job a = Prod.map id (withStartup s) (w.resolved job a) := by
  cases a <;> rfl

theorem evaluated_withStartup (s : Startup) (w : Workspace) (job : Job)
    (a : Except String (Option String)) :
    (w.withStartup s).evaluated job a = Prod.map id (withStartup s) (w.evaluated job a) := by
  cases a <;> rfl

theorem advance_withStartup (s : Startup) (w : Workspace) {stage : Stage}
    (h : stage.isLaunched = true) :
    (w.withStartup s).advance i stage = Prod.map id (withStartup s) (w.advance i stage) := by
  cases stage with
  | awaiting code => simp [Stage.isLaunched] at h
  | resolving job =>
    have hr : (w.withStartup s).resolution i job = w.resolution i job := rfl
    cases ha : (w.resolution i job).answer with
    | none => simp [advance, hr, ha]
    | some a => simp only [advance, hr, ha, resolved_withStartup, hear_withStartup]
  | evaluating job =>
    have hr : (w.withStartup s).evaluation i job = w.evaluation i job := rfl
    cases ha : (w.evaluation i job).answer with
    | none => simp [advance, hr, ha]
    | some a => simp only [advance, hr, ha, evaluated_withStartup]

theorem startup_resolved (w : Workspace) (job : Job) (a : Except String Unit) :
    (w.resolved job a).2.startup = w.startup := by
  cases a <;> rfl

theorem startup_evaluated (w : Workspace) (job : Job) (a : Except String (Option String)) :
    (w.evaluated job a).2.startup = w.startup := by
  cases a <;> rfl

theorem startup_launch (w : Workspace) (code : String) : (w.launch code).2.startup = w.startup := rfl

theorem startup_proceed (w : Workspace) (code : String) :
    (w.proceed code).2.startup = w.startup := by
  unfold proceed
  split
  · rfl
  · split
    · rfl
    · split
      · rfl
      · exact startup_launch w code

theorem startup_advance (i : Interpreter) (w : Workspace) (stage : Stage) :
    (w.advance i stage).2.startup = w.startup := by
  cases stage with
  | awaiting code => exact (startup_hear i _).trans (startup_proceed w code)
  | resolving job =>
    cases ha : (w.resolution i job).answer with
    | none => simp [advance, ha]
    | some a =>
      simp only [advance, ha]
      exact (startup_hear i _).trans (startup_resolved w job a)
  | evaluating job =>
    cases ha : (w.evaluation i job).answer with
    | none => simp [advance, ha]
    | some a => simpa [advance, ha] using startup_evaluated w job a

/-! A run waits three times at most. -/

theorem further_evaluating (i : Interpreter) (w : Workspace) (job : Job) :
    further i (w.advance i (.evaluating job)) = w.advance i (.evaluating job) := by
  cases ha : (w.evaluation i job).answer with
  | none => simp [advance, ha, further]
  | some a =>
    obtain m | v := a <;> simp [advance, ha, evaluated, conclude, further]

theorem further_resolving (i : Interpreter) (w : Workspace) (job : Job) :
    further i (further i (w.advance i (.resolving job))) =
      further i (w.advance i (.resolving job)) := by
  cases ha : (w.resolution i job).answer with
  | none => simp [advance, ha, further]
  | some a =>
    cases a with
    | error m => simp [advance, ha, resolved, conclude, hear, further]
    | ok _ => simpa [advance, ha, resolved, hear, further] using further_evaluating i _ job

theorem further_of_isLaunched (i : Interpreter) (w : Workspace) {stage : Stage}
    (h : stage.isLaunched = true) :
    further i (further i (w.advance i stage)) = further i (w.advance i stage) := by
  cases stage with
  | awaiting code => simp [Stage.isLaunched] at h
  | resolving job => exact further_resolving i w job
  | evaluating job => rw [further_evaluating, further_evaluating]

def complete (i : Interpreter) (w : Workspace) (stage : Stage) : Progress × Workspace :=
  w.loaded.resume i stage

def completed (i : Interpreter) : Progress × Workspace → Progress × Workspace
  | (.suspended stage, w) => w.complete i stage
  | (.finished report, w) => (.finished report, w.loaded)

theorem complete_eq (h : w.startup.Sound) (stage : Stage) :
    w.complete i stage = further i (further i (w.loaded.advance i stage)) := by
  have hl : w.loaded.runTasks = w.loaded := by
    simp only [runTasks, loaded, withStartup, Startup.runTasks_loaded h]
  rw [complete, resume, hl]

/-- If the run was with the interpreter when it was taken a step, no more than two are left. -/
theorem completed_of_loaded {x : Progress × Workspace} (hs : x.2.startup.Sound)
    (hx : ∀ stage, x.1 = .suspended stage → stage.isLaunched = true) :
    completed i x = further i (further i (Prod.map id loaded x)) := by
  obtain ⟨stage | report, w⟩ := x
  · rw [completed, complete_eq hs]
    exact further_of_isLaunched i w.loaded (hx stage rfl)
  · rfl

theorem isLaunched_hear (x : Progress × Workspace) {stage : Stage}
    (h : (hear i x).1 = .suspended stage) : x.1 = .suspended stage := by
  rcases x with ⟨⟨_ | _ | _⟩ | _, w⟩ <;> exact h

theorem isLaunched_advance (w : Workspace) {stage next : Stage} (h : stage.isLaunched = true)
    (hn : (w.advance i stage).1 = .suspended next) : next.isLaunched = true := by
  cases stage with
  | awaiting code => simp [Stage.isLaunched] at h
  | resolving job =>
    cases ha : (w.resolution i job).answer with
    | none =>
      simp only [advance, ha, Progress.suspended.injEq] at hn
      rw [← hn, Stage.isLaunched]
    | some a =>
      simp only [advance, ha] at hn
      have hr := isLaunched_hear _ hn
      cases a with
      | error m => simp [resolved, conclude] at hr
      | ok _ =>
        simp only [resolved, Progress.suspended.injEq] at hr
        rw [← hr, Stage.isLaunched]
  | evaluating job =>
    cases ha : (w.evaluation i job).answer with
    | none =>
      simp only [advance, ha, Progress.suspended.injEq] at hn
      rw [← hn, Stage.isLaunched]
    | some a => cases a <;> simp [advance, ha, evaluated, conclude] at hn

theorem isLaunched_proceed {code : String} {status : Status}
    (hq : w.startup.settled? = some status) {stage : Stage}
    (h : (w.proceed code).1 = .suspended stage) : stage.isLaunched = true := by
  unfold proceed at h
  rw [hq] at h
  simp only at h
  split at h
  · contradiction
  · split at h
    · contradiction
    · cases h
      rfl

/-- A step that a run can make, it makes in the same way once the load has come to its end. -/
theorem proceed_loaded (h : w.startup.Sound) {code : String} {status : Status}
    (hq : w.startup.settled? = some status) :
    w.loaded.proceed code = Prod.map id loaded (w.proceed code) := by
  obtain ⟨hl, hh⟩ := Startup.settled?_loaded h hq
  unfold proceed
  rw [show w.loaded.startup = w.startup.loaded from rfl, hl, hq, hh]
  simp only
  split
  · rfl
  · split <;> rfl

theorem map_loaded (x : Progress × Workspace) (hs : x.2.startup = w.startup) :
    Prod.map id loaded x = Prod.map id (withStartup w.startup.loaded) x := by
  simp only [Prod.map, loaded, hs]

theorem completed_advance (h : w.startup.Sound) (stage : Stage) :
    completed i (w.advance i stage) = w.complete i stage := by
  have hs : (w.advance i stage).2.startup.Sound := by rwa [startup_advance]
  cases stage with
  | awaiting code =>
    cases hq : w.startup.settled? with
    | none => simp [advance, proceed, hq, hear, completed]
    | some status =>
      have hl : w.loaded.advance i (.awaiting code) =
          Prod.map id loaded (w.advance i (.awaiting code)) := by
        rw [map_loaded _ (startup_advance i w _), advance, advance, proceed_loaded h hq,
          map_loaded _ (startup_proceed w code), hear_withStartup]
      rw [complete_eq h, hl]
      exact completed_of_loaded hs fun next hn =>
        isLaunched_proceed hq (isLaunched_hear _ hn)
  | resolving job | evaluating job =>
    rw [complete_eq h, loaded, advance_withStartup _ _ rfl,
      ← map_loaded _ (startup_advance i w _)]
    exact completed_of_loaded hs fun next hn => isLaunched_advance w rfl hn

/-- Asking and then running as far as it goes is running on the workspace whose load has ended. -/
theorem complete_request (h : w.startup.Sound) (stage : Stage) :
    w.request.complete i stage = w.loaded.request.resume i stage := by
  have hr : w.loaded.request.runTasks = w.request.loaded := by
    simp only [runTasks, request, loaded, withStartup, Startup.runTasks_request_loaded h]
  have hl : w.request.loaded.runTasks = w.request.loaded := by
    simp only [runTasks, request, loaded, withStartup, Startup.runTasks_loaded h.request]
  rw [complete, resume, resume, hl, hr]

end Workspace

end Workpad
