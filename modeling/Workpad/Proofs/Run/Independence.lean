import Workpad.Proofs.Run.Handling
import Workpad.Proofs.Run.Targets

/-!
Earlier runs do not influence later ones. With an interpreter that goes by nothing but the code it is
handed, a run on a workspace that has seen any number of runs comes to the same as on a new one.
-/
namespace Workpad

def Interpreter.ofCode (resolve : String → Reply Unit)
    (evaluate : String → Reply (Option String)) : Interpreter where
  resolve _ code := resolve code
  evaluate _ code := evaluate code

variable {resolve : String → Reply Unit} {evaluate : String → Reply (Option String)}

/-- Jobs that get the same replies are handled alike, whatever was called before. -/
theorem Interpreter.handle_ofCode {job job' : Job}
    (hr : resolve job.prepared.code = resolve job'.prepared.code)
    (he : evaluate job.prepared.code = evaluate job'.prepared.code) (before before' : List Call) :
    let handling := (ofCode resolve evaluate).handle before job
    let handling' := (ofCode resolve evaluate).handle before' job'
    handling.report? = handling'.report? ∧ ∃ evaluated,
      handling.calls = Call.sequence job.buffer job.prepared.code evaluated ∧
        handling'.calls = Call.sequence job'.buffer job'.prepared.code evaluated := by
  simp only [handle, ofCode, hr, he]
  cases (resolve job'.prepared.code).answer with
  | none => exact ⟨rfl, false, rfl, rfl⟩
  | some a =>
    cases a with
    | error m => exact ⟨rfl, false, rfl, rfl⟩
    | ok _ => exact ⟨rfl, true, rfl, rfl⟩

theorem Startup.ensure_of_ready {s : Startup} (h : s.Sound) (hs : s.status = .ready) :
    s.ensure = (some .ready, s) := by
  have there : s.settled? = some .ready := by simp [settled?, hs, Status.isSettled]
  have asked : s.asked = true := by
    rw [h.asked, task_of_settled h there]
    rfl
  have request : s.request = s := by simp [Startup.request, asked]
  rw [ensure, request, runTasks_of_settled h there, there]

namespace Workspace
variable {w : Workspace}

def handedOver (w : Workspace) (code : String) : String :=
  if w.plotter.detects code then w.plotter.redirect w.plotter.nextId code else code

theorem code_job (free : w.plotter.slot.holder = none) (code : String) :
    (w.job code).prepared.code = w.handedOver code := by
  cases hd : w.plotter.detects code with
  | true => simp [job, handedOver, Plotter.prepare_of_detects free hd, hd]
  | false => simp [job, handedOver, Plotter.prepare_of_not_detects hd, hd]

/-- On workspaces that are ready, code that gets the same replies comes to the same. -/
theorem runOrCancel_ofCode {w w' : Workspace} (sound : w.startup.Sound) (sound' : w'.startup.Sound)
    (ready : w.startup.status = .ready) (ready' : w'.startup.status = .ready)
    (fresh : w.plotter.Fresh w.transcript) (fresh' : w'.plotter.Fresh w'.transcript) {code : String}
    (hr : resolve (w.handedOver code) = resolve (w'.handedOver code))
    (he : evaluate (w.handedOver code) = evaluate (w'.handedOver code)) :
    let i := Interpreter.ofCode resolve evaluate
    (w.runOrCancel i code).1 = (w'.runOrCancel i code).1 ∧ ∃ evaluated,
      (w.runOrCancel i code).2.calls =
          w.calls ++ Call.sequence w.sinks.next (w.handedOver code) evaluated ∧
        (w'.runOrCancel i code).2.calls =
          w'.calls ++ Call.sequence w'.sinks.next (w'.handedOver code) evaluated := by
  intro i
  have there : w.startup.ensure.1 = some .ready := by rw [Startup.ensure_of_ready sound ready]
  have there' : w'.startup.ensure.1 = some .ready := by rw [Startup.ensure_of_ready sound' ready']
  obtain ⟨sinks, hrun⟩ := runOrCancel_ready i code sound fresh there
  obtain ⟨sinks', hrun'⟩ := runOrCancel_ready i code sound' fresh' there'
  rw [← code_job fresh.free, ← code_job fresh'.free] at hr he ⊢
  obtain ⟨report, evaluated, calls, calls'⟩ := Interpreter.handle_ofCode hr he w.calls w'.calls
  rw [hrun, hrun']
  refine ⟨report, evaluated, ?_, ?_⟩
  · exact congrArg (w.calls ++ ·) calls
  · exact congrArg (w'.calls ++ ·) calls'

end Workspace

namespace Desk

/-- Take a workspace that any runs have left behind, ended or cancelled in any way, with any writes
and clearings between, and one that is new and has just loaded the interpreter. If the interpreter
goes by the code alone, and for code that plots does not look at the id put in, then running code on
either comes to the same report, and so to the same fragment, or gets stuck on both; and it makes the
same calls, but for the number of the new buffer and the id of the new target. -/
theorem earlier_runs_do_not_matter {s : Settings} {supply supply' : Supply}
    {loader loader' : String → LoadAnswer} {mayFinish : Bool} {told : Option (List ViewEvent)}
    {es : List Event} {d : Desk} {code : String}
    (reached : d = run { workspace := .ofSettings s supply loader mayFinish { told } } es)
    (idle : d.current = none) (ready : d.workspace.startup.status = .ready)
    (loads : loader' s.runtimeLocation = .ready)
    (blind : (Plotter.ofSettings s supply).detects code = true → ∀ m n,
      resolve ((Plotter.ofSettings s supply).redirect (supply.id m) code) =
          resolve ((Plotter.ofSettings s supply).redirect (supply'.id n) code) ∧
        evaluate ((Plotter.ofSettings s supply).redirect (supply.id m) code) =
          evaluate ((Plotter.ofSettings s supply).redirect (supply'.id n) code)) :
    let i := Interpreter.ofCode resolve evaluate
    let plotter := Plotter.ofSettings s supply
    let w := d.workspace
    let new := (Workspace.ofSettings s supply' loader' true {}).request.runTasks
    (w.runOrCancel i code).1 = (new.runOrCancel i code).1 ∧
      (w.runOrCancel i code).1.map Report.fragment = (new.runOrCancel i code).1.map Report.fragment ∧
      ∃ handed handed' evaluated,
        (w.runOrCancel i code).2.calls =
            w.calls ++ Call.sequence w.sinks.next handed evaluated ∧
          (new.runOrCancel i code).2.calls = Call.sequence 0 handed' evaluated ∧
          (plotter.detects code = false → handed = code ∧ handed' = code) ∧
          (plotter.detects code = true →
            handed = plotter.redirect (supply.id w.plotter.minted) code ∧
              handed' = plotter.redirect (supply'.id 0) code) := by
  intro i plotter w new
  have plotting : d.Plotting plotter := by
    have hp := Plotting.run (Workspace.sound_ofSettings s supply loader mayFinish { told })
      (Workspace.fresh_ofSettings s supply loader mayFinish rfl) es
    rwa [← reached] at hp
  have sound' : new.startup.Sound :=
    (Workspace.sound_ofSettings s supply' loader' true {}).request.runTasks
  have ready' : new.startup.status = .ready := by
    simp [new, Workspace.ofSettings, Workspace.request, Workspace.runTasks, Startup.request,
      Startup.publish, Startup.runTasks, Startup.work, loads, Startup.settle, Startup.store,
      LoadAnswer.outcome, Status.ofOutcome]
  have fresh' : new.plotter.Fresh new.transcript :=
    Workspace.fresh_ofSettings s supply' loader' true rfl
  have like : w.plotter.Like plotter := plotting.like.1
  have handed : w.handedOver code = if plotter.detects code then
      plotter.redirect (supply.id w.plotter.minted) code else code := by
    rw [Workspace.handedOver, like.detects, like.redirect, Plotter.nextId, like.supply]
    rfl
  have handed' : new.handedOver code = if plotter.detects code then
      plotter.redirect (supply'.id 0) code else code := rfl
  have same : resolve (w.handedOver code) = resolve (new.handedOver code) ∧
      evaluate (w.handedOver code) = evaluate (new.handedOver code) := by
    rw [handed, handed']
    split
    next hd => exact blind hd _ _
    next hd => exact ⟨rfl, rfl⟩
  obtain ⟨report, evaluated, calls, calls'⟩ := Workspace.runOrCancel_ofCode plotting.sound sound'
    ready ready' (plotting.idle idle) fresh' same.1 same.2
  refine ⟨report, congrArg _ report, w.handedOver code, new.handedOver code, evaluated, calls,
    calls', fun hd => ?_, fun hd => ?_⟩
  · rw [handed, handed', hd]
    exact ⟨rfl, rfl⟩
  · rw [handed, handed', hd]
    exact ⟨rfl, rfl⟩

/-- A second plot, after a first that was cancelled while its imports were resolved. -/
theorem plot_after_cancelled_plot :
    let s : Settings := {}
    let code := "import matplotlib"
    let es : List Event := [.start code, .load, .load, .load, .load, .look, .cancel]
    let d := run { workspace := .ofSettings s .numbered (fun _ => .ready) true {} } es
    let resolve := fun _ : String => (⟨[⟨.err, "found"⟩], some (.ok ())⟩ : Reply Unit)
    let evaluate := fun _ : String => (⟨[⟨.out, "drawn"⟩], some (.ok none)⟩ : Reply (Option String))
    let i := Interpreter.ofCode resolve evaluate
    let new := (Workspace.ofSettings s .numbered (fun _ => .ready) true {}).request.runTasks
    d.current = none ∧ d.workspace.startup.status = .ready ∧
      (Plotter.ofSettings s .numbered).detects code = true ∧
      (d.workspace.runOrCancel i code).1 = (new.runOrCancel i code).1 := by
  intro s code es d resolve evaluate i new
  have idle : d.current = none := rfl
  have ready : d.workspace.startup.status = .ready := rfl
  obtain ⟨report, -⟩ := @earlier_runs_do_not_matter resolve evaluate s .numbered .numbered
    (fun _ => .ready) (fun _ => .ready) true (some []) es d code rfl idle ready rfl
    fun _ _ _ => ⟨rfl, rfl⟩
  exact ⟨idle, ready, by decide, report⟩

end Desk

end Workpad
