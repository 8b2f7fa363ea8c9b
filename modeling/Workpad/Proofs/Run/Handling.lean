import Workpad.Proofs.Run.Capture

/-!
What a run comes to for an interpreter whose replies are known. Once the interpreter is there, the
calls that were made before and the code that is handed over decide everything that the run makes of
it.
-/
namespace Workpad

/-- The calls for code that is handed over with a buffer: the buffer is installed for both streams, the
imports are resolved, and the code may be evaluated. -/
def Call.sequence (buffer : Nat) (code : String) (evaluated : Bool) : List Call :=
  [.install .out buffer, .install .err buffer, .resolve code] ++
    if evaluated then [.evaluate code] else []

@[simp] theorem Fault.mapError_ok (value : Option String) :
    (Except.ok value : Except String (Option String)).mapError evaluation = .ok value := rfl

@[simp] theorem Fault.mapError_error (m : String) :
    (Except.error m : Except String (Option String)).mapError evaluation =
      .error (.evaluation m) := rfl

structure Handling where
  calls : List Call
  output : List Chunk
  outcome : Option Outcome

def Handling.report? (h : Handling) : Option Report := h.outcome.map fun outcome => ⟨h.output, outcome⟩

def Interpreter.handle (i : Interpreter) (before : List Call) (job : Job) : Handling :=
  let resolution := i.resolve (before ++ job.calls) job.prepared.code
  match resolution.answer with
  | none => ⟨job.calls, resolution.output, none⟩
  | some (.error m) => ⟨job.calls, resolution.output, some (.error (.dependency m))⟩
  | some (.ok _) =>
    let calls := job.calls ++ [.evaluate job.prepared.code]
    let evaluation := i.evaluate (before ++ calls) job.prepared.code
    ⟨calls, resolution.output ++ evaluation.output, evaluation.answer.map (·.mapError .evaluation)⟩

theorem Interpreter.Answers.report?_handle {i : Interpreter} (h : i.Answers) (before : List Call)
    (job : Job) : (i.handle before job).report? ≠ none := by
  have resolved := h.resolve (before ++ job.calls) job.prepared.code
  have evaluated := h.evaluate (before ++ (job.calls ++ [.evaluate job.prepared.code]))
    job.prepared.code
  simp only [handle, Handling.report?]
  split
  next hn => exact (resolved hn).elim
  next m _ => simp
  next _ => simpa using evaluated

structure Sinks.Takes (s : Sinks) (b : Nat) : Prop where
  made : b < s.next
  installed : ∀ stream, s.installed? stream = some b

namespace Workspace
variable {i : Interpreter} {w : Workspace} {code : String}

theorem writeAll_takes {b : Nat} (h : w.sinks.Takes b) (cs : List Chunk) :
    ∃ sinks, w.writeAll cs = { w with sinks } ∧ sinks.contents b = w.sinks.contents b ++ cs ∧
      sinks.Takes b := by
  induction cs generalizing w with
  | nil => exact ⟨w.sinks, rfl, by simp, h⟩
  | cons c cs ih =>
    have one : w.writeInstalled c = w.write b c := by rw [writeInstalled, h.installed]
    have takes : (w.write b c).sinks.Takes b := by
      refine ⟨by simpa [write] using h.made, fun stream => ?_⟩
      cases stream
      · exact h.installed .out
      · exact h.installed .err
    obtain ⟨sinks, hw, hc, ht⟩ := ih takes
    refine ⟨sinks, ?_, ?_, ht⟩
    · rw [writeAll, List.foldl_cons, one]
      exact hw
    · rw [hc, write, Sinks.contents_write_self h.made, List.append_assoc]
      rfl

theorem sound_ofSettings (s : Settings) (supply : Supply) (loader : String → LoadAnswer)
    (mayFinish : Bool) (t : Transcript) :
    (ofSettings s supply loader mayFinish t).startup.Sound := Startup.sound_new _ _ _

theorem fresh_ofSettings (s : Settings) (supply : Supply) (loader : String → LoadAnswer)
    (mayFinish : Bool) {t : Transcript} (ht : t.entries = []) :
    (ofSettings s supply loader mayFinish t).plotter.Fresh t := by
  refine ⟨rfl, ?_⟩
  simp [Transcript.targets, ht]

/-- A run that has not ended is given up. -/
def stop : Progress × Workspace → Option Report × Workspace
  | (.finished report, w) => (some report, w)
  | (.suspended stage, w) => (none, w.cancel stage)

def job (w : Workspace) (code : String) : Job :=
  ⟨(w.plotter.prepare code w.transcript).1, w.sinks.next⟩

def handled (w : Workspace) (code : String) (calls : List Call) (sinks : Sinks) : Workspace :=
  { w with
    plotter := w.plotter.after code
    transcript := (w.plotter.prepare code w.transcript).2.2
    calls := w.calls ++ calls
    sinks }

def ensured (w : Workspace) : Workspace := w.withStartup w.startup.ensure.2

theorem runOrCancel_eq (i : Interpreter) (w : Workspace) (code : String) : w.runOrCancel i code =
    stop (further i (further i (w.ensured.advance i (.awaiting code)))) := rfl

theorem runOrCancel_waiting (h : w.startup.ensure.1 = none) :
    w.runOrCancel i code = (none, w.ensured) := by
  have hq : w.ensured.startup.settled? = none := h
  have hw : w.ensured.advance i (.awaiting code) = (.suspended (.awaiting code), w.ensured) := by
    simp [advance, proceed, hq, hear]
  rw [runOrCancel_eq, hw, further, hw, further, hw]
  rfl

theorem runOrCancel_refused {status : Status} (h : w.startup.ensure.1 = some status)
    (hs : status ≠ .ready) :
    w.runOrCancel i code = (some (.ofFault .notLoaded), w.ensured) := by
  have hq : w.ensured.startup.settled? = some status := h
  have hw : w.ensured.advance i (.awaiting code) =
      (.finished (.ofFault .notLoaded), w.ensured) := by
    simp [advance, proceed, hq, Status.isReady, hs, hear]
  rw [runOrCancel_eq, hw]
  rfl

/-- The workspace when the code has been handed over and the interpreter has been called again for
it, the last calls being `calls`. -/
def handing (w : Workspace) (code : String) (calls : List Call) (sinks : Sinks) : Workspace :=
  { w.handled code calls sinks with plotter := (w.plotter.prepare code w.transcript).2.1 }

theorem cancel_handing (fresh : w.plotter.Fresh w.transcript) (calls : List Call) (sinks : Sinks) :
    (w.handing code calls sinks).cancel (.resolving (w.job code)) = w.handled code calls sinks ∧
      (w.handing code calls sinks).cancel (.evaluating (w.job code)) =
        w.handled code calls sinks := by
  have ha := Plotter.abandon_prepare fresh.free code w.transcript
  simp [handing, handled, cancel, job, ha]

theorem conclude_handing (fresh : w.plotter.Fresh w.transcript) (calls : List Call) (sinks : Sinks)
    (outcome : Outcome) : (w.handing code calls sinks).conclude (w.job code) outcome =
      (.finished ⟨sinks.contents w.sinks.next, outcome⟩,
        w.handled code calls (sinks.drain w.sinks.next)) := by
  have hf := Plotter.finish_prepare fresh code
  simp [handing, handled, conclude, job, hf]

theorem launch_handing (code : String) (there : w.startup.settled? = some .ready)
    (has : w.startup.hasInterpreter = true) : ∃ sinks,
      w.proceed code =
        (.suspended (.resolving (w.job code)), w.handing code (w.job code).calls sinks) ∧
      sinks.contents w.sinks.next = [] ∧ sinks.Takes w.sinks.next := by
  refine ⟨(w.sinks.add.install w.sinks.next .out).install w.sinks.next .err, ?_, ?_, ?_, ?_⟩
  · simp [proceed, there, has, Status.isReady, launch, capture, install, call, handing, handled, job,
      Job.calls]
  · simp [Sinks.contents_add]
  · simp
  · intro stream
    cases stream <;> rfl

theorem stop_evaluating (fresh : w.plotter.Fresh w.transcript) {calls : List Call} (sinks : Sinks)
    {evaluation : Reply (Option String)}
    (reply : i.evaluate (w.calls ++ calls) (w.job code).prepared.code = evaluation) :
    ∃ sinks', stop ((w.handing code calls sinks).advance i (.evaluating (w.job code))) =
      ((evaluation.answer.map (·.mapError .evaluation)).map fun outcome =>
        ⟨sinks.contents w.sinks.next, outcome⟩, w.handled code calls sinks') := by
  have reply : (w.handing code calls sinks).evaluation i (w.job code) = evaluation := reply
  cases ha : evaluation.answer with
  | none =>
    refine ⟨sinks, ?_⟩
    simp [advance, reply, ha, stop, cancel_handing fresh]
  | some a =>
    refine ⟨sinks.drain w.sinks.next, ?_⟩
    cases a <;>
      simp [advance, reply, ha, evaluated, conclude_handing fresh, stop]

theorem stop_resolving (fresh : w.plotter.Fresh w.transcript) {sinks : Sinks}
    {resolution : Reply Unit}
    (hr : i.resolve (w.calls ++ (w.job code).calls) (w.job code).prepared.code = resolution)
    (out : sinks.contents w.sinks.next = resolution.output) (takes : sinks.Takes w.sinks.next) :
    ∃ sinks', stop (further i ((w.handing code (w.job code).calls sinks).advance i
        (.resolving (w.job code)))) =
      ((i.handle w.calls (w.job code)).report?,
        w.handled code (i.handle w.calls (w.job code)).calls sinks') := by
  have reply : (w.handing code (w.job code).calls sinks).resolution i (w.job code) = resolution := hr
  cases ha : resolution.answer with
  | none =>
    refine ⟨sinks, ?_⟩
    simp [advance, reply, ha, further, stop, cancel_handing fresh, Interpreter.handle, hr,
      Handling.report?]
  | some a =>
    cases a with
    | error m =>
      refine ⟨sinks.drain w.sinks.next, ?_⟩
      simp [advance, reply, ha, resolved, conclude_handing fresh, hear, further, stop, out,
        Interpreter.handle, hr, Handling.report?]
    | ok _ =>
      generalize hc : (w.job code).calls ++ [.evaluate (w.job code).prepared.code] = calls
      generalize he : i.evaluate (w.calls ++ calls) (w.job code).prepared.code = evaluation
      have called : (w.handing code (w.job code).calls sinks).call
          (.evaluate (w.job code).prepared.code) = w.handing code calls sinks := by
        simp [call, handing, handled, ← hc]
      have evaluation_eq : (w.handing code calls sinks).evaluation i (w.job code) = evaluation := he
      obtain ⟨written, hw, out', -⟩ := writeAll_takes (w := w.handing code calls sinks) takes
        evaluation.output
      have goes : (w.handing code (w.job code).calls sinks).advance i (.resolving (w.job code)) =
          (.suspended (.evaluating (w.job code)), w.handing code calls written) := by
        simp only [advance, reply, ha, resolved, called, hear, evaluation_eq, hw]
        rfl
      have both : written.contents w.sinks.next = resolution.output ++ evaluation.output := by
        rw [out']
        exact congrArg (· ++ _) out
      obtain ⟨sinks', hs⟩ := stop_evaluating fresh written he
      refine ⟨sinks', ?_⟩
      rw [goes, further, hs, both]
      simp [Interpreter.handle, hr, ha, hc, he, Handling.report?]

/-- With the interpreter there, a run comes to what the interpreter makes of its job. -/
theorem stop_awaiting (fresh : w.plotter.Fresh w.transcript)
    (there : w.startup.settled? = some .ready) (has : w.startup.hasInterpreter = true) :
    ∃ sinks, stop (further i (further i (w.advance i (.awaiting code)))) =
      ((i.handle w.calls (w.job code)).report?,
        w.handled code (i.handle w.calls (w.job code)).calls sinks) := by
  obtain ⟨s, hp, hc, ht⟩ := launch_handing code there has
  generalize hr : i.resolve (w.calls ++ (w.job code).calls) (w.job code).prepared.code = resolution
  obtain ⟨sinks, hw, out, takes⟩ := writeAll_takes (w := w.handing code (w.job code).calls s) ht
    resolution.output
  have reply : (w.handing code (w.job code).calls s).resolution i (w.job code) = resolution := hr
  have first : w.advance i (.awaiting code) =
      (.suspended (.resolving (w.job code)), w.handing code (w.job code).calls sinks) := by
    rw [advance, hp, hear, reply, hw]
    rfl
  have out : sinks.contents w.sinks.next = resolution.output := by
    rw [out]
    exact (congrArg (· ++ _) hc).trans (List.nil_append _)
  rw [first, further]
  exact stop_resolving fresh hr out takes

theorem runOrCancel_ready (i : Interpreter) (code : String) (sound : w.startup.Sound)
    (fresh : w.plotter.Fresh w.transcript) (h : w.startup.ensure.1 = some .ready) :
    ∃ sinks, w.runOrCancel i code = ((i.handle w.calls (w.job code)).report?,
      w.ensured.handled code (i.handle w.calls (w.job code)).calls sinks) := by
  have sound : w.ensured.startup.Sound := sound.request.runTasks
  have there : w.ensured.startup.settled? = some .ready := h
  have ready : w.ensured.startup.status = .ready := Startup.status_of_settled? there
  exact stop_awaiting (w := w.ensured) fresh there (sound.hasInterpreter_iff.mpr ready)

end Workspace

end Workpad
