import Workpad.Proofs.Run.Protocol

/-!
A run under way while the world goes on: the load moves, and the interpreter writes to whatever buffer
it has. Wherever the run waits, what it has made of its workspace is known from where it began, and
so is what it comes to.
-/
namespace Workpad

namespace Sinks
variable {s : Sinks} {own : Nat}

/-- Writing changes neither which buffer is installed nor how many there are. -/
theorem Takes.write (h : s.Takes own) (buffer : Nat) (chunk : Chunk) :
    (s.write buffer chunk).Takes own := by
  refine ⟨by simpa using h.made, fun stream => ?_⟩
  cases stream
  · exact h.installed .out
  · exact h.installed .err

end Sinks

namespace Workspace
variable {i : Interpreter} {b w : Workspace} {code : String} {clean : Prop} {stage : Stage}

def resolving (i : Interpreter) (b : Workspace) (code : String) : Reply Unit :=
  i.resolve (b.calls ++ (b.job code).calls) (b.job code).prepared.code

def evaluating (i : Interpreter) (b : Workspace) (code : String) : Reply (Option String) :=
  i.evaluate (b.calls ++ (Stage.evaluating (b.job code)).calls) (b.job code).prepared.code

/-- What stands in the transcript does not matter for a job. -/
theorem job_retold (w : Workspace) (code : String) (t : Transcript) :
    ({ w with transcript := t } : Workspace).job code = w.job code := by
  rw [job, job, Plotter.prepare_eq, Plotter.prepare_eq]
  split <;> rfl

/-- How a workspace stands with code that began on `b` and waits at a stage. If nobody else has
written to the buffer of the run (`clean`), what is in it was the interpreter's reply. -/
inductive Stands (i : Interpreter) (b : Workspace) (code : String) (clean : Prop) :
    Stage → Workspace → Prop
  | awaiting (startup : Startup) {sinks : Sinks} (next : sinks.next = b.sinks.next) :
    Stands i b code clean (.awaiting code) { b with startup, sinks }
  | resolving {startup : Startup} {sinks : Sinks} (ready : startup.settled? = some .ready)
    (takes : sinks.Takes b.sinks.next)
    (heard : clean → sinks.contents b.sinks.next = (b.resolving i code).output) :
    Stands i b code clean (.resolving (b.job code))
      { b.handing code (b.job code).calls sinks with startup }
  | evaluating {startup : Startup} {sinks : Sinks} (ready : startup.settled? = some .ready)
    (takes : sinks.Takes b.sinks.next)
    (heard : clean → sinks.contents b.sinks.next =
      (b.resolving i code).output ++ (b.evaluating i code).output)
    (resolved : (b.resolving i code).answer = some (.ok ())) :
    Stands i b code clean (.evaluating (b.job code))
      { b.handing code (Stage.evaluating (b.job code)).calls sinks with startup }

def concluded (b : Workspace) (code : String) (calls : List Call) (startup : Startup) (sinks : Sinks) :
    Workspace :=
  let (prepared, plotter, transcript) := b.plotter.prepare code b.transcript
  { b with
    startup
    plotter := (plotter.finish prepared transcript).1
    transcript := (plotter.finish prepared transcript).2
    sinks
    calls := b.calls ++ calls }

/-- What code that began on `b` has come to: refused as the load has failed, or with the outcome that
the interpreter gave it. -/
inductive Ends (i : Interpreter) (b : Workspace) (code : String) (clean : Prop) :
    Report → Workspace → Prop
  | refused (startup : Startup) (sinks : Sinks) {status : Status}
    (settled : startup.settled? = some status) (failed : status ≠ .ready) :
    Ends i b code clean (.ofFault .notLoaded) { b with startup, sinks }
  | concluded {startup : Startup} (sinks : Sinks) {output : List Chunk} {outcome : Outcome}
    (ready : startup.settled? = some .ready)
    (heard : clean → output = (i.handle b.calls (b.job code)).output)
    (comes : (i.handle b.calls (b.job code)).outcome = some outcome) :
    Ends i b code clean ⟨output, outcome⟩
      (b.concluded code (i.handle b.calls (b.job code)).calls startup sinks)

/-- The load moves. -/
theorem Stands.onward (h : Stands i b code clean stage w) (sound : w.startup.Sound) {s : Startup}
    (moves : w.startup.Onward s) : Stands i b code clean stage { w with startup := s } := by
  cases h with
  | awaiting startup next => exact .awaiting s next
  | resolving ready takes heard => exact .resolving (moves.settled? sound ready) takes heard
  | evaluating ready takes heard resolved =>
    exact .evaluating (moves.settled? sound ready) takes heard resolved

/-- The interpreter writes to one of its buffers. -/
theorem Stands.write (h : Stands i b code clean stage w) {buffer : Nat} (chunk : Chunk)
    (other : clean → buffer ≠ b.sinks.next) : Stands i b code clean stage (w.write buffer chunk) := by
  cases h with
  | awaiting startup next => exact .awaiting startup (by simpa using next)
  | resolving ready takes heard =>
    apply Stands.resolving ready (takes.write buffer chunk)
    exact fun hc => (Sinks.contents_write_of_ne (other hc) chunk).trans (heard hc)
  | evaluating ready takes heard resolved =>
    refine .evaluating ready (takes.write buffer chunk) (fun hc => ?_) resolved
    exact (Sinks.contents_write_of_ne (other hc) chunk).trans (heard hc)

theorem Ends.onward {report : Report} (h : Ends i b code clean report w) (sound : w.startup.Sound)
    {s : Startup} (moves : w.startup.Onward s) :
    Ends i b code clean report { w with startup := s } := by
  cases h with
  | refused startup sinks settled failed =>
    exact .refused s sinks (moves.settled? sound settled) failed
  | concluded sinks ready heard comes =>
    exact .concluded sinks (moves.settled? sound ready) heard comes

theorem Ends.write {report : Report} (h : Ends i b code clean report w) (buffer : Nat)
    (chunk : Chunk) : Ends i b code clean report (w.write buffer chunk) := by
  cases h with
  | refused startup sinks settled failed => exact .refused startup _ settled failed
  | concluded sinks ready heard comes => exact .concluded _ ready heard comes

def Goes (i : Interpreter) (b : Workspace) (code : String) (clean : Prop) (launched : Bool) :
    Progress × Workspace → Prop
  | (.suspended stage, w) => Stands i b code clean stage w ∧ stage.isLaunched = launched
  | (.finished report, w) => Ends i b code clean report w

theorem handle_of_hangs (h : (b.resolving i code).answer = none) :
    i.handle b.calls (b.job code) = ⟨(b.job code).calls, (b.resolving i code).output, none⟩ := by
  rw [resolving] at h
  simp only [Interpreter.handle, resolving, h]

theorem handle_of_error {m : String} (h : (b.resolving i code).answer = some (.error m)) :
    i.handle b.calls (b.job code) = ⟨(b.job code).calls, (b.resolving i code).output,
      some (.error (.dependency m))⟩ := by
  rw [resolving] at h
  simp only [Interpreter.handle, resolving, h]

theorem handle_of_ok (h : (b.resolving i code).answer = some (.ok ())) :
    i.handle b.calls (b.job code) = ⟨(Stage.evaluating (b.job code)).calls,
      (b.resolving i code).output ++ (b.evaluating i code).output,
      (b.evaluating i code).answer.map (·.mapError .evaluation)⟩ := by
  rw [resolving] at h
  simp only [Interpreter.handle, resolving, h]
  rfl

/-- A run that waits for the interpreter looks for it. -/
theorem goes_awaiting (startup : Startup) {sinks : Sinks} (next : sinks.next = b.sinks.next)
    (sound : startup.Sound) : Goes i b code clean startup.status.isReady
      (advance i { b with startup, sinks } (.awaiting code)) := by
  generalize hw : ({ b with startup, sinks } : Workspace) = w
  have hs : w.startup = startup := by rw [← hw]
  rw [← hs] at sound ⊢
  obtain ⟨hq, hp⟩ | ⟨status, hq, failed, hp⟩ | ⟨hq, -⟩ := proceed_cases sound code
  · have unready : w.startup.status.isReady = false := by
      cases hr : w.startup.status <;> simp_all [Startup.settled?, Status.isSettled, Status.isReady]
    rw [advance, hp, unready, ← hw]
    exact ⟨.awaiting startup next, rfl⟩
  · rw [advance, hp, ← hw]
    exact .refused startup sinks (hs ▸ hq) failed
  · have status := Startup.status_of_settled? hq
    have has : w.startup.hasInterpreter = true := sound.hasInterpreter_iff.mpr status
    obtain ⟨made, hp, empty, takes⟩ := launch_handing code hq has
    obtain ⟨written, hw', out, takes⟩ := writeAll_takes (w := w.handing code (w.job code).calls made)
      takes (w.resolving i code).output
    have goes : w.advance i (.awaiting code) =
        (.suspended (.resolving (w.job code)), w.handing code (w.job code).calls written) := by
      rw [advance, hp]
      exact congrArg (Prod.mk _) hw'
    have heard : written.contents w.sinks.next = (w.resolving i code).output := by
      rw [out]
      exact (congrArg (· ++ _) empty).trans (List.nil_append _)
    have job : w.job code = b.job code := by simp [Workspace.job, ← hw, next]
    have same : w.resolving i code = b.resolving i code := by
      rw [Workspace.resolving, Workspace.resolving, job, ← hw]
    have nexts : w.sinks.next = b.sinks.next := by rw [← hw]; exact next
    have under : w.handing code (w.job code).calls written =
        { b.handing code (b.job code).calls written with startup } := by rw [job, ← hw]; rfl
    rw [goes, under, job, status]
    rw [same, nexts] at heard
    rw [nexts] at takes
    exact ⟨.resolving (hs ▸ hq) takes fun _ => heard, rfl⟩

/-- A run that waits for its imports looks for the answer. -/
theorem goes_resolving {startup : Startup} {sinks : Sinks} (ready : startup.settled? = some .ready)
    (takes : sinks.Takes b.sinks.next)
    (heard : clean → sinks.contents b.sinks.next = (b.resolving i code).output) :
    Goes i b code clean true
      (advance i { b.handing code (b.job code).calls sinks with startup } (.resolving (b.job code))) := by
  generalize hw : ({ b.handing code (b.job code).calls sinks with startup } : Workspace) = w
  have reply : w.resolution i (b.job code) = b.resolving i code := by rw [← hw]; rfl
  rw [advance, reply]
  cases ha : (b.resolving i code).answer with
  | none =>
    rw [← hw]
    exact ⟨.resolving ready takes heard, rfl⟩
  | some a =>
    cases a with
    | error m =>
      have handled := handle_of_error ha
      have comes : (i.handle b.calls (b.job code)).outcome = some (.error (.dependency m)) := by
        rw [handled]
      have whole : clean → sinks.contents b.sinks.next = (i.handle b.calls (b.job code)).output := by
        rw [handled]
        exact heard
      have ends := Ends.concluded (sinks.drain b.sinks.next) ready whole comes
      rw [handled] at ends
      rw [← hw]
      exact ends
    | ok _ =>
      have called : w.call (.evaluate (b.job code).prepared.code) =
          { b.handing code (Stage.evaluating (b.job code)).calls sinks with startup } := by
        simp [← hw, call, handing, handled, Stage.calls]
      obtain ⟨written, hw', out, takes⟩ := writeAll_takes
        (w := { b.handing code (Stage.evaluating (b.job code)).calls sinks with startup }) takes
        (b.evaluating i code).output
      have goes : hear i (w.resolved (b.job code) (.ok ())) =
          (.suspended (.evaluating (b.job code)),
            { b.handing code (Stage.evaluating (b.job code)).calls written with startup }) := by
        rw [resolved, called]
        exact congrArg (Prod.mk _) hw'
      change Goes i b code clean true (hear i (w.resolved (b.job code) (.ok ())))
      rw [goes]
      refine ⟨.evaluating ready takes (fun hc => ?_) ha, rfl⟩
      rw [out]
      exact congrArg (· ++ _) (heard hc)

/-- A run that waits for its value looks for the answer. -/
theorem goes_evaluating {startup : Startup} {sinks : Sinks} (ready : startup.settled? = some .ready)
    (takes : sinks.Takes b.sinks.next)
    (heard : clean → sinks.contents b.sinks.next =
      (b.resolving i code).output ++ (b.evaluating i code).output)
    (resolved : (b.resolving i code).answer = some (.ok ())) :
    Goes i b code clean true (advance i
      { b.handing code (Stage.evaluating (b.job code)).calls sinks with startup }
      (.evaluating (b.job code))) := by
  generalize hw :
    ({ b.handing code (Stage.evaluating (b.job code)).calls sinks with startup } : Workspace) = w
  have reply : w.evaluation i (b.job code) = b.evaluating i code := by rw [← hw]; rfl
  have handled := handle_of_ok resolved
  rw [advance, reply]
  cases ha : (b.evaluating i code).answer with
  | none =>
    rw [← hw]
    exact ⟨.evaluating ready takes heard resolved, rfl⟩
  | some a =>
    have comes : (i.handle b.calls (b.job code)).outcome = some (a.mapError .evaluation) := by
      rw [handled, ha]
      rfl
    have whole : clean → sinks.contents b.sinks.next = (i.handle b.calls (b.job code)).output := by
      rw [handled]
      exact heard
    have ends := Ends.concluded (sinks.drain b.sinks.next) ready whole comes
    rw [handled] at ends
    rw [← hw]
    cases a <;> exact ends

/-- Wherever a run waits, a look takes it on or leaves it there. It is with the interpreter from the
first look on that finds that ready. -/
theorem Stands.advance (h : Stands i b code clean stage w) (sound : w.startup.Sound) :
    Goes i b code clean (stage.isLaunched || w.startup.status.isReady) (w.advance i stage) := by
  cases h with
  | awaiting startup next => exact goes_awaiting startup next sound
  | resolving ready takes heard => exact goes_resolving ready takes heard
  | evaluating ready takes heard resolved => exact goes_evaluating ready takes heard resolved

end Workspace
end Workpad
