import Workpad.Proofs.Console.Kept
import Workpad.Proofs.Console.Served

/-!
What the console announces is what comes true. An announcement tells a status that is settled, and
from then on it decides whether code reaches the interpreter; what runs no code goes on as ever.
-/
namespace Workpad

theorem Startup.settled?_cases {s : Startup} {status : Status} (h : s.settled? = some status) :
    status = .ready ∨ ∃ reason, status = .failed reason := by
  have hs := status_of_settled? h
  cases status with
  | ready => exact .inl rfl
  | failed reason => exact .inr ⟨reason, rfl⟩
  | uninitialized | loading => simp [settled?, hs, Status.isSettled] at h

namespace Interpreter

theorem handle_calls (i : Interpreter) (before : List Call) (job : Job) : ∃ evaluated,
    (i.handle before job).calls = Call.sequence job.buffer job.prepared.code evaluated := by
  simp only [handle]
  split
  · exact ⟨false, rfl⟩
  · exact ⟨false, rfl⟩
  · exact ⟨true, rfl⟩

/-- Whatever an interpreter makes of code, it is there. -/
theorem handle_outcome_ne (i : Interpreter) (before : List Call) (job : Job) :
    (i.handle before job).outcome ≠ some (.error .notLoaded) := by
  simp only [handle]
  split
  · simp
  · simp
  · cases (i.evaluate (before ++ (job.calls ++ [.evaluate job.prepared.code]))
      job.prepared.code).answer with
    | none => simp
    | some a => cases a <;> simp

end Interpreter

theorem fragment_notLoaded : (Report.ofFault .notLoaded).fragment = notLoadedMessage := by
  decide +kernel

namespace Terminal
variable {i : Interpreter} {t : Terminal} {e : Event} {r : Request} {echo code : String}
variable {status : Status}

theorem await_announced {c : Console} (h : (await c).1 = .announced status) :
    c.workspace.startup.settled? = some status ∧ (await c).2 =
      { console := c.mapTranscript fun t => t.pushFragment (Console.announcement status) } := by
  unfold await at h ⊢
  split at h
  next => contradiction
  next status' settled =>
    obtain rfl : status' = status := by simpa using h
    exact ⟨settled, rfl⟩

theorem ofStanding_not_announced (x : Standing × Console) :
    (ofStanding x).1 ≠ .announced status := by
  obtain ⟨text | stage, c⟩ := x <;> simp [ofStanding]

/-- What is announced has been settled, and is all that joins the transcript. -/
theorem step_announced (h : (t.step i e).1 = .announced status) :
    (t.step i e).2.console.workspace.startup.settled? = some status ∧
      (t.step i e).2.console.transcript =
        t.console.transcript.pushFragment (Console.announcement status) := by
  obtain ⟨c, p⟩ := t
  cases e with
  | announce =>
    cases p with
    | some p => contradiction
    | none =>
      obtain ⟨settled, left⟩ := await_announced h
      rw [step_announce, left]
      exact ⟨settled, rfl⟩
  | look =>
    obtain _ | stage | _ := p
    · contradiction
    · exact (ofStanding_not_announced _ h).elim
    · obtain ⟨settled, left⟩ := await_announced h
      change (await c).2.console.workspace.startup.settled? = some status ∧
        (await c).2.console.transcript = _
      rw [left]
      exact ⟨settled, rfl⟩
  | ask _ | enter =>
    cases p with
    | some p => contradiction
    | none => exact (ofStanding_not_announced _ h).elim
  | setInput _ | recallPrevious | recallNext | edit _ | claim _ | release _ =>
    cases p <;> contradiction
  | _ => contradiction

theorem exists_of_mem_answers {a : Answer} {es : List Event} (h : a ∈ t.answers i es) :
    ∃ before e after, es = before ++ e :: after ∧ ((t.run i before).step i e).1 = a := by
  induction es generalizing t with
  | nil => simp [answers] at h
  | cons e es ih =>
    obtain h | h := List.mem_cons.mp h
    · exact ⟨[], e, es, rfl, h.symm⟩
    · obtain ⟨before, e', after, rfl, he⟩ := ih h
      exact ⟨e :: before, e', after, rfl, he⟩

/-- What was announced once stays true. -/
theorem settled_of_announced (sound : t.console.workspace.startup.Sound) {es : List Event}
    (h : .announced status ∈ t.answers i es) :
    (t.run i es).console.workspace.startup.settled? = some status := by
  obtain ⟨before, e, after, rfl, he⟩ := exists_of_mem_answers h
  have settled := (step_announced he).1
  rw [run_append, run_cons]
  have moves := goesOn_run i ((t.run i before).step i e).2 after
  have sound' := goesOn_step i (t.run i before) e |>.sound (sound_run sound before)
  exact moves.settled? sound' settled

/-- Once the interpreter is there, code that is asked for is with it at once, and what it is answered
comes from there. -/
theorem handed_over (sound : t.console.workspace.startup.Sound)
    (ready : t.console.workspace.startup.settled? = some .ready) (idle : t.pending = none)
    (asks : t.request? e = some r) (runs : r.runs? = some (echo, code)) {more : List Event}
    (waiting : ∀ e ∈ more, e.isWaiting = true) :
    let w := t.console.workspace
    (∃ evaluated, (t.run i (e :: more)).console.workspace.calls =
      w.calls ++ Call.sequence w.sinks.next (w.job code).prepared.code evaluated) ∧
    ∀ text, .replied text ∈ t.answers i (e :: more) → ∃ output outcome,
      text = some (Report.fragment ⟨output, outcome⟩) ∧
        (i.handle w.calls (w.job code)).outcome = some outcome := by
  intro w
  have served := served_run (i := i) False idle sound asks runs waiting (by simp)
  have job : (t.console.begun r echo).workspace.job code = w.job code := w.job_retold code _
  have found : t.findsReady i (e :: more) = true := by
    rw [findsReady, isPoll_of_request asks, Terminal.status, Startup.status_of_settled? ready]
    rfl
  have still := (goesOn_run i t (e :: more)).settled? sound ready
  rw [found] at served
  generalize t.answers i (e :: more) = as at served ⊢
  generalize t.run i (e :: more) = u at served still ⊢
  cases served with
  | underway stands launched unanswered =>
    refine ⟨?_, fun text hm => (unanswered text hm).elim⟩
    cases stands with
    | awaiting _ _ => contradiction
    | resolving _ _ _ =>
      rw [job]
      exact ⟨false, rfl⟩
    | evaluating _ _ _ _ =>
      rw [job]
      exact ⟨true, rfl⟩
  | ended ends answered =>
    cases ends with
    | refused _ _ settled failed => exact (failed (Option.some.inj (settled.symm.trans still))).elim
    | concluded _ _ _ comes =>
      obtain ⟨evaluated, calls⟩ := i.handle_calls w.calls (w.job code)
      rw [job] at comes
      refine ⟨⟨evaluated, ?_⟩, fun text hm => ⟨_, _, (answered text).mp hm, comes⟩⟩
      rw [job]
      exact congrArg (w.calls ++ ·) calls

/-- Once the load has failed, code that is asked for is turned down at once. -/
theorem turned_down (sound : t.console.workspace.startup.Sound) {reason : String}
    (failed : t.console.workspace.startup.settled? = some (.failed reason)) (idle : t.pending = none)
    (asks : t.request? e = some r) (runs : r.runs? = some (echo, code)) :
    let b := t.console.begun r echo
    t.step i e = (.replied (some notLoadedMessage),
      { console := { b with workspace := { b.workspace.request with
        transcript := b.transcript.pushFragment notLoadedMessage } } }) := by
  intro b
  have asked : b.workspace.request.startup.settled? = some (.failed reason) :=
    (Startup.Onward.request .refl).settled? sound failed
  have refused : b.workspace.start i code = (.finished (.ofFault .notLoaded), b.workspace.request) := by
    rw [Workspace.start, Workspace.advance, Workspace.proceed, asked]
    rfl
  rw [step_of_request idle asks runs, Console.start_of_runs i runs, refused, ← fragment_notLoaded]
  rfl

/-- What is announced comes true. An announcement is of a status that is settled, and joins the
transcript with its message. After one that the interpreter is ready, every line of code and every
script is handed over to it once, and what it is answered comes from there; after one that the load has
failed, none is, and each is answered that the interpreter is not there. Lines that run nothing are
answered the same, change the same, and start no load, at whatever time. -/
theorem announcements_come_true (s : Settings) (supply : Supply) (loader : String → LoadAnswer)
    (mayFinish : Bool) (transcript : Transcript) (i : Interpreter) :
    let new : Terminal :=
      { console := .ofSettings s (.ofSettings s supply loader mayFinish transcript) }
    (∀ es,
      let t := new.run i es
      let w := t.console.workspace
      (∀ e status, (t.step i e).1 = .announced status →
        let told := (t.step i e).2.console.transcript
        (status = .ready ∧ told = t.console.transcript.pushFragment readyMessage) ∨
          ∃ reason, status = .failed reason ∧
            told = t.console.transcript.pushFragment ("Error: " ++ reason)) ∧
      ∀ e r echo code, t.pending = none → t.request? e = some r → r.runs? = some (echo, code) →
        (.announced .ready ∈ new.answers i es → ∀ more, (∀ e ∈ more, e.isWaiting = true) →
          (∃ evaluated, (t.run i (e :: more)).console.workspace.calls =
            w.calls ++ Call.sequence w.sinks.next (w.job code).prepared.code evaluated) ∧
          ∀ text, .replied text ∈ t.answers i (e :: more) → ∃ output outcome,
            text = some (Report.fragment ⟨output, outcome⟩) ∧ outcome ≠ .error .notLoaded ∧
              (i.handle w.calls (w.job code)).outcome = some outcome) ∧
        ∀ reason, .announced (.failed reason) ∈ new.answers i es →
          let w' := (t.step i e).2.console.workspace
          (t.step i e).1 = .replied (some notLoadedMessage) ∧ w'.calls = w.calls ∧
            w'.plotter = w.plotter ∧
            w'.transcript = (w.transcript.pushEcho echo).pushFragment notLoadedMessage) ∧
    ∀ line, Request.runs? (.submit line) = none → ∃ reply edits,
      (∀ x ∈ edits, x.KeepsIds) ∧ ∀ es e,
        let t := new.run i es
        let c := t.console
        let c' := (t.step i e).2.console
        t.pending = none → t.request? e = some (.submit line) →
          (t.step i e).1 = .replied reply ∧ c'.transcript = c.transcript.editAll edits ∧
            c'.history = (if Text.allBlank line.toList then c.history else (c.history.push line).2) ∧
            c'.workspace = { c.workspace with transcript := c'.transcript } := by
  intro new
  have fresh : new.console.workspace.startup.Sound := Startup.sound_new _ _ _
  refine ⟨fun es => ?_, fun line plain => ?_⟩
  · intro t w
    have sound : w.startup.Sound := sound_run fresh es
    refine ⟨fun e status told => ?_, fun e r echo code idle asks runs =>
      ⟨fun ready more waiting => ?_, fun reason failed => ?_⟩⟩
    · obtain ⟨settled, left⟩ := step_announced told
      obtain rfl | ⟨reason, rfl⟩ := Startup.settled?_cases settled
      · exact .inl ⟨rfl, left⟩
      · exact .inr ⟨reason, rfl, left⟩
    · have ready := settled_of_announced fresh ready
      obtain ⟨calls, answered⟩ := handed_over sound ready idle asks runs waiting
      refine ⟨calls, fun text hm => ?_⟩
      obtain ⟨output, outcome, ht, comes⟩ := answered text hm
      refine ⟨output, outcome, ht, ?_, comes⟩
      rintro rfl
      exact i.handle_outcome_ne _ _ comes
    · have failed := settled_of_announced fresh failed
      rw [turned_down sound failed idle asks runs]
      exact ⟨rfl, rfl, rfl, rfl⟩
  · refine ⟨(Console.plainReply new.console.helpWidth line).1,
      (Console.plainReply new.console.helpWidth line).2, Console.plainReply_keepsIds _ line,
      fun es e => ?_⟩
    intro t c c' idle asks
    have width : c.helpWidth = new.console.helpWidth := (akin_run i new es).helpWidth
    obtain ⟨input, answered⟩ := step_of_plain (i := i) idle asks plain
    have after : c' = _ := congrArg (Terminal.console ∘ Prod.snd) answered
    rw [answered, after, ← width]
    exact ⟨rfl, rfl, rfl, rfl⟩

/-- A load that is announced to have gone well and a script that is evaluated after that; and a load that
is announced to have failed and the same script, turned down. -/
theorem announcements_come_true_script :
    let i : Interpreter := ⟨fun _ _ => { answer := some (.ok ()) },
      fun _ _ => { answer := some (.ok (some "2")) }⟩
    let opened (loader : String → LoadAnswer) : Terminal :=
      { console := .ofSettings {} (.ofSettings {} .numbered loader true {}) }
    let new := opened fun _ => .ready
    let lost := opened fun _ => .failed "gone"
    let es : List Event := [.announce, .load, .load, .load, .load, .look]
    let more : List Event := [.look, .look]
    let script : Event := .ask (.script "1 + 1")
    (.announced .ready ∈ new.answers i es ∧
      .replied (some "<-- 2") ∈ (new.run i es).answers i (script :: more) ∧
      ∃ evaluated, ((new.run i es).run i (script :: more)).console.workspace.calls =
        [] ++ Call.sequence 0 "1 + 1" evaluated) ∧
    .announced (.failed "gone") ∈ lost.answers i es ∧
      ((lost.run i es).step i script).1 = .replied (some notLoadedMessage) ∧
      ((lost.run i es).step i script).2.console.workspace.calls = [] := by
  intro i opened new lost es more script
  have ready : .announced .ready ∈ new.answers i es := by decide +kernel
  have failed : .announced (.failed "gone") ∈ lost.answers i es := by decide +kernel
  have waiting : ∀ e ∈ more, e.isWaiting = true := by decide
  have handed := (((announcements_come_true {} .numbered (fun _ => .ready) true {} i).1 es).2
    script (.script "1 + 1") runningMessage "1 + 1" rfl rfl rfl).1 ready more waiting
  have turned := (((announcements_come_true {} .numbered (fun _ => .failed "gone") true {} i).1 es).2
    script (.script "1 + 1") runningMessage "1 + 1" rfl rfl rfl).2 "gone" failed
  have code : ((new.run i es).console.workspace.job "1 + 1").prepared.code = "1 + 1" := by
    decide +kernel
  obtain ⟨evaluated, calls⟩ := handed.1
  rw [code] at calls
  exact ⟨⟨ready, by decide +kernel, evaluated, calls⟩, failed, turned.1, turned.2.1⟩

end Terminal

end Workpad
