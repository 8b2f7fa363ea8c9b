import Workpad.Proofs.Queue.Tickets
import Workpad.Proofs.Queue.Simulation

/-!
The console gets through its queue. Once the load may come to its end and the interpreter answers,
every turn of the console brings it closer to an empty queue.
-/
namespace Workpad

def Stage.remaining : Stage → Nat
  | .awaiting _ => 3
  | .resolving _ => 2
  | .evaluating _ => 1

def Progress.remaining : Progress → Nat
  | .suspended stage => stage.remaining
  | .finished _ => 0

def Standing.remaining : Standing → Nat
  | .suspended stage => stage.remaining
  | .replied _ => 0

theorem Stage.remaining_le (stage : Stage) : stage.remaining ≤ 3 := by
  cases stage <;> simp [remaining]

theorem Standing.remaining_le (x : Standing) : x.remaining ≤ 3 := by
  cases x with
  | replied text => simp [remaining]
  | suspended stage => exact stage.remaining_le

namespace Workspace
variable {i : Interpreter} {w : Workspace}

theorem remaining_hear (i : Interpreter) (x : Progress × Workspace) :
    (hear i x).1.remaining = x.1.remaining := by
  rcases x with ⟨⟨_ | _ | _⟩ | _, w⟩ <;> rfl

theorem remaining_proceed {status : Status} (h : w.startup.settled? = some status)
    (code : String) : (w.proceed code).1.remaining ≤ 2 := by
  unfold proceed
  rw [h]
  simp only
  split
  · simp [Progress.remaining]
  · split <;> simp [Progress.remaining, Stage.remaining]

theorem remaining_advance (hi : i.Answers) {stage : Stage}
    (h : stage.isLaunched = true ∨ ∃ status, w.startup.settled? = some status) :
    (w.advance i stage).1.remaining < stage.remaining := by
  cases stage with
  | awaiting code =>
    obtain h | ⟨status, h⟩ := h
    · simp [Stage.isLaunched] at h
    · have hp := remaining_proceed h code
      rw [advance, remaining_hear, Stage.remaining]
      omega
  | resolving job =>
    obtain ⟨a, ha⟩ := Option.ne_none_iff_exists'.mp (hi.resolve w.calls job.prepared.code)
    have hr : (w.resolution i job).answer = some a := ha
    simp only [advance, hr, remaining_hear]
    cases a <;> simp [resolved, conclude, Progress.remaining, Stage.remaining]
  | evaluating job =>
    obtain ⟨a, ha⟩ := Option.ne_none_iff_exists'.mp (hi.evaluate w.calls job.prepared.code)
    have hr : (w.evaluation i job).answer = some a := ha
    simp only [advance, hr]
    cases a <;> simp [evaluated, conclude, Progress.remaining, Stage.remaining]

theorem isLaunched_of_advance {stage next : Stage} (h : (w.advance i stage).1 = .suspended next)
    (hn : next.isLaunched = false) : stage.isLaunched = false := by
  cases hs : stage.isLaunched with
  | false => rfl
  | true => rw [isLaunched_advance w hs h] at hn; contradiction

end Workspace

namespace Console

theorem standing_settle (c : Console) (x : Progress × Workspace) {stage : Stage}
    (h : (c.settle x).1 = .suspended stage) : x.1 = .suspended stage := by
  obtain ⟨stage | report, w⟩ := x
  · simpa [settle] using h
  · simp [settle] at h

theorem remaining_settle (c : Console) (x : Progress × Workspace) :
    (c.settle x).1.remaining = x.1.remaining := by
  obtain ⟨stage | report, w⟩ := x <;> rfl

/-- A request that is begun and waits has asked for the load. -/
theorem asked_start {i : Interpreter} {c : Console} {r : Request} {stage : Stage}
    (h : (c.start i r).1 = .suspended stage) :
    (c.start i r).2.workspace.startup.asked = true := by
  rw [start] at h ⊢
  generalize c.accept r = x at h ⊢
  obtain ⟨text | code, d⟩ := x
  · simp at h
  · change (d.settle _).2.workspace.startup.asked = true
    rw [startup_settle, Workspace.start, Workspace.startup_advance]
    exact Startup.asked_request d.workspace.startup

end Console

namespace Queue
variable {i : Interpreter} {q : Queue}

structure Awaited (q : Queue) : Prop where
  sound : q.console.workspace.startup.Sound
  asked : ∀ t stage, q.current = some (t, stage) → stage.isLaunched = false →
    q.console.workspace.startup.asked = true

/-- How many turns are left at most: four for a request that is not begun. -/
def effort (q : Queue) : Nat :=
  4 * q.queued.length + match q.current with
    | some (_, stage) => stage.remaining
    | none => 0

theorem Awaited.work (h : q.Awaited) (i : Interpreter) : (q.work i).Awaited := by
  refine ⟨sound_work h.sound i, fun u next hn hl => ?_⟩
  obtain ⟨t, stage, -, hc, hw⟩ | ⟨t, r, rest, -, -, -, hw⟩ | ⟨-, -, -, -, hw⟩ | ⟨-, hw⟩ | hw :=
    work_cases i q <;> rw [hw] at hn ⊢
  · have hn := Console.standing_settle q.console _ (current_note hn)
    rw [console_note, Console.startup_advance]
    exact h.asked t stage hc (Workspace.isLaunched_of_advance hn hl)
  · rw [console_note]
    exact Console.asked_start (current_note hn)
  · exact h.asked u next hn hl
  · simp [die] at hn
  · exact h.asked u next hn hl

theorem awaited_stable (i : Interpreter) : Stable i Awaited :=
  .of_alike
    (fun q q' hq h => ⟨by rw [hq.console]; exact h.sound, by
      rw [hq.console, hq.current]
      exact h.asked⟩)
    (fun _ h => h.work i)
    (fun q h => ⟨Startup.Sound.work h.sound, fun t stage hc hl => by
      change q.console.workspace.startup.work.asked = true
      rw [Startup.asked_work]
      exact h.asked t stage hc hl⟩)
    (fun _ h => ⟨Startup.Sound.allowFinish h.sound, h.asked⟩)

theorem mayFinish_stable (i : Interpreter) :
    Stable i fun q => q.console.workspace.startup.mayFinish = true :=
  .of_alike (fun q q' hq h => by rw [hq.console]; exact h)
    (fun q h => by
      obtain hs | hs := startup_work i q <;> rw [hs]
      · exact h
      · rw [Startup.mayFinish_request, h])
    (fun q h => (Startup.work_parts q.console.workspace.startup).2.2.1.trans h) (fun _ _ => rfl)

theorem effort_note (q : Queue) (t : Ticket) (x : Standing × Console) :
    (q.note t x).effort = 4 * q.queued.length + x.1.remaining := by
  obtain ⟨_ | _, _⟩ := x <;> rfl

/-- A turn of a console that has something to do and need not wait for the load. -/
theorem effort_work (h : q.Awaited) (hi : i.Answers) (hl : q.life = .running)
    (hs : q.console.workspace.startup.asked = true →
      ∃ status, q.console.workspace.startup.settled? = some status)
    (hq : q.effort ≠ 0) : (q.work i).effort < q.effort := by
  cases hc : q.current with
  | some x =>
    obtain ⟨t, stage⟩ := x
    have hw : q.work i = q.note t (q.console.advance i stage) := by simp [work, hl, hc]
    have hr : (q.console.advance i stage).1.remaining < stage.remaining := by
      rw [Console.advance, Console.remaining_settle]
      apply Workspace.remaining_advance hi
      cases hb : stage.isLaunched with
      | true => exact .inl rfl
      | false => exact .inr (hs (h.asked t stage hc hb))
    rw [hw, effort_note, effort, hc]
    simpa using hr
  | none =>
    cases hn : q.queued with
    | nil => simp [effort, hc, hn] at hq
    | cons x rest =>
      obtain ⟨t, r⟩ := x
      have hw : q.work i = { q with queued := rest, begun := q.begun ++ [(t, r)] }.note t
          (q.console.start i r) := by simp [work, hl, hc, hn, takeUp]
      have hr := (q.console.start i r).1.remaining_le
      rw [hw, effort_note, effort, hn, hc, List.length_cons]
      change 4 * rest.length + _ < 4 * (rest.length + 1) + 0
      omega

theorem work_running (hl : q.life = .running) (hq : q.effort ≠ 0) :
    (q.work i).life = .running := by
  obtain ⟨t, stage, hl, -, hw⟩ | ⟨t, r, rest, hl, -, -, hw⟩ | ⟨-, hc, hn, -, -⟩ | ⟨ha, -⟩ | hw :=
    work_cases i q
  · simpa [hw] using hl
  · simpa [hw] using hl
  · simp [effort, hc, hn] at hq
  · simp [hl] at ha
  · rwa [hw]

theorem handles_work (i : Interpreter) (q : Queue) : (q.work i).handles = q.handles := by
  obtain ⟨t, stage, -, -, hw⟩ | ⟨t, r, rest, -, -, -, hw⟩ | ⟨-, -, -, -, hw⟩ | ⟨-, hw⟩ | hw :=
    work_cases i q <;> rw [hw]
  · simp
  · simp
  · rfl

theorem work_idle (i : Interpreter) (hl : q.life = .running) (he : q.effort = 0) :
    q.queued = [] ∧ (q.work i).begun = q.begun ∧ (q.work i).current = none ∧
      (q.handles = 0 → (q.work i).life = .finished) := by
  have hc : q.current = none := by
    cases hc : q.current with
    | none => rfl
    | some x => obtain ⟨t, _ | _ | _⟩ := x <;> simp [effort, hc, Stage.remaining] at he
  have hq : q.queued = [] := by
    rw [effort] at he
    exact List.length_eq_zero_iff.mp (by omega)
  refine ⟨hq, ?_⟩
  by_cases hh : q.handles = 0 <;> simp [work, hl, hc, hq, hh]

end Queue

namespace Clients
variable {i : Interpreter} {s : Clients}

def round : List Event := [.load, .load, .load, .load, .work]

theorem effort_round (hi : i.Answers) (h : s.queue.Awaited) (hl : s.queue.life = .running)
    (hm : s.queue.console.workspace.startup.mayFinish = true) (hq : s.queue.effort ≠ 0) :
    (s.run i round).queue.effort < s.queue.effort := by
  have ht : s.queue.runTasks.Awaited := (Queue.awaited_stable i).run h [.load, .load, .load, .load]
  refine Queue.effort_work (q := s.queue.runTasks) ht hi hl (fun ha => ?_) hq
  change (Startup.runTasks _).asked = true at ha
  change ∃ status, (Startup.runTasks _).settled? = some status
  simp only [Startup.runTasks, Startup.asked_work] at ha
  rw [← Startup.loaded_of_mayFinish hm]
  exact ⟨_, Startup.settled?_loaded_of_asked h.sound ha⟩

theorem exists_drained (hi : i.Answers) (h : s.queue.Awaited) (hl : s.queue.life = .running)
    (hm : s.queue.console.workspace.startup.mayFinish = true) :
    ∃ es, (∀ e ∈ es, e = .load ∨ e = .work) ∧ (s.run i es).queue.life = .running ∧
      (s.run i es).queue.effort = 0 := by
  induction hn : s.queue.effort using Nat.strongRecOn generalizing s with
  | ind n ih =>
    subst hn
    by_cases hq : s.queue.effort = 0
    · exact ⟨[], by simp, hl, hq⟩
    · have ha := (Queue.awaited_stable i).run h round
      have hm' := (Queue.mayFinish_stable i).run hm round
      have hl' : (s.run i round).queue.life = .running :=
        Queue.work_running (q := s.queue.runTasks) hl hq
      obtain ⟨es, hes, hr, he⟩ := ih _ (effort_round hi h hl hm hq) ha hl' hm' rfl
      refine ⟨round ++ es, fun e hm => ?_, ?_, ?_⟩
      · obtain hm | hm := List.mem_append.mp hm
        · simp only [round, List.mem_cons, List.not_mem_nil, or_false] at hm
          tauto
        · exact hes e hm
      · rwa [run_append]
      · rwa [run_append]

end Clients

end Workpad
