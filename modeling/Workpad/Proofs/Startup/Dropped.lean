import Workpad.Proofs.Startup.Waiting

/-!
Callers that are dropped. The load that somebody asked for goes on without them: a schedule in which
callers were dropped ends like the one in which none was, and whoever still waits is answered.
-/
namespace Workpad

def LoadTask.rank : LoadTask → Nat
  | .absent => 0
  | .spawned => 1
  | .delegated => 2
  | .loading => 3
  | .ended _ => 4
  | .done => 5

namespace Startup
variable {s t : Startup}

/-- The load may come to an end, and none of the tasks can go on. -/
structure Quiet (s : Startup) : Prop where
  gate : s.mayFinish = true
  still : s.work = s

theorem rank_work (s : Startup) : s.work.task.rank =
    if s.task.rank = 0 ∨ s.task.rank = 5 ∨ s.task.rank = 3 ∧ s.mayFinish = false then s.task.rank
    else s.task.rank + 1 := by
  cases ht : s.task with
  | loading => cases hf : s.mayFinish <;> simp [work, ht, hf, LoadTask.rank]
  | _ => simp [work, ht, settle, store, publish, LoadTask.rank]

theorem Sound.asked_iff (h : s.Sound) : s.asked = true ↔ 1 ≤ s.task.rank := by
  rw [h.asked]
  cases s.task <;> simp [LoadTask.isAsked, LoadTask.rank]

theorem Sound.rank_request (h : s.Sound) : s.request.task.rank = max 1 s.task.rank := by
  cases ha : s.asked with
  | true =>
    have hr := h.asked_iff.mp ha
    rw [Startup.request, if_pos ha]
    omega
  | false =>
    rw [h.asked_eq_false.mp ha]
    simp [Startup.request, ha, publish, LoadTask.rank]

theorem task_of_rank (h : 5 ≤ s.task.rank) : s.task = .done := by
  cases ht : s.task <;> simp [ht, LoadTask.rank] at h ⊢

theorem Quiet.task (q : s.Quiet) (h : s.Sound) (ha : s.asked = true) : s.task = .done := by
  have hw := rank_work s
  have hr := h.asked_iff.mp ha
  rw [q.still, q.gate] at hw
  apply task_of_rank
  split at hw
  next hc =>
    simp at hc
    omega
  next => omega

/-- Four turns are enough. -/
theorem quiet_runTasks (s : Startup) : s.allowFinish.runTasks.Quiet := by
  obtain ⟨-, -, gate, task⟩ := loaded_parts s
  refine ⟨gate, ?_⟩
  change s.loaded.work = s.loaded
  by_cases ha : s.task = .absent <;> simp [work, task, ha]

/-- Both load the same, and `t` has come as far as `s` at least. -/
structure Behind (s t : Startup) : Prop where
  location : s.location = t.location
  loader : s.loader = t.loader
  gate : s.mayFinish = t.mayFinish
  rank : s.task.rank ≤ t.task.rank

theorem Behind.verdict (h : s.Behind t) : s.verdict = t.verdict := by
  rw [Startup.verdict, Startup.verdict, h.location, h.loader]

theorem Behind.work (h : s.Behind t) : s.work.Behind t.work := by
  obtain ⟨hl, ho, hf, -⟩ := work_parts s
  obtain ⟨hl', ho', hf', -⟩ := work_parts t
  have hs := rank_work s
  have ht := rank_work t
  have hr := h.rank
  rw [h.gate] at hs
  refine ⟨by rw [hl, hl', h.location], by rw [ho, ho', h.loader], by rw [hf, hf', h.gate], ?_⟩
  generalize t.mayFinish = gate at hs ht
  cases gate <;>
    simp only [reduceCtorEq, and_false, and_true, or_false] at hs ht <;>
    split at hs <;> split at ht <;> omega

theorem Behind.allowFinish (h : s.Behind t) : s.allowFinish.Behind t.allowFinish :=
  ⟨h.location, h.loader, rfl, h.rank⟩

/-- Asking for what the other has asked for already. -/
theorem Behind.request (h : s.Behind t) (hs : s.Sound) (ht : t.Sound) (ha : t.asked = true) :
    s.request.Behind t := by
  obtain ⟨hl, ho, hf, -⟩ := request_parts hs
  have hr := h.rank
  have hq := ht.asked_iff.mp ha
  refine ⟨hl.trans h.location, ho.trans h.loader, hf.trans h.gate, ?_⟩
  rw [hs.rank_request]
  omega

theorem behind_request (h : t.Sound) : t.Behind t.request := by
  obtain ⟨hl, ho, hf, -⟩ := request_parts h
  refine ⟨hl.symm, ho.symm, hf.symm, ?_⟩
  rw [h.rank_request]
  omega

theorem Behind.trans {u : Startup} (h : s.Behind t) (h' : t.Behind u) : s.Behind u :=
  ⟨h.location.trans h'.location, h.loader.trans h'.loader, h.gate.trans h'.gate,
    h.rank.trans h'.rank⟩

end Startup

namespace Callers
variable {c d : Callers} {caller : String}

def Event.isDrop : Event → Bool
  | .drop _ => true
  | _ => false

def Polls (c : Callers) (es : List Event) : Prop :=
  ∃ before caller after, es = before ++ .ask caller :: after ∧
    (c.run before).2.waiting.lookup caller ≠ none

/-- `d` is where `c` could be if nobody had been dropped: its load has come as far at least, and as
long as nobody there has asked, all are there who have not asked here. -/
structure Trails (c d : Callers) : Prop where
  behind : c.startup.Behind d.startup
  sound : c.startup.Sound
  sound' : d.startup.Sound
  fresh : d.startup.asked = false → ∀ caller, c.Fresh caller → d.Fresh caller

theorem Trails.ask (h : c.Trails d) (caller : String) :
    (c.ask caller).2.Trails (d.ask caller).2 := by
  have sound := step_sound h.sound (.ask caller)
  have sound' := step_sound h.sound' (.ask caller)
  by_cases hd : d.Fresh caller
  · have hs := startup_ask_of_fresh hd
    refine ⟨?_, sound, sound', fun ha => ?_⟩
    · have ahead := h.behind.trans (Startup.behind_request h.sound')
      obtain hc | hc := (ask_cases c caller).1
      · rwa [hc, hs]
      · rw [hc, hs]
        exact ahead.request h.sound h.sound'.request (Startup.asked_request _)
    · rw [hs, Startup.asked_request] at ha
      contradiction
  · have hs := startup_ask_of_not_fresh hd
    refine ⟨?_, sound, sound', fun ha b hb => ?_⟩
    · by_cases hc : c.Fresh caller
      · -- had nobody there asked, the caller would be there and would not have asked
        have ha : d.startup.asked = true := by
          by_contra ha
          exact hd (h.fresh (by simpa using ha) caller hc)
        rw [startup_ask_of_fresh hc, hs]
        exact h.behind.request h.sound h.sound' ha
      · rw [startup_ask_of_not_fresh hc, hs]
        exact h.behind
    · rw [hs] at ha
      obtain ⟨hne, hb⟩ := (fresh_ask_iff c caller b).mp hb
      exact (fresh_ask_iff d caller b).mpr ⟨hne, h.fresh ha b hb⟩

/-- A drop happens here only, every other event in both places. -/
theorem Trails.step (h : c.Trails d) (e : Event) :
    (c.step e).2.Trails (if e.isDrop then d else (d.step e).2) := by
  have sound := step_sound h.sound e
  have sound' := step_sound h.sound' e
  cases e with
  | make caller =>
    refine ⟨h.behind, sound, sound', fun ha b hb => ?_⟩
    have hb : (c.enlist caller none).waiting.lookup b = some none := hb
    change (d.enlist caller none).waiting.lookup b = some none
    rw [lookup_enlist] at hb ⊢
    split at hb
    next hn => rw [if_pos hn]
    next hn => rw [if_neg hn, h.fresh ha b hb]
  | ask caller => exact h.ask caller
  | drop caller =>
    refine ⟨h.behind, sound, h.sound', fun ha b hb => h.fresh ha b ?_⟩
    have hb : (c.forget caller).waiting.lookup b = some none := hb
    rw [lookup_forget] at hb
    split at hb
    · contradiction
    · exact hb
  | allowFinish => exact ⟨h.behind.allowFinish, sound, sound', h.fresh⟩
  | work =>
    refine ⟨h.behind.work, sound, sound', fun ha => h.fresh ?_⟩
    rwa [← Startup.asked_work]
  | subscribe watcher => exact ⟨h.behind, sound, sound', h.fresh⟩
  | watch watcher =>
    obtain ⟨hc, wc⟩ := watch_parts c watcher
    obtain ⟨hd, wd⟩ := watch_parts d watcher
    refine ⟨?_, sound, sound', fun ha b hb => ?_⟩
    · simpa [Event.isDrop, hc, hd] using h.behind
    · have ha : d.startup.asked = false := by simpa [Event.isDrop, hd] using ha
      have hf := h.fresh ha b (by simpa [Fresh, wc] using hb)
      simpa [Event.isDrop, Fresh, wd] using hf

theorem Trails.run (h : c.Trails d) (es : List Event) :
    (c.run es).2.Trails (d.run (es.filter fun e => !e.isDrop)).2 := by
  induction es generalizing c d with
  | nil => exact h
  | cons e es ih =>
    have hs := ih (h.step e)
    cases he : e.isDrop <;> simpa [he, List.filter_cons, run_cons] using hs

theorem Polls.asked (h : c.Patient) {es : List Event} (polled : c.Polls es) :
    (c.run es).2.startup.asked = true := by
  obtain ⟨before, caller, after, rfl, there⟩ := polled
  rw [run_append]
  refine asked_run (((c.run before).2.step (.ask caller)).2) after ?_
  obtain ⟨seen, hl⟩ := Option.ne_none_iff_exists'.mp there
  cases seen with
  | none =>
    change ((c.run before).2.ask caller).2.startup.asked = true
    rw [startup_ask_of_fresh hl]
    exact Startup.asked_request _
  | some version => exact asked_step _ _ ((h.run before).seen caller version hl).1

theorem verdict_run (h : c.startup.Sound) (es : List Event) :
    (c.run es).2.startup.verdict = c.startup.verdict := by
  induction es generalizing c with
  | nil => rfl
  | cons e es ih =>
    have hv : (c.step e).2.startup.verdict = c.startup.verdict := by
      obtain hs | hs | hs | hs := step_startup c e <;> rw [hs]
      · exact (Startup.behind_request h).verdict.symm
      · rfl
      · obtain ⟨hl, ho, -, -⟩ := Startup.work_parts c.startup
        rw [Startup.verdict, Startup.verdict, hl, ho]
    exact (ih (step_sound h e)).trans hv

/-- A load that somebody asked for goes on whoever is dropped. Once it may come to an end and nothing
can move any more, which four turns of its tasks bring about, the status is settled: it is the outcome
of the one call of the loader, a failure if the loader crashed. With nobody dropped, the same events
lead to the same status; and whoever is still there, or is made later, is answered with it when asked
next. -/
theorem load_survives_drops (location : String) (loader : String → LoadAnswer) (mayFinish : Bool)
    (es : List Event) :
    let c : Callers := { startup := { location, loader, mayFinish } }
    let after := (c.run es).2.startup
    let undropped := (c.run (es.filter fun e => !e.isDrop)).2.startup
    (c.run (es ++ [.allowFinish, .work, .work, .work, .work])).2.startup.Quiet ∧
      (c.Polls es → after.Quiet →
        (after.status = .ofOutcome (loader location).outcome ∧ after.status.isSettled = true ∧
          after.loads = 1) ∧
        ((∃ text, loader location = .crashed text) → ∃ reason, after.status = .failed reason) ∧
        (undropped.status = after.status ∧ undropped.loads = 1) ∧
        ∀ more caller, (c.run (es ++ more)).2.waiting.lookup caller ≠ none →
          ((c.run (es ++ more)).2.ask caller).1 = .resolved after.status) := by
  intro c after undropped
  have new : c.Patient := patient_new location loader mayFinish
  have patient := new.run es
  refine ⟨?_, fun polled quiet => ?_⟩
  · rw [run_append]
    exact Startup.quiet_runTasks after
  have done : after.task = .done := quiet.task patient.sound (polled.asked new)
  have status := patient.sound.status_of_done done
  have settled : after.status.isSettled = true := by
    rw [status, Status.isSettled_ofOutcome]
  have outcome : after.status = .ofOutcome (loader location).outcome := by
    rw [status, verdict_run new.sound]
    rfl
  have trails : (c.run es).2.Trails (c.run (es.filter fun e => !e.isDrop)).2 :=
    Trails.run ⟨⟨rfl, rfl, rfl, Nat.le_refl _⟩, new.sound, new.sound, fun _ _ hb => hb⟩ es
  have done' : undropped.task = .done := by
    have rank := trails.behind.rank
    rw [done] at rank
    exact Startup.task_of_rank rank
  refine ⟨⟨outcome, settled, patient.sound.loads_of_done done⟩, ?_, ⟨?_, ?_⟩, ?_⟩
  · rintro ⟨text, crashed⟩
    rw [outcome, crashed]
    exact ⟨_, rfl⟩
  · rw [trails.sound'.status_of_done done', ← trails.behind.verdict, ← status]
  · exact trails.sound'.loads_of_done done'
  · intro more caller there
    have now : after.settled? = some after.status := by rw [Startup.settled?, if_pos settled]
    have later := settled?_run patient.sound now more
    rw [← run_append] at later
    exact (new.run (es ++ more)).ask_of_settled later there

/-- The caller that started the load is dropped, and the loader crashes. -/
theorem load_survives_first_caller :
    let c : Callers := { startup :=
      { location := "rt", loader := fun _ => .crashed "boom", mayFinish := false } }
    let es : List Event := [.make "a", .ask "a", .work, .drop "a", .work, .make "b", .allowFinish,
      .work, .work, .work]
    c.Polls es ∧ (c.run es).2.startup.Quiet ∧
      (c.run es).2.startup.status = (c.run (es.filter fun e => !e.isDrop)).2.startup.status ∧
      ((c.run (es ++ [])).2.ask "b").1 =
        .resolved (.ofOutcome (LoadAnswer.crashed "boom").outcome) := by
  intro c es
  have polled : c.Polls es :=
    ⟨[.make "a"], "a", [.work, .drop "a", .work, .make "b", .allowFinish, .work, .work, .work], rfl,
      by decide⟩
  have quiet : (c.run es).2.startup.Quiet := ⟨rfl, rfl⟩
  obtain ⟨⟨outcome, -, -⟩, -, ⟨undropped, -⟩, answered⟩ :=
    (load_survives_drops "rt" (fun _ => .crashed "boom") false es).2 polled quiet
  refine ⟨polled, quiet, undropped.symm, ?_⟩
  have answer := answered [] "b" (by decide)
  rwa [outcome] at answer

end Callers

end Workpad
