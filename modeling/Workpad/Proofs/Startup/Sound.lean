import Mathlib.Logic.Relation
import Workpad.Startup.Basic

/-!
What a startup can come to. The flag of the first caller, the stored outcome and the published status
are written at different moments, but how far the tasks are decides all three; and the status only
moves on.
-/
namespace Workpad

inductive Status.Next : Status → Status → Prop
  | load : Next .uninitialized .loading
  | ready : Next .loading .ready
  | fail (reason : String) : Next .loading (.failed reason)

abbrev Status.Keeps : Status → Status → Prop := Relation.ReflGen Status.Next

abbrev Status.Leads : Status → Status → Prop := Relation.ReflTransGen Status.Next

theorem Status.next_ofOutcome (o : Except String Unit) : Status.Next .loading (.ofOutcome o) := by
  cases o with
  | ok _ => exact .ready
  | error reason => exact .fail reason

theorem Status.isSettled_ofOutcome (o : Except String Unit) : (ofOutcome o).isSettled = true := by
  cases o <;> rfl

theorem Status.ofOutcome_eq_ready (o : Except String Unit) : ofOutcome o = .ready ↔ o = .ok () := by
  cases o <;> simp [ofOutcome]

theorem Status.Leads.eq_of_isSettled {a b : Status} (h : Leads a b) (ha : a.isSettled = true) :
    b = a := by
  induction h with
  | refl => rfl
  | tail _ hn ih =>
    subst ih
    cases hn <;> simp [isSettled] at ha

namespace LoadTask

def isAsked : LoadTask → Bool
  | .absent => false
  | _ => true

def loads : LoadTask → Nat
  | .absent | .spawned | .delegated => 0
  | .loading | .ended _ | .done => 1

def versions : LoadTask → Nat
  | .absent => 0
  | .spawned | .delegated | .loading | .ended _ => 1
  | .done => 2

end LoadTask

namespace Startup
variable {s : Startup}

def verdict (s : Startup) : Except String Unit := (s.loader s.location).outcome

def expected (s : Startup) : Status :=
  match s.task with
  | .absent => .uninitialized
  | .spawned | .delegated | .loading | .ended _ => .loading
  | .done => .ofOutcome s.verdict

/-- How far the tasks are decides everything else. -/
structure Sound (s : Startup) : Prop where
  asked : s.asked = s.task.isAsked
  loads : s.loads = s.task.loads
  status : s.status = s.expected
  version : s.version = s.task.versions
  outcome : s.outcome = if s.task = .done then some s.verdict else none
  ended : ∀ a, s.task = .ended a → a = s.loader s.location

theorem sound_new (location : String) (loader : String → LoadAnswer) (mayFinish : Bool) :
    Sound { location, loader, mayFinish } where
  asked := rfl
  loads := rfl
  status := rfl
  version := rfl
  outcome := rfl
  ended := by simp

/-- Location, loader and gate aside, sound startups differ only in how far the tasks are. -/
theorem Sound.ext {t : Startup} (hs : s.Sound) (ht : t.Sound) (location : s.location = t.location)
    (loader : s.loader = t.loader) (mayFinish : s.mayFinish = t.mayFinish)
    (task : s.task = t.task) : s = t := by
  have status : s.status = t.status := by
    rw [hs.status, ht.status, expected, expected, task, verdict, verdict, loader, location]
  have outcome : s.outcome = t.outcome := by
    rw [hs.outcome, ht.outcome, task, verdict, verdict, loader, location]
  have asked : s.asked = t.asked := by rw [hs.asked, ht.asked, task]
  have version : s.version = t.version := by rw [hs.version, ht.version, task]
  have loads : s.loads = t.loads := by rw [hs.loads, ht.loads, task]
  cases s
  cases t
  simp_all

theorem Sound.allowFinish (h : s.Sound) : s.allowFinish.Sound :=
  ⟨h.asked, h.loads, h.status, h.version, h.outcome, h.ended⟩

/-- Only the first to ask finds no task there. -/
theorem Sound.asked_eq_false (h : s.Sound) : s.asked = false ↔ s.task = .absent := by
  rw [h.asked]
  cases s.task <;> simp [LoadTask.isAsked]

theorem asked_request (s : Startup) : s.request.asked = true := by
  cases ha : s.asked <;> simp [request, ha, publish]

theorem mayFinish_request (s : Startup) : s.request.mayFinish = s.mayFinish := by
  cases ha : s.asked <;> simp [request, ha, publish]

theorem asked_work (s : Startup) : s.work.asked = s.asked := by
  cases ht : s.task with
  | loading => cases hf : s.mayFinish <;> simp [work, ht, hf]
  | _ => simp [work, ht, settle, store, publish]

theorem Sound.request (h : s.Sound) : s.request.Sound := by
  cases ha : s.asked with
  | true => simpa [Startup.request, ha] using h
  | false =>
    have ht := h.asked_eq_false.mp ha
    have hl := h.loads
    have hv := h.version
    have ho := h.outcome
    rw [ht] at hl hv ho
    constructor <;> simp [Startup.request, ha, publish, LoadTask.isAsked, LoadTask.loads,
      LoadTask.versions, expected, hl, hv, ho]

/-- Nothing is stored before the load task stores it, so what it stores is what is kept. -/
theorem Sound.work (h : s.Sound) : s.work.Sound := by
  obtain ⟨ha, hl, hs, hv, ho, he⟩ := h
  cases ht : s.task with
  | absent | done => simpa [Startup.work, ht] using ⟨ha, hl, hs, hv, ho, he⟩
  | spawned | delegated =>
    rw [expected, ht] at hs
    rw [ht] at ha hl hv ho
    constructor <;> simp_all [Startup.work, expected, LoadTask.isAsked, LoadTask.loads,
      LoadTask.versions]
  | loading =>
    cases hf : s.mayFinish with
    | false => simpa [Startup.work, ht, hf] using ⟨ha, hl, hs, hv, ho, he⟩
    | true =>
      rw [expected, ht] at hs
      rw [ht] at ha hl hv ho
      constructor <;> simp_all [Startup.work, expected, LoadTask.isAsked, LoadTask.loads,
        LoadTask.versions]
  | ended a =>
    rw [ht] at ha hl hv ho
    have hq : a.outcome = s.verdict := by rw [he a ht, verdict]
    constructor <;> simp_all [Startup.work, settle, store, publish, expected, verdict,
      LoadTask.isAsked, LoadTask.loads, LoadTask.versions]

theorem Sound.runTasks (h : s.Sound) : s.runTasks.Sound := h.work.work.work.work

inductive Reachable : Startup → Prop
  | new (location : String) (loader : String → LoadAnswer) (mayFinish : Bool) :
    Reachable { location, loader, mayFinish }
  | request {s : Startup} : Reachable s → Reachable s.request
  | work {s : Startup} : Reachable s → Reachable s.work
  | allowFinish {s : Startup} : Reachable s → Reachable s.allowFinish

theorem Reachable.sound (h : Reachable s) : s.Sound := by
  induction h with
  | new location loader mayFinish => exact sound_new location loader mayFinish
  | request _ ih => exact ih.request
  | work _ ih => exact ih.work
  | allowFinish _ ih => exact ih.allowFinish

theorem Sound.loads_le (h : s.Sound) : s.loads ≤ 1 := by
  rw [h.loads]
  cases s.task <;> simp [LoadTask.loads]

/-- The outcome is stored before its status is published, and neither without the other. -/
theorem Sound.hasInterpreter_iff (h : s.Sound) : s.hasInterpreter = true ↔ s.status = .ready := by
  rw [hasInterpreter, h.outcome, h.status, expected]
  cases s.task with
  | done =>
    rw [Status.ofOutcome_eq_ready]
    cases s.verdict <;> simp
  | _ => simp

theorem status_of_settled? {status : Status} (h : s.settled? = some status) : s.status = status := by
  unfold settled? at h
  split at h
  · exact Option.some.inj h
  · contradiction

theorem request_keeps (h : s.Sound) : Status.Keeps s.status s.request.status := by
  cases ha : s.asked with
  | true => simpa [request, ha] using Relation.ReflGen.refl
  | false =>
    rw [h.status, expected, h.asked_eq_false.mp ha]
    simpa [request, ha, publish] using Relation.ReflGen.single Status.Next.load

theorem isReady_request (h : s.Sound) : s.request.status.isReady = s.status.isReady := by
  cases ha : s.asked with
  | true => simp [request, ha]
  | false =>
    rw [h.status, expected, h.asked_eq_false.mp ha]
    simp only [request, ha, publish, Status.isReady, Bool.false_eq_true, if_false]
    rfl

theorem work_keeps (h : s.Sound) : Status.Keeps s.status s.work.status := by
  cases ht : s.task with
  | ended a =>
    rw [h.status, expected, ht]
    simpa [work, ht, settle, publish] using Relation.ReflGen.single (Status.next_ofOutcome _)
  | loading => cases hf : s.mayFinish <;> simpa [work, ht, hf] using Relation.ReflGen.refl
  | _ => simpa [work, ht] using Relation.ReflGen.refl

inductive Onward (s : Startup) : Startup → Prop
  | refl : Onward s s
  | request {s' : Startup} : Onward s s' → Onward s s'.request
  | work {s' : Startup} : Onward s s' → Onward s s'.work
  | allowFinish {s' : Startup} : Onward s s' → Onward s s'.allowFinish

theorem Onward.trans {s' s'' : Startup} (h : s.Onward s') (h' : s'.Onward s'') : s.Onward s'' := by
  induction h' with
  | refl => exact h
  | request _ ih => exact ih.request
  | work _ ih => exact ih.work
  | allowFinish _ ih => exact ih.allowFinish

theorem Onward.sound {s' : Startup} (h : s.Onward s') (sound : s.Sound) : s'.Sound := by
  induction h with
  | refl => exact sound
  | request _ ih => exact ih.request
  | work _ ih => exact ih.work
  | allowFinish _ ih => exact ih.allowFinish

theorem Onward.leads {s' : Startup} (h : s.Onward s') (sound : s.Sound) :
    Status.Leads s.status s'.status := by
  induction h with
  | refl => exact .refl
  | request h ih => exact ih.trans (request_keeps (h.sound sound)).to_reflTransGen
  | work h ih => exact ih.trans (work_keeps (h.sound sound)).to_reflTransGen
  | allowFinish _ ih => exact ih

/-- A settled status stays. -/
theorem Onward.settled? {s' : Startup} (h : s.Onward s') (sound : s.Sound) {status : Status}
    (settled : s.settled? = some status) : s'.settled? = some status := by
  have hs := status_of_settled? settled
  have settles : s.status.isSettled = true := by
    cases hb : s.status.isSettled with
    | true => rfl
    | false => simp [Startup.settled?, hb] at settled
  have same := (h.leads sound).eq_of_isSettled settles
  rw [Startup.settled?, same, settles, if_pos rfl, hs]

/-- What the load comes to is there from the beginning. -/
theorem Onward.verdict {s' : Startup} (h : s.Onward s') : s'.verdict = s.verdict := by
  have same : s'.location = s.location ∧ s'.loader = s.loader := by
    induction h with
    | refl => exact ⟨rfl, rfl⟩
    | request _ ih =>
      unfold Startup.request
      split <;> exact ih
    | @work s' _ ih =>
      cases ht : s'.task with
      | loading => cases hf : s'.mayFinish <;> simpa [Startup.work, ht, hf] using ih
      | _ => simpa [Startup.work, ht, settle, store, publish] using ih
    | allowFinish _ ih => exact ih
  rw [Startup.verdict, Startup.verdict, same.1, same.2]

end Startup

end Workpad
