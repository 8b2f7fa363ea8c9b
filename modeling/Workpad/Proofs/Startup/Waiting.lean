import Workpad.Proofs.Named
import Workpad.Proofs.Startup.Loaded
import Workpad.Proofs.Startup.Once

/-!
Callers that wait. What each of them has seen is older than the status once that is settled, so
whoever is there then is answered when asked next.
-/
namespace Workpad

namespace Startup
variable {s : Startup}

theorem Sound.status_of_done (h : s.Sound) (ht : s.task = .done) :
    s.status = .ofOutcome s.verdict := by
  rw [h.status, expected, ht]

theorem Sound.loads_of_done (h : s.Sound) (ht : s.task = .done) : s.loads = 1 := by
  rw [h.loads, ht, LoadTask.loads]

end Startup

namespace Callers
variable {c : Callers} {caller : String}

theorem run_append (c : Callers) (es es' : List Event) :
    (c.run (es ++ es')).2 = ((c.run es).2.run es').2 := by
  induction es generalizing c with
  | nil => rfl
  | cons e es ih => exact ih (c.step e).2

theorem lookup_forget (c : Callers) (a b : String) :
    (c.forget a).waiting.lookup b = if b = a then none else c.waiting.lookup b :=
  lookup_filter_ne c.waiting a b

theorem lookup_enlist (c : Callers) (a b : String) (seen : Option Nat) :
    (c.enlist a seen).waiting.lookup b = if b = a then some seen else c.waiting.lookup b :=
  lookup_replaced c.waiting a b seen

def Fresh (c : Callers) (caller : String) : Prop := c.waiting.lookup caller = some none

theorem lookup_look (c : Callers) (a b : String) (h : b ≠ a) :
    (c.look a).2.waiting.lookup b = c.waiting.lookup b := by
  unfold look
  split
  · rw [lookup_forget, if_neg h]
  · rw [lookup_enlist, if_neg h]

theorem not_fresh_look (c : Callers) (a : String) : ¬(c.look a).2.Fresh a := by
  unfold look Fresh
  split
  · simp [lookup_forget]
  · simp [lookup_enlist]

/-- Only a caller that asks for the first time asks for the load. -/
theorem startup_ask_of_fresh (h : c.Fresh caller) :
    (c.ask caller).2.startup = c.startup.request := by
  rw [ask, h]
  exact (look_cases { c with startup := c.startup.request } caller).1

theorem startup_ask_of_not_fresh (h : ¬c.Fresh caller) :
    (c.ask caller).2.startup = c.startup := by
  unfold ask
  split
  · rfl
  next hl => exact (h hl).elim
  · split
    · rfl
    · exact (look_cases c caller).1

theorem lookup_ask (c : Callers) {a b : String} (h : b ≠ a) :
    (c.ask a).2.waiting.lookup b = c.waiting.lookup b := by
  unfold ask
  split
  · rfl
  · exact lookup_look { c with startup := c.startup.request } a b h
  · split
    · rfl
    · exact lookup_look c a b h

theorem not_fresh_ask (c : Callers) (a : String) : ¬(c.ask a).2.Fresh a := by
  unfold ask
  split
  next hl => simp [Fresh, hl]
  next => exact not_fresh_look _ a
  next hl =>
    split
    · simp [Fresh, hl]
    · exact not_fresh_look c a

theorem fresh_ask_iff (c : Callers) (a b : String) :
    (c.ask a).2.Fresh b ↔ b ≠ a ∧ c.Fresh b := by
  by_cases h : b = a
  · subst h
    simp [not_fresh_ask]
  · simp [Fresh, lookup_ask c h, h]

theorem watch_parts (c : Callers) (watcher : String) :
    (c.step (.watch watcher)).2.startup = c.startup ∧
      (c.step (.watch watcher)).2.waiting = c.waiting := by
  cases h : c.watchers.lookup watcher <;> simp [step, h, mark]

/-- Who waits and has asked saw the status while it was loading. -/
structure Patient (c : Callers) : Prop where
  sound : c.startup.Sound
  seen : ∀ caller version, c.waiting.lookup caller = some (some version) →
    c.startup.asked = true ∧ version ≤ 1

theorem asked_step (c : Callers) (e : Event) (h : c.startup.asked = true) :
    (c.step e).2.startup.asked = true := by
  obtain hs | hs | hs | hs := step_startup c e <;> rw [hs]
  · exact h
  · exact Startup.asked_request _
  · exact h
  · rwa [Startup.asked_work]

theorem version_of_unsettled {s : Startup} (h : s.Sound) (hs : s.settled? = none) :
    s.version ≤ 1 := by
  rw [h.version]
  cases ht : s.task with
  | done =>
    rw [Startup.settled?, h.status_of_done ht, Status.isSettled_ofOutcome] at hs
    simp at hs
  | _ => simp [LoadTask.versions]

theorem Patient.look (h : c.Patient) (ha : c.startup.asked = true) (caller : String) :
    (c.look caller).2.Patient := by
  have hs := (look_cases c caller).1
  refine ⟨by rw [hs]; exact h.sound, fun b version hb => ?_⟩
  rw [hs]
  refine ⟨ha, ?_⟩
  by_cases hn : b = caller
  · subst hn
    unfold Callers.look at hb
    split at hb
    · simp [lookup_forget] at hb
    next hq =>
      rw [lookup_enlist, if_pos rfl] at hb
      cases hb
      exact version_of_unsettled h.sound hq
  · rw [lookup_look c caller b hn] at hb
    exact (h.seen b version hb).2

theorem Patient.ask (h : c.Patient) (caller : String) : (c.ask caller).2.Patient := by
  unfold Callers.ask
  split
  · exact h
  · have hr : { c with startup := c.startup.request }.Patient :=
      ⟨h.sound.request, fun b version hb => ⟨Startup.asked_request _, (h.seen b version hb).2⟩⟩
    exact hr.look (Startup.asked_request _) caller
  next hl =>
    split
    · exact h
    · exact h.look (h.seen caller _ hl).1 caller

/-- Asking aside, nobody has seen more than before. -/
theorem seen_step {e : Event} (he : ∀ caller, e ≠ .ask caller) {caller : String} {version : Nat}
    (h : (c.step e).2.waiting.lookup caller = some (some version)) :
    c.waiting.lookup caller = some (some version) := by
  cases e with
  | make a =>
    have h : (c.enlist a none).waiting.lookup caller = some (some version) := h
    rw [lookup_enlist] at h
    split at h
    · simp at h
    · exact h
  | ask a => exact (he a rfl).elim
  | drop a =>
    have h : (c.forget a).waiting.lookup caller = some (some version) := h
    rw [lookup_forget] at h
    split at h
    · contradiction
    · exact h
  | watch watcher => rwa [(watch_parts c watcher).2] at h
  | _ => exact h

theorem Patient.step (h : c.Patient) (e : Event) : (c.step e).2.Patient := by
  by_cases he : ∃ caller, e = .ask caller
  · obtain ⟨caller, rfl⟩ := he
    exact h.ask caller
  · refine ⟨step_sound h.sound e, fun caller version hl => ?_⟩
    obtain ⟨ha, hv⟩ := h.seen caller version (seen_step (fun a hn => he ⟨a, hn⟩) hl)
    exact ⟨asked_step c e ha, hv⟩

theorem Patient.run (h : c.Patient) (es : List Event) : (c.run es).2.Patient := by
  induction es generalizing c with
  | nil => exact h
  | cons e es ih => exact ih (h.step e)

theorem patient_new (location : String) (loader : String → LoadAnswer) (mayFinish : Bool) :
    Patient { startup := { location, loader, mayFinish } } :=
  ⟨Startup.sound_new location loader mayFinish, by simp⟩

theorem asked_run (c : Callers) (es : List Event) (h : c.startup.asked = true) :
    (c.run es).2.startup.asked = true := by
  induction es generalizing c with
  | nil => exact h
  | cons e es ih => exact ih _ (asked_step c e h)

theorem look_of_settled {status : Status} (h : c.startup.settled? = some status) :
    (c.look caller).1 = .resolved status := by
  rw [look, h]

/-- Whoever is there when the status is settled is answered with it. -/
theorem Patient.ask_of_settled (h : c.Patient) {status : Status}
    (hs : c.startup.settled? = some status) (there : c.waiting.lookup caller ≠ none) :
    (c.ask caller).1 = .resolved status := by
  have ht := Startup.task_of_settled h.sound hs
  obtain ⟨seen, hl⟩ := Option.ne_none_iff_exists'.mp there
  cases seen with
  | none =>
    have hr : c.startup.request = c.startup := by
      rw [Startup.request, h.sound.asked, ht]
      rfl
    rw [Callers.ask, hl]
    simp only [hr]
    exact look_of_settled hs
  | some version =>
    have hv : version ≠ c.startup.version := by
      have hle := (h.seen caller version hl).2
      rw [h.sound.version, ht, LoadTask.versions]
      omega
    rw [Callers.ask, hl]
    simp only [hv, if_false]
    exact look_of_settled hs

theorem settled?_run (h : c.startup.Sound) {status : Status}
    (hs : c.startup.settled? = some status) (es : List Event) :
    (c.run es).2.startup.settled? = some status := by
  have hq := Startup.status_of_settled? hs
  have settled : status.isSettled = true := by
    rw [Startup.settled?] at hs
    split at hs
    next hi => rwa [hq] at hi
    next => contradiction
  have kept := run_leads h es
  rw [hq] at kept
  rw [Startup.settled?, kept.eq_of_isSettled settled, if_pos settled]

end Callers

end Workpad
