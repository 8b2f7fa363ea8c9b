import Mathlib.Data.List.Chain
import Workpad.Proofs.Startup.Sound
import Workpad.Startup.Callers

/-!
Callers and watchers in any order, while the load's tasks run at any time: the loader is called at
most once, whoever looks sees the status move on, and all callers that are answered get one answer.
-/
namespace Workpad.Callers
variable {c : Callers}

def Answer.status? : Answer → Option Status
  | .resolved status => some status
  | .seen _ status => some status
  | _ => none

/-- Every status there is to be seen, in order: the present one before each event and after the last,
and those that answers show. -/
def sights (c : Callers) : List Event → List Status
  | [] => [c.startup.status]
  | e :: es => c.startup.status :: (c.step e).1.status?.toList ++ (c.step e).2.sights es

theorem run_cons (c : Callers) (e : Event) (es : List Event) :
    c.run (e :: es) = ((c.step e).1 :: ((c.step e).2.run es).1, ((c.step e).2.run es).2) := rfl

/-- What a look does: it shows the status if that is settled, and leaves the startup alone. -/
theorem look_cases (c : Callers) (caller : String) :
    (c.look caller).2.startup = c.startup ∧
      ((c.look caller).1 = .pending ∨
        (c.look caller).1 = .resolved c.startup.status ∧ c.startup.status.isSettled = true) := by
  unfold look Startup.settled?
  by_cases h : c.startup.status.isSettled = true
  · simp [h, forget]
  · simp [h, enlist]

/-- What an ask does: the startup is left alone or asked, and only a settled status is shown. -/
theorem ask_cases (c : Callers) (caller : String) :
    ((c.ask caller).2.startup = c.startup ∨ (c.ask caller).2.startup = c.startup.request) ∧
      ((c.ask caller).1.status? = none ∨
        (c.ask caller).1 = .resolved (c.ask caller).2.startup.status ∧
          (c.ask caller).2.startup.status.isSettled = true) := by
  unfold ask
  cases c.waiting.lookup caller with
  | none => simp [Answer.status?]
  | some seen =>
    cases seen with
    | none =>
      obtain ⟨hs, hp | ⟨hr, hd⟩⟩ := look_cases { c with startup := c.startup.request } caller
      · simp [hs, hp, Answer.status?]
      · simp only [hs, hr]
        exact ⟨.inr trivial, .inr ⟨trivial, hd⟩⟩
    | some version =>
      obtain ⟨hs, hp | ⟨hr, hd⟩⟩ := look_cases c caller
      · by_cases hv : version = c.startup.version <;> simp [hv, hs, hp, Answer.status?]
      · by_cases hv : version = c.startup.version
        · simp [hv, Answer.status?]
        · simp only [hv, ↓reduceIte, hs, hr]
          exact ⟨.inl trivial, .inr ⟨trivial, hd⟩⟩

/-- An event asks, lets the load end or runs a task; all else leaves the startup alone. -/
theorem step_startup (c : Callers) (e : Event) :
    (c.step e).2.startup = c.startup ∨ (c.step e).2.startup = c.startup.request ∨
      (c.step e).2.startup = c.startup.allowFinish ∨ (c.step e).2.startup = c.startup.work := by
  cases e with
  | ask caller =>
    obtain h | h := (ask_cases c caller).1
    · exact .inl h
    · exact .inr (.inl h)
  | watch watcher => cases h : c.watchers.lookup watcher <;> simp [step, h, mark]
  | _ => simp [step, enlist, forget, mark]

theorem step_shows (c : Callers) (e : Event) {status : Status}
    (h : (c.step e).1.status? = some status) : status = (c.step e).2.startup.status := by
  cases e with
  | ask caller =>
    obtain ⟨-, hn | ⟨hr, -⟩⟩ := ask_cases c caller
    · simp [step, hn] at h
    · simpa [step, hr, Answer.status?] using h.symm
  | watch watcher =>
    cases hw : c.watchers.lookup watcher with
    | none => simp [step, hw, Answer.status?] at h
    | some version => simpa [step, hw, Answer.status?, mark] using h.symm
  | _ => simp [step, Answer.status?] at h

theorem step_sound (h : c.startup.Sound) (e : Event) : (c.step e).2.startup.Sound := by
  obtain hs | hs | hs | hs := step_startup c e <;> rw [hs]
  · exact h
  · exact h.request
  · exact h.allowFinish
  · exact h.work

theorem step_keeps (h : c.startup.Sound) (e : Event) :
    Status.Keeps c.startup.status (c.step e).2.startup.status := by
  obtain hs | hs | hs | hs := step_startup c e
  · simpa [hs] using Relation.ReflGen.refl
  · simpa [hs] using Startup.request_keeps h
  · simpa [hs, Startup.allowFinish] using Relation.ReflGen.refl
  · simpa [hs] using Startup.work_keeps h

theorem run_sound (h : c.startup.Sound) (es : List Event) : (c.run es).2.startup.Sound := by
  induction es generalizing c with
  | nil => exact h
  | cons e es ih => exact ih (step_sound h e)

theorem run_leads (h : c.startup.Sound) (es : List Event) :
    Status.Leads c.startup.status (c.run es).2.startup.status := by
  induction es generalizing c with
  | nil => exact .refl
  | cons e es ih => exact (step_keeps h e).to_reflTransGen.trans (ih (step_sound h e))

theorem head?_sights (c : Callers) (es : List Event) :
    (c.sights es).head? = some c.startup.status := by
  cases es <;> rfl

/-- Between two sights that follow each other the status stays or moves on by one. -/
theorem sights_isChain (h : c.startup.Sound) (es : List Event) :
    (c.sights es).IsChain Status.Keeps := by
  induction es generalizing c with
  | nil => simp [sights]
  | cons e es ih =>
    have ht := ih (step_sound h e)
    have hk := step_keeps h e
    cases hq : (c.step e).1.status? with
    | none =>
      simp only [sights, hq, Option.toList_none, List.cons_append, List.nil_append]
      exact List.isChain_cons.mpr ⟨by simpa [head?_sights] using hk, ht⟩
    | some status =>
      have hv := step_shows c e hq
      simp only [sights, hq, Option.toList_some, List.cons_append, List.nil_append]
      refine List.isChain_cons.mpr ⟨by simpa [hv] using hk, List.isChain_cons.mpr ⟨?_, ht⟩⟩
      simpa [head?_sights, hv] using Relation.ReflGen.refl

theorem resolved_eq (h : c.startup.Sound) (es : List Event) {status : Status}
    (hr : .resolved status ∈ (c.run es).1) :
    status.isSettled = true ∧ status = (c.run es).2.startup.status := by
  induction es generalizing c with
  | nil => simp [run] at hr
  | cons e es ih =>
    rw [run_cons] at hr ⊢
    obtain hr | hr := List.mem_cons.mp hr
    · have hq : (c.step e).1.status? = some status := by rw [← hr]; rfl
      have hv := step_shows c e hq
      have hd : status.isSettled = true := by
        cases e with
        | ask caller =>
          obtain ⟨-, hn | ⟨-, hd⟩⟩ := ask_cases c caller
          · simp [step, hn] at hq
          · exact hv ▸ hd
        | watch watcher => cases hw : c.watchers.lookup watcher <;> simp [step, hw] at hr
        | _ => simp [step] at hr
      refine ⟨hd, ?_⟩
      have hl := run_leads (step_sound h e) es
      rw [← hv] at hl
      exact (hl.eq_of_isSettled hd).symm
    · exact ih (step_sound h e) hr

/-- For every loader and every order of events: the loader is called at most once; all that is seen
starts with `uninitialized` and moves on step by step, so that no later sight lies behind an earlier
one and a settled one stays; every caller that is answered gets the one settled status; and the
interpreter is there exactly when the status says so. -/
theorem load_once_and_forward (location : String) (loader : String → LoadAnswer)
    (mayFinish : Bool) (es : List Event) :
    let c : Callers := { startup := { location, loader, mayFinish } }
    let after := (c.run es).2.startup
    after.loads ≤ 1 ∧
      ((c.sights es).head? = some .uninitialized ∧ (c.sights es).IsChain Status.Keeps ∧
        (c.sights es).Pairwise fun earlier later =>
          Status.Leads earlier later ∧ (earlier.isSettled = true → later = earlier)) ∧
      ((∀ status, .resolved status ∈ (c.run es).1 → status.isSettled = true) ∧
        ∀ one other, .resolved one ∈ (c.run es).1 → .resolved other ∈ (c.run es).1 →
          one = other) ∧
      (after.hasInterpreter = true ↔ after.status = .ready) := by
  intro c after
  have hc : c.startup.Sound := Startup.sound_new location loader mayFinish
  have ha : after.Sound := run_sound hc es
  have hchain := sights_isChain hc es
  refine ⟨ha.loads_le, ⟨head?_sights c es, hchain, ?_⟩, ⟨?_, ?_⟩, ha.hasInterpreter_iff⟩
  · have hlead : (c.sights es).IsChain Status.Leads := hchain.imp fun _ _ h => h.to_reflTransGen
    exact hlead.pairwise.imp fun h => ⟨h, h.eq_of_isSettled⟩
  · intro status hs
    exact (resolved_eq hc es hs).1
  · intro one other h₁ h₂
    rw [(resolved_eq hc es h₁).2, (resolved_eq hc es h₂).2]

end Workpad.Callers
