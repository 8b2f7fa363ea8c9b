import Workpad.Proofs.Startup.Sound

/-!
A startup whose load has come to its end. When the load's tasks run and when the loader may finish
makes no difference to what it ends in.
-/
namespace Workpad.Startup
variable {s : Startup}

def loaded (s : Startup) : Startup := s.allowFinish.runTasks

theorem Sound.loaded (h : s.Sound) : s.loaded.Sound := h.allowFinish.work.work.work.work

/-! What the transitions do to the parts that decide everything. -/

theorem work_parts (s : Startup) : s.work.location = s.location ∧ s.work.loader = s.loader ∧
    s.work.mayFinish = s.mayFinish ∧ (s.work.task = .absent ↔ s.task = .absent) := by
  cases ht : s.task with
  | loading => cases hf : s.mayFinish <;> simp [work, ht, hf]
  | _ => simp [work, ht, settle, store, publish]

theorem request_parts (h : s.Sound) : s.request.location = s.location ∧
    s.request.loader = s.loader ∧ s.request.mayFinish = s.mayFinish ∧
    s.request.task ≠ .absent := by
  cases ha : s.asked with
  | true =>
    have ht : s.task ≠ .absent := fun ht => by simp [h.asked_eq_false.mpr ht] at ha
    simpa [request, ha] using ht
  | false => simp [request, ha, publish]

/-- Four turns are enough for the tasks. -/
theorem loaded_parts (s : Startup) : s.loaded.location = s.location ∧ s.loaded.loader = s.loader ∧
    s.loaded.mayFinish = true ∧
    s.loaded.task = if s.task = .absent then .absent else .done := by
  cases ht : s.task <;> simp [loaded, runTasks, allowFinish, work, ht, settle, store, publish]

/-- Startups end in the same if they differ only in gate and tasks, and both or none were asked. -/
theorem loaded_eq_loaded {t : Startup} (hs : s.Sound) (ht : t.Sound)
    (location : s.location = t.location) (loader : s.loader = t.loader)
    (task : s.task = .absent ↔ t.task = .absent) : s.loaded = t.loaded := by
  obtain ⟨hl, ho, hf, hk⟩ := loaded_parts s
  obtain ⟨hl', ho', hf', hk'⟩ := loaded_parts t
  apply hs.loaded.ext ht.loaded
  · rw [hl, hl', location]
  · rw [ho, ho', loader]
  · rw [hf, hf']
  · simp only [hk, hk', task]

theorem loaded_allowFinish (s : Startup) : s.allowFinish.loaded = s.loaded := rfl

theorem loaded_work (h : s.Sound) : s.work.loaded = s.loaded := by
  obtain ⟨location, loader, -, task⟩ := work_parts s
  exact loaded_eq_loaded h.work h location loader task

theorem loaded_loaded (h : s.Sound) : s.loaded.loaded = s.loaded := by
  obtain ⟨location, loader, -, task⟩ := loaded_parts s
  apply loaded_eq_loaded h.loaded h location loader
  rw [task]
  split <;> simp [*]

/-- It makes no difference whether somebody asks before the load of those who asked before. -/
theorem loaded_request_loaded (h : s.Sound) : s.loaded.request.loaded = s.request.loaded := by
  obtain ⟨location, loader, -, -⟩ := loaded_parts s
  obtain ⟨hl, ho, -, ht⟩ := request_parts h
  obtain ⟨hl', ho', -, ht'⟩ := request_parts h.loaded
  apply loaded_eq_loaded h.loaded.request h.request
  · rw [hl', hl, location]
  · rw [ho', ho, loader]
  · simp only [ht, ht']

theorem loaded_of_mayFinish (h : s.mayFinish = true) : s.loaded = s.runTasks := by
  have hs : s.allowFinish = s := by rw [allowFinish, ← h]
  rw [loaded, hs]

theorem runTasks_loaded (h : s.Sound) : s.loaded.runTasks = s.loaded := by
  rw [← loaded_of_mayFinish (loaded_parts s).2.2.1, loaded_loaded h]

theorem runTasks_request_loaded (h : s.Sound) : s.loaded.request.runTasks = s.request.loaded := by
  have hf := (request_parts h.loaded).2.2.1
  rw [(loaded_parts s).2.2.1] at hf
  rw [← loaded_of_mayFinish hf, loaded_request_loaded h]

theorem task_of_settled (h : s.Sound) {status : Status} (hs : s.settled? = some status) :
    s.task = .done := by
  unfold settled? at hs
  rw [h.status, expected] at hs
  cases ht : s.task <;> simp [ht, Status.isSettled] at hs
  rfl

theorem eq_ofOutcome_of_settled (h : s.Sound) {status : Status} (hs : s.settled? = some status) :
    status = .ofOutcome s.verdict := by
  rw [← status_of_settled? hs, h.status, expected, task_of_settled h hs]

theorem runTasks_of_settled (h : s.Sound) {status : Status} (hs : s.settled? = some status) :
    s.runTasks = s := by
  simp [runTasks, work, task_of_settled h hs]

theorem settled?_loaded (h : s.Sound) {status : Status} (hs : s.settled? = some status) :
    s.loaded.settled? = some status ∧ s.loaded.hasInterpreter = s.hasInterpreter := by
  have hl : s.loaded = s.allowFinish := runTasks_of_settled h.allowFinish hs
  rw [hl]
  exact ⟨hs, rfl⟩

/-- Whoever has asked is answered once the load has come to its end. -/
theorem settled?_loaded_of_asked (h : s.Sound) (ha : s.asked = true) :
    s.loaded.settled? = some (.ofOutcome s.loaded.verdict) := by
  have ht : s.task ≠ .absent := fun ht => by simp [h.asked_eq_false.mpr ht] at ha
  have hs := h.loaded.status
  rw [expected, (loaded_parts s).2.2.2, if_neg ht] at hs
  simp only at hs
  rw [settled?, hs, Status.isSettled_ofOutcome, if_pos rfl]

theorem mayFinish_ensure (s : Startup) : s.ensure.2.mayFinish = s.mayFinish := by
  have work (s : Startup) : s.work.mayFinish = s.mayFinish := (work_parts s).2.2.1
  rw [ensure, runTasks, work, work, work, work, mayFinish_request]

/-- With a loader that may finish, whoever asks and waits is answered. -/
theorem ensure_of_mayFinish (h : s.Sound) (hf : s.mayFinish = true) : s.ensure.1 ≠ none := by
  have hl : s.request.loaded = s.request.runTasks :=
    loaded_of_mayFinish ((mayFinish_request s).trans hf)
  have hs := settled?_loaded_of_asked h.request (asked_request s)
  rw [hl] at hs
  simp [ensure, hs]

end Workpad.Startup
