import Mathlib.Data.List.Nodup
import Workpad.Queue.Clients

/-!
The order of requests at a queue. Requests are begun in the order in which they entered, each once;
what has entered stays, whoever goes away, and what a caller has dropped before never enters.
-/
namespace Workpad

namespace Queue
variable {q : Queue}

/-- A property of queues that no turn of callers, console and load takes away. -/
structure Stable (i : Interpreter) (P : Queue → Prop) : Prop where
  send : ∀ q t r, P q → P (q.send t r)
  retry : ∀ q t, P q → P (q.retry t)
  leave : ∀ q t, P q → P (q.leave t)
  work : ∀ q, P q → P (q.work i)
  load : ∀ q, P q → P q.load
  allowFinish : ∀ q, P q → P q.allowFinish
  clone : ∀ q, q.handles ≠ 0 → P q → P q.clone
  dropHandle : ∀ q, P q → P q.dropHandle
  abort : ∀ q, P q → P q.abort

/-- What can become of a queue when the console gets to work. -/
theorem work_cases (i : Interpreter) (q : Queue) :
    (∃ t stage, q.life = .running ∧ q.current = some (t, stage) ∧
        q.work i = q.note t (q.console.advance i stage)) ∨
      (∃ t r rest, q.life = .running ∧ q.current = none ∧ q.queued = (t, r) :: rest ∧
        q.work i = { q with queued := rest, begun := q.begun ++ [(t, r)] }.note t
          (q.console.start i r)) ∨
      (q.life = .running ∧ q.current = none ∧ q.queued = [] ∧ q.handles = 0 ∧
        q.work i = { q with life := .finished }) ∨
      (q.life = .aborting ∧ q.work i = q.die) ∨ q.work i = q := by
  cases hl : q.life with
  | running =>
    cases hc : q.current with
    | some x => exact .inl ⟨x.1, x.2, rfl, rfl, by simp [work, hl, hc]⟩
    | none =>
      cases hq : q.queued with
      | cons x rest =>
        exact .inr (.inl ⟨x.1, x.2, rest, rfl, rfl, rfl, by simp [work, hl, hc, hq, takeUp]⟩)
      | nil =>
        by_cases hh : q.handles = 0
        · exact .inr (.inr (.inl ⟨rfl, rfl, rfl, hh, by simp [work, hl, hc, hq, hh]⟩))
        · exact .inr (.inr (.inr (.inr (by simp [work, hl, hc, hq, hh]))))
  | aborting => exact .inr (.inr (.inr (.inl ⟨rfl, by simp [work, hl]⟩)))
  | aborted | finished => exact .inr (.inr (.inr (.inr (by simp [work, hl]))))

theorem send_cases (q : Queue) (t : Ticket) (r : Request) :
    (q.isClosed = true ∧ q.send t r = q) ∨ (q.isClosed = false ∧ q.send t r = q.enter [(t, r)]) ∨
      (q.isClosed = false ∧ q.send t r = { q with waiting := q.waiting ++ [(t, r)] }) := by
  cases hc : q.isClosed <;> cases hr : q.hasRoom <;> simp [send, hc, hr]

theorem retry_cases (q : Queue) (t : Ticket) :
    (q.isClosed = false ∧ ∃ r, (t, r) ∈ q.waiting ∧ q.retry t = (q.unlist t).enter [(t, r)]) ∨
      q.retry t = q := by
  cases hc : q.isClosed with
  | true => exact .inr (by simp [retry, hc])
  | false =>
    cases ha : q.admitted? t with
    | none => exact .inr (by simp [retry, hc, ha])
    | some w =>
      have hw : w ∈ q.waiting := List.mem_of_mem_take (List.mem_of_find?_eq_some ha)
      have ht : w.1 = t := by simpa using List.find?_some ha
      subst ht
      exact .inl ⟨rfl, w.2, hw, by simp [retry, hc, ha]⟩

/-- The console has done the same and stands the same at both queues, but maybe it was told to
stop meanwhile. -/
structure Alike (q q' : Queue) : Prop where
  console : q'.console = q.console
  begun : q'.begun = q.begun
  current : q'.current = q.current
  replies : q'.replies = q.replies
  life : q'.life = q.life ∨ q.life = .running ∧ q'.life = .aborting

/-- What callers do is nothing to the console. -/
theorem Stable.of_alike {i : Interpreter} {P : Queue → Prop}
    (alike : ∀ q q', Alike q q' → P q → P q') (work : ∀ q, P q → P (q.work i))
    (load : ∀ q, P q → P q.load) (allowFinish : ∀ q, P q → P q.allowFinish) : Stable i P where
  send q t r h := by
    obtain ⟨-, hs⟩ | ⟨-, hs⟩ | ⟨-, hs⟩ := send_cases q t r <;> rw [hs]
    · exact h
    all_goals exact alike q _ ⟨rfl, rfl, rfl, rfl, .inl rfl⟩ h
  retry q t h := by
    obtain ⟨-, r, -, hr⟩ | hr := retry_cases q t <;> rw [hr]
    · exact alike q _ ⟨rfl, rfl, rfl, rfl, .inl rfl⟩ h
    · exact h
  leave q t h := alike q _ ⟨rfl, rfl, rfl, rfl, .inl rfl⟩ h
  work := work
  load := load
  allowFinish := allowFinish
  clone q _ h := alike q _ ⟨rfl, rfl, rfl, rfl, .inl rfl⟩ h
  dropHandle q h := alike q _ ⟨rfl, rfl, rfl, rfl, .inl rfl⟩ h
  abort q h := by
    rw [Queue.abort]
    split
    · exact alike q _ ⟨rfl, rfl, rfl, rfl, .inr ⟨‹_›, rfl⟩⟩ h
    · exact h

@[simp] theorem note_entered (q : Queue) (t : Ticket) (x : Standing × Console) :
    (q.note t x).entered = q.entered := by
  obtain ⟨_ | _, _⟩ := x <;> rfl

@[simp] theorem note_begun (q : Queue) (t : Ticket) (x : Standing × Console) :
    (q.note t x).begun = q.begun := by
  obtain ⟨_ | _, _⟩ := x <;> rfl

@[simp] theorem note_queued (q : Queue) (t : Ticket) (x : Standing × Console) :
    (q.note t x).queued = q.queued := by
  obtain ⟨_ | _, _⟩ := x <;> rfl

@[simp] theorem note_waiting (q : Queue) (t : Ticket) (x : Standing × Console) :
    (q.note t x).waiting = q.waiting := by
  obtain ⟨_ | _, _⟩ := x <;> rfl

@[simp] theorem note_life (q : Queue) (t : Ticket) (x : Standing × Console) :
    (q.note t x).life = q.life := by
  obtain ⟨_ | _, _⟩ := x <;> rfl

@[simp] theorem note_handles (q : Queue) (t : Ticket) (x : Standing × Console) :
    (q.note t x).handles = q.handles := by
  obtain ⟨_ | _, _⟩ := x <;> rfl

/-- Requests are begun in the order in which they entered; until the console dies none is lost; and
once it has finished there is nothing left to do. -/
structure Orderly (q : Queue) : Prop where
  inOrder : q.begun <+: q.entered
  lossless : q.life ≠ .aborted → q.entered = q.begun ++ q.queued
  finished : q.life = .finished → q.handles = 0 ∧ q.queued = [] ∧ q.current = none

theorem orderly_ofConsole (c : Console) (depth : Nat) : (ofConsole c depth).Orderly :=
  ⟨List.prefix_rfl, fun _ => rfl, by simp [ofConsole]⟩

theorem Orderly.enter (h : q.Orderly) (hc : q.isClosed = false) (rs : List (Ticket × Request)) :
    (q.enter rs).Orderly := by
  simp only [isClosed, Bool.or_eq_false_iff, beq_eq_false_iff_ne] at hc
  refine ⟨h.inOrder.trans (List.prefix_append _ _), fun hl => ?_, fun hl => (hc.2 hl).elim⟩
  change q.entered ++ rs = q.begun ++ (q.queued ++ rs)
  rw [h.lossless hl, List.append_assoc]

theorem Orderly.unlist (h : q.Orderly) (t : Ticket) : (q.unlist t).Orderly :=
  ⟨h.inOrder, h.lossless, h.finished⟩

theorem Orderly.note {t : Ticket} {x : Standing × Console} (h : q.Orderly)
    (hl : q.life = .running) : (q.note t x).Orderly := by
  refine ⟨by simpa using h.inOrder, ?_, by simp [hl]⟩
  simpa using h.lossless

theorem Orderly.work (h : q.Orderly) (i : Interpreter) : (q.work i).Orderly := by
  obtain ⟨t, stage, hl, -, hw⟩ | ⟨t, r, rest, hl, hc, hq, hw⟩ | ⟨hl, hc, hq, hh, hw⟩ | ⟨hl, hw⟩ |
    hw := work_cases i q <;> rw [hw]
  · exact h.note hl
  · have he : q.entered = (q.begun ++ [(t, r)]) ++ rest := by
      rw [h.lossless (by simp [hl]), hq, List.append_assoc]
      rfl
    refine Orderly.note ⟨he ▸ List.prefix_append _ _, fun _ => he, fun hf => ?_⟩ hl
    simp [hl] at hf
  · exact ⟨h.inOrder, fun _ => h.lossless (by simp [hl]), fun _ => ⟨hh, hq, hc⟩⟩
  · exact ⟨h.inOrder, fun hn => (hn rfl).elim, by simp [die]⟩
  · exact h

theorem orderly_stable (i : Interpreter) : Stable i Orderly where
  send q t r h := by
    obtain ⟨-, hs⟩ | ⟨hc, hs⟩ | ⟨-, hs⟩ := send_cases q t r <;> rw [hs]
    · exact h
    · exact h.enter hc _
    · exact ⟨h.inOrder, h.lossless, h.finished⟩
  retry q t h := by
    obtain ⟨hc, r, -, hr⟩ | hr := retry_cases q t <;> rw [hr]
    · exact (h.unlist t).enter hc _
    · exact h
  leave q t h := h.unlist t
  work q h := h.work i
  load q h := ⟨h.inOrder, h.lossless, h.finished⟩
  allowFinish q h := ⟨h.inOrder, h.lossless, h.finished⟩
  clone q hn h := ⟨h.inOrder, h.lossless, fun hf => (hn (h.finished hf).1).elim⟩
  dropHandle q h := ⟨h.inOrder, h.lossless, fun hf => by
    obtain ⟨hh, hq, hc⟩ := h.finished hf
    exact ⟨by simp [dropHandle, hh], hq, hc⟩⟩
  abort q h := by
    by_cases hl : q.life = .running
    · refine ⟨?_, ?_, ?_⟩ <;> simp only [abort, hl, ↓reduceIte]
      · exact h.inOrder
      · exact fun _ => h.lossless (by simp [hl])
      · simp
    · simpa [abort, hl] using h

end Queue

theorem Clients.queue_look (s : Clients) (t : Ticket) : (s.look t).queue = s.queue := by
  cases h : s.queue.answer t <;> simp [look, h, forget]

namespace Queue.Stable
variable {i : Interpreter} {P : Queue → Prop} {s : Clients}

theorem step (hP : Stable i P) (h : P s.queue) (e : Clients.Event) : P (s.step i e).queue := by
  cases e with
  | make r =>
    simp only [Clients.step, Clients.make]
    split <;> exact h
  | poll t =>
    simp only [Clients.step, Clients.poll]
    cases s.asking.lookup t with
    | none => exact h
    | some sent =>
      cases sent with
      | none => simpa only [Clients.queue_look] using hP.retry _ t h
      | some r => simpa only [Clients.queue_look] using hP.send _ t r h
  | drop t => exact hP.leave _ t h
  | clone =>
    simp only [Clients.step, Clients.clone]
    split
    · exact h
    · exact hP.clone _ ‹_› h
  | dropHandle =>
    simp only [Clients.step, Clients.dropHandle]
    split
    · exact h
    · exact hP.dropHandle _ h
  | work => exact hP.work _ h
  | load => exact hP.load _ h
  | allowFinish => exact hP.allowFinish _ h
  | abort => exact hP.abort _ h

theorem run (hP : Stable i P) (h : P s.queue) (es : List Clients.Event) :
    P (s.run i es).queue := by
  induction es generalizing s with
  | nil => exact h
  | cons e es ih => exact ih (hP.step h e)

end Queue.Stable

theorem Queue.entered_stable (i : Interpreter) (before : List (Ticket × Request)) :
    Stable i fun q => before <+: q.entered where
  send q t r h := by
    obtain ⟨-, hs⟩ | ⟨-, hs⟩ | ⟨-, hs⟩ := send_cases q t r <;> rw [hs]
    · exact h
    · exact h.trans (List.prefix_append _ _)
    · exact h
  retry q t h := by
    obtain ⟨-, r, -, hr⟩ | hr := retry_cases q t <;> rw [hr]
    · exact h.trans (List.prefix_append _ _)
    · exact h
  leave q t h := h
  work q h := by
    obtain ⟨t, stage, -, -, hw⟩ | ⟨t, r, rest, -, -, -, hw⟩ | ⟨-, -, -, -, hw⟩ | ⟨-, hw⟩ | hw :=
      work_cases i q <;> rw [hw]
    · simpa using h
    · simpa using h
    all_goals exact h
  load q h := h
  allowFinish q h := h
  clone q _ h := h
  dropHandle q h := h
  abort q h := by
    unfold abort
    split <;> exact h

end Workpad
