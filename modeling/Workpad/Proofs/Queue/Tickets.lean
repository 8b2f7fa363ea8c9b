import Workpad.Proofs.Queue.Order

/-!
Tickets at a queue. A ticket stands for one request, which enters at most once; a request dropped
before it has entered never does; and what a caller is told is what the queue has replied.
-/
namespace Workpad

namespace Clients
variable {i : Interpreter} {s : Clients}

theorem run_cons (i : Interpreter) (s : Clients) (e : Event) (es : List Event) :
    s.run i (e :: es) = (s.step i e).run i es := rfl

theorem run_append (i : Interpreter) (s : Clients) (es es' : List Event) :
    s.run i (es ++ es') = (s.run i es).run i es' := by
  simp [run, List.foldl_append]

abbrev keys (l : List (Ticket × Request)) : List Ticket := l.map Prod.fst

theorem nodup_keys_concat {l : List (Ticket × Request)} {t : Ticket} {r : Request}
    (h : (keys l).Nodup) (ht : t ∉ keys l) : (keys (l ++ [(t, r)])).Nodup := by
  rw [keys, List.map_append]
  exact h.append (List.nodup_singleton t) (by simpa using ht)

/-- Whoever waits has not entered, whoever was not polled does neither, and all that do either carry
the request that was made under their ticket. -/
structure Ticketed (s : Clients) : Prop where
  entered : (keys s.queue.entered).Nodup
  waiting : (keys s.queue.waiting).Nodup
  apart : ∀ t ∈ keys s.queue.waiting, t ∉ keys s.queue.entered
  made : ∀ x ∈ s.queue.entered ++ s.queue.waiting, s.made[x.1]? = some x.2
  unsent : ∀ t r, (t, some r) ∈ s.asking →
    s.made[t]? = some r ∧ t ∉ keys s.queue.entered ∧ t ∉ keys s.queue.waiting

theorem ticketed_ofConsole (c : Console) (depth : Nat) : (ofConsole c depth).Ticketed := by
  constructor <;> simp [ofConsole, Queue.ofConsole, keys]

theorem Ticketed.fewer {s' : Clients} (h : s.Ticketed)
    (entered : s'.queue.entered = s.queue.entered) (waiting : s'.queue.waiting.Sublist s.queue.waiting)
    (made : s'.made = s.made) (asking : ∀ t r, (t, some r) ∈ s'.asking → (t, some r) ∈ s.asking) :
    s'.Ticketed := by
  have hk : (keys s'.queue.waiting).Sublist (keys s.queue.waiting) := waiting.map _
  refine ⟨by rw [entered]; exact h.entered, h.waiting.sublist hk, ?_, ?_, ?_⟩
  · intro t ht
    rw [entered]
    exact h.apart t (hk.subset ht)
  · intro x hx
    rw [made]
    apply h.made x
    rw [entered] at hx
    exact ((List.Sublist.refl _).append waiting).subset hx
  · intro t r ht
    obtain ⟨hm, he, hw⟩ := h.unsent t r (asking t r ht)
    rw [made, entered]
    exact ⟨hm, he, fun hn => hw (hk.subset hn)⟩

theorem Ticketed.make (h : s.Ticketed) (r : Request) : (s.make r).Ticketed := by
  unfold Clients.make
  split
  · exact h
  · have hnew : ∀ x ∈ s.queue.entered ++ s.queue.waiting, x.1 ≠ s.made.length := by
      intro x hx heq
      have hm := h.made x hx
      rw [heq, List.getElem?_eq_none (Nat.le_refl _)] at hm
      contradiction
    refine ⟨h.entered, h.waiting, h.apart, ?_, ?_⟩
    · intro x hx
      have hm := h.made x hx
      simp only
      rw [List.getElem?_append_left (List.getElem?_eq_some_iff.mp hm).1, hm]
    · intro t r' ht
      simp only [List.mem_append, List.mem_singleton, Prod.mk.injEq, Option.some.injEq] at ht
      obtain ht | ⟨rfl, rfl⟩ := ht
      · obtain ⟨hm, he, hw⟩ := h.unsent t r' ht
        refine ⟨?_, he, hw⟩
        simp only
        rw [List.getElem?_append_left (List.getElem?_eq_some_iff.mp hm).1, hm]
      · refine ⟨by simp, ?_, ?_⟩ <;>
          · intro hk
            obtain ⟨x, hx, hxt⟩ := List.mem_map.mp hk
            exact hnew x (by simp [hx]) hxt

theorem asking_look (s : Clients) (t : Ticket) {x : Ticket × Option Request}
    (hx : x ∈ (s.look t).asking) : x = (t, none) ∨ x ∈ s.asking ∧ x.1 ≠ t := by
  cases h : s.queue.answer t <;> simp [look, h, forget] at hx <;> grind

theorem asking_look_some (s : Clients) (t : Ticket) {u : Ticket} {r : Request}
    (hx : (u, some r) ∈ (s.look t).asking) : (u, some r) ∈ s.asking ∧ u ≠ t := by
  obtain h | h := asking_look s t hx
  · simp at h
  · exact h

theorem made_look (s : Clients) (t : Ticket) : (s.look t).made = s.made := by
  cases h : s.queue.answer t <;> simp [look, h, forget]

theorem mem_asking_of_lookup {t : Ticket} {sent : Option Request}
    (h : s.asking.lookup t = some sent) : (t, sent) ∈ s.asking := by
  obtain ⟨l₁, l₂, hl, -⟩ := List.lookup_eq_some_iff.mp h
  simp [hl]

/-- The first poll: the request enters or waits under a ticket that did neither before. -/
theorem Ticketed.send (h : s.Ticketed) {t : Ticket} {r : Request} (hr : (t, some r) ∈ s.asking) :
    ({ s with queue := s.queue.send t r }.look t).Ticketed := by
  obtain ⟨hm, he, hw⟩ := h.unsent t r hr
  obtain ⟨-, hs⟩ | ⟨-, hs⟩ | ⟨-, hs⟩ := s.queue.send_cases t r
  · rw [hs]
    refine h.fewer ?_ ?_ (made_look _ t) fun u r' hu => (asking_look_some _ t hu).1 <;>
      rw [queue_look]
  · refine ⟨?_, ?_, ?_, ?_, ?_⟩ <;> simp only [queue_look, made_look, hs, Queue.enter]
    · exact nodup_keys_concat h.entered he
    · exact h.waiting
    · intro u hu
      have hne : u ≠ t := fun heq => hw (heq ▸ hu)
      simpa [keys, hne] using h.apart u hu
    · intro x hx
      simp only [List.append_assoc, List.mem_append, List.mem_singleton] at hx
      obtain hx | rfl | hx := hx
      · exact h.made x (by simp [hx])
      · exact hm
      · exact h.made x (by simp [hx])
    · intro u r' hu
      obtain ⟨hu, hne⟩ := asking_look_some _ t hu
      obtain ⟨hm', he', hw'⟩ := h.unsent u r' hu
      exact ⟨hm', by simpa [keys, hne] using he', hw'⟩
  · refine ⟨?_, ?_, ?_, ?_, ?_⟩ <;> simp only [queue_look, made_look, hs]
    · exact h.entered
    · exact nodup_keys_concat h.waiting hw
    · intro u hu
      simp only [keys, List.map_append, List.map_cons, List.map_nil, List.mem_append,
        List.mem_singleton] at hu
      obtain hu | rfl := hu
      · exact h.apart u hu
      · exact he
    · intro x hx
      simp only [List.mem_append, List.mem_singleton] at hx
      obtain hx | hx | rfl := hx
      · exact h.made x (by simp [hx])
      · exact h.made x (by simp [hx])
      · exact hm
    · intro u r' hu
      obtain ⟨hu, hne⟩ := asking_look_some _ t hu
      obtain ⟨hm', he', hw'⟩ := h.unsent u r' hu
      exact ⟨hm', he', by simpa [keys, hne] using hw'⟩

/-- A further poll: the request may enter, and then it waits no more. -/
theorem Ticketed.retry (h : s.Ticketed) (t : Ticket) :
    ({ s with queue := s.queue.retry t }.look t).Ticketed := by
  obtain ⟨-, r, hr, hs⟩ | hs := s.queue.retry_cases t
  · have ht : t ∈ keys s.queue.waiting := List.mem_map.mpr ⟨_, hr, rfl⟩
    have hsub : (keys (s.queue.waiting.filter fun w => w.1 != t)).Sublist (keys s.queue.waiting) :=
      List.filter_sublist.map _
    refine ⟨?_, ?_, ?_, ?_, ?_⟩ <;>
      simp only [queue_look, made_look, hs, Queue.enter, Queue.unlist]
    · exact nodup_keys_concat h.entered (h.apart t ht)
    · exact h.waiting.sublist hsub
    · intro u hu
      have hne : u ≠ t := by
        obtain ⟨x, hx, rfl⟩ := List.mem_map.mp hu
        simpa using (List.mem_filter.mp hx).2
      simpa [keys, hne] using h.apart u (hsub.subset hu)
    · intro x hx
      simp only [List.append_assoc, List.mem_append, List.mem_singleton, List.mem_filter] at hx
      obtain hx | rfl | ⟨hx, -⟩ := hx
      · exact h.made x (by simp [hx])
      · exact h.made _ (by simp [hr])
      · exact h.made x (by simp [hx])
    · intro u r' hu
      obtain ⟨hu, hne⟩ := asking_look_some _ t hu
      obtain ⟨hm, he, hw⟩ := h.unsent u r' hu
      exact ⟨hm, by simpa [keys, hne] using he, fun hn => hw (hsub.subset hn)⟩
  · rw [hs]
    refine h.fewer ?_ ?_ (made_look _ t) fun u r' hu => (asking_look_some _ t hu).1 <;>
      rw [queue_look]

theorem waiting_work (i : Interpreter) (q : Queue) :
    (q.work i).entered = q.entered ∧ (q.work i).waiting.Sublist q.waiting := by
  obtain ⟨t, stage, -, -, hw⟩ | ⟨t, r, rest, -, -, -, hw⟩ | ⟨-, -, -, -, hw⟩ | ⟨-, hw⟩ | hw :=
    q.work_cases i <;> rw [hw]
  · simp
  · simp
  · exact ⟨rfl, List.Sublist.refl _⟩
  · exact ⟨rfl, List.nil_sublist _⟩
  · exact ⟨rfl, List.Sublist.refl _⟩

/-- What a turn does to callers and tickets; by most turns nothing enters and nobody comes to wait. -/
theorem step_cases (i : Interpreter) (s : Clients) (e : Event) :
    (∃ r, s.step i e = s.make r) ∨
      (∃ t r, (t, some r) ∈ s.asking ∧
        s.step i e = { s with queue := s.queue.send t r }.look t) ∨
      (∃ t, (t, none) ∈ s.asking ∧ s.step i e = { s with queue := s.queue.retry t }.look t) ∨
      (∃ t, s.step i e = s.drop t) ∨
      ∃ q, s.step i e = { s with queue := q } ∧ q.entered = s.queue.entered ∧
        q.waiting.Sublist s.queue.waiting := by
  have same {q : Queue} (hs : s.step i e = { s with queue := q })
      (he : q.entered = s.queue.entered) (hw : q.waiting.Sublist s.queue.waiting) :
      ∃ q, s.step i e = { s with queue := q } ∧ q.entered = s.queue.entered ∧
        q.waiting.Sublist s.queue.waiting := ⟨q, hs, he, hw⟩
  cases e with
  | make r => exact .inl ⟨r, rfl⟩
  | poll t =>
    cases ha : s.asking.lookup t with
    | none =>
      exact .inr (.inr (.inr (.inr (same (q := s.queue) (by simp [step, poll, ha]) rfl
        (.refl _)))))
    | some sent =>
      have hm := mem_asking_of_lookup ha
      cases sent with
      | some r => exact .inr (.inl ⟨t, r, hm, by simp [step, poll, ha]⟩)
      | none => exact .inr (.inr (.inl ⟨t, hm, by simp [step, poll, ha]⟩))
  | drop t => exact .inr (.inr (.inr (.inl ⟨t, rfl⟩)))
  | clone =>
    refine .inr (.inr (.inr (.inr ?_)))
    by_cases h : s.queue.handles = 0
    · exact same (q := s.queue) (by simp [step, clone, h]) rfl (.refl _)
    · exact same (q := s.queue.clone) (by simp [step, clone, h]) rfl (.refl _)
  | dropHandle =>
    refine .inr (.inr (.inr (.inr ?_)))
    by_cases h : s.queue.handles = 1 ∧ s.asking ≠ []
    · exact same (q := s.queue) (by simp [step, dropHandle, h]) rfl (.refl _)
    · exact same (q := s.queue.dropHandle) (by simp only [step, dropHandle, h, ↓reduceIte]) rfl
        (.refl _)
  | work =>
    obtain ⟨he, hw⟩ := waiting_work i s.queue
    exact .inr (.inr (.inr (.inr (same rfl he hw))))
  | load | allowFinish => exact .inr (.inr (.inr (.inr (same rfl rfl (.refl _)))))
  | abort =>
    refine .inr (.inr (.inr (.inr (same rfl ?_ ?_)))) <;>
      · rw [Queue.abort]
        split <;> simp

theorem Ticketed.step (h : s.Ticketed) (e : Event) : (s.step i e).Ticketed := by
  obtain ⟨r, hs⟩ | ⟨t, r, hr, hs⟩ | ⟨t, -, hs⟩ | ⟨t, hs⟩ | ⟨q, hs, he, hw⟩ := step_cases i s e <;>
    rw [hs]
  · exact h.make r
  · exact h.send hr
  · exact h.retry t
  · exact h.fewer rfl List.filter_sublist rfl fun _ _ ht => List.mem_of_mem_filter ht
  · exact h.fewer he hw rfl fun _ _ ht => ht

theorem Ticketed.run (h : s.Ticketed) (es : List Event) : (s.run i es).Ticketed := by
  induction es generalizing s with
  | nil => exact h
  | cons e es ih => exact ih (h.step e)

structure Gone (s : Clients) (t : Ticket) : Prop where
  made : t < s.made.length
  entered : t ∉ keys s.queue.entered
  waiting : t ∉ keys s.queue.waiting
  asking : ∀ sent, (t, sent) ∉ s.asking

theorem gone_drop {t : Ticket} (made : t < s.made.length) (entered : t ∉ keys s.queue.entered) :
    (s.drop t).Gone t where
  made := made
  entered := entered
  waiting := by simp [drop, Queue.leave, Queue.unlist, keys]
  asking := by simp [drop, forget]

theorem Gone.look {t u : Ticket} (h : s.Gone t) (hne : u ≠ t) : (s.look u).Gone t where
  made := by rw [made_look]; exact h.made
  entered := by rw [queue_look]; exact h.entered
  waiting := by rw [queue_look]; exact h.waiting
  asking := by
    intro sent hs
    obtain hs | ⟨hs, -⟩ := asking_look s u hs
    · exact hne (congrArg Prod.fst hs).symm
    · exact h.asking sent hs

theorem Gone.step {t : Ticket} (h : s.Gone t) (e : Event) : (s.step i e).Gone t := by
  have other {u : Ticket} {sent : Option Request} (hm : (u, sent) ∈ s.asking) : u ≠ t := by
    rintro rfl
    exact h.asking sent hm
  obtain ⟨r, hs⟩ | ⟨u, r, hm, hs⟩ | ⟨u, hm, hs⟩ | ⟨u, hs⟩ | ⟨q, hs, he, hw⟩ := step_cases i s e <;>
    rw [hs]
  · unfold make
    split
    · exact h
    · refine ⟨by simp only [List.length_append]; exact Nat.lt_add_right _ h.made, h.entered,
        h.waiting, ?_⟩
      intro sent hm
      simp only [List.mem_append, List.mem_singleton, Prod.mk.injEq] at hm
      obtain hm | ⟨rfl, -⟩ := hm
      · exact h.asking sent hm
      · exact absurd h.made (Nat.lt_irrefl _)
  · have hne := other hm
    refine Gone.look ?_ hne
    obtain ⟨-, hq⟩ | ⟨-, hq⟩ | ⟨-, hq⟩ := s.queue.send_cases u r <;> rw [hq]
    · exact h
    · exact ⟨h.made, by simpa [Queue.enter, keys, hne.symm] using h.entered, h.waiting, h.asking⟩
    · exact ⟨h.made, h.entered, by simpa [keys, hne.symm] using h.waiting, h.asking⟩
  · have hne := other hm
    refine Gone.look ?_ hne
    obtain ⟨-, r, -, hq⟩ | hq := s.queue.retry_cases u <;> rw [hq]
    · refine ⟨h.made, by simpa [Queue.enter, Queue.unlist, keys, hne.symm] using h.entered,
        fun hn => h.waiting ?_, h.asking⟩
      exact (List.filter_sublist.map _).subset hn
    · exact h
  · refine ⟨h.made, h.entered, fun hn => h.waiting ((List.filter_sublist.map _).subset hn), ?_⟩
    intro sent hm
    exact h.asking sent (List.mem_of_mem_filter hm)
  · exact ⟨h.made, by simpa [he] using h.entered, fun hn => h.waiting ((hw.map _).subset hn),
      h.asking⟩

theorem Gone.run {t : Ticket} (h : s.Gone t) (es : List Event) : (s.run i es).Gone t := by
  induction es generalizing s with
  | nil => exact h
  | cons e es ih => exact ih (h.step e)

end Clients

namespace Queue
open Clients (keys)

/-- The first of those who wait enters when it looks again and there is room. -/
theorem retry_first {q : Queue} {t : Ticket} {r : Request} {rest : List (Ticket × Request)}
    (hc : q.isClosed = false) (hw : q.waiting = (t, r) :: rest) (ht : t ∉ keys rest)
    (hr : q.room ≠ 0) : q.retry t = { q with waiting := rest }.enter [(t, r)] := by
  obtain ⟨n, hn⟩ := Nat.exists_eq_succ_of_ne_zero hr
  have ha : q.admitted? t = some (t, r) := by simp [admitted?, hw, hn]
  have hrest : rest.filter (fun w => w.1 != t) = rest := by
    rw [List.filter_eq_self]
    intro w hm
    have hne : w.1 ≠ t := fun he => ht (List.mem_map.mpr ⟨w, hm, he⟩)
    simpa using hne
  simp [retry, hc, ha, unlist, hw, hrest]

theorem with_waiting {q : Queue} {ws : List (Ticket × Request)} (h : q.waiting = ws) :
    { q with waiting := ws } = q := by
  rw [← h]

/-- Letting in all who have room is their looking again, one after another. -/
theorem letIn_eq_foldl_retry (q : Queue) (h : (keys q.waiting).Nodup) :
    q.letIn = (keys (q.waiting.take q.room)).foldl retry q := by
  cases hc : q.isClosed with
  | true =>
    have stay (ts : List Ticket) : ts.foldl retry q = q := by
      induction ts with
      | nil => rfl
      | cons t ts ih => rw [List.foldl_cons, retry, hc]; exact ih
    rw [stay, letIn, hc]
    rfl
  | false =>
    induction hw : q.waiting generalizing q with
    | nil => simpa [letIn, hc, hw, enter] using with_waiting hw
    | cons w rest ih =>
      obtain ⟨t, r⟩ := w
      rw [hw, keys, List.map_cons, List.nodup_cons] at h
      cases hn : q.room with
      | zero => simpa [letIn, hc, hw, hn, enter] using with_waiting hw
      | succ n =>
        have hr := retry_first hc hw h.1 (by simp [hn])
        rw [List.take_succ_cons, keys, List.map_cons, List.foldl_cons, hr]
        obtain ⟨q', hq'⟩ : ∃ q', q' = { q with waiting := rest }.enter [(t, r)] := ⟨_, rfl⟩
        rw [← hq']
        have hc' : q'.isClosed = false := hq' ▸ hc
        have hw' : q'.waiting = rest := by rw [hq']; rfl
        have hroom : q'.room = n := by
          rw [room] at hn
          simp only [hq', room, enter, List.length_append, List.length_singleton]
          omega
        rw [← hroom, ← ih q' (hw' ▸ h.2) hc' hw', letIn, letIn, hc, hc', hw, hw', hn, hroom]
        simp [hq', enter]

/-- So what no turn takes away, letting in all who have room does not take away either. -/
theorem Stable.letIn {i : Interpreter} {P : Queue → Prop} (hP : Stable i P) {q : Queue} (h : P q)
    (nodup : (keys q.waiting).Nodup) : P q.letIn := by
  rw [letIn_eq_foldl_retry q nodup]
  generalize keys (q.waiting.take q.room) = ts
  clear nodup
  induction ts generalizing q with
  | nil => exact h
  | cons t ts ih => exact ih (hP.retry q t h)

end Queue

end Workpad
