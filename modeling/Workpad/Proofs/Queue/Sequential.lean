import Workpad.Proofs.Queue.Progress

/-!
The console queue is a sequential console: whatever turns callers, console and load take, requests
are performed one after another in the order in which they entered, and each reply goes to the caller
of its request.
-/
namespace Workpad

def Queue.Tells (q : Queue) : Ticket × Queue.Answer → Prop
  | (t, .replied text) => (t, text) ∈ q.replies
  | (_, .closed) => q.isClosed = true
  | (_, .pending) => False

namespace Queue
variable {i : Interpreter} {q : Queue}

theorem tells_answer (t : Ticket) (h : q.answer t ≠ .pending) : q.Tells (t, q.answer t) := by
  unfold answer at h ⊢
  cases hr : q.replies.lookup t with
  | some text =>
    obtain ⟨l₁, l₂, hl, -⟩ := List.lookup_eq_some_iff.mp hr
    simp [Tells, hl]
  | none =>
    cases hc : q.isClosed with
    | true => simpa [Tells] using hc
    | false => simp [hr, hc] at h

theorem replies_note (q : Queue) (t : Ticket) (x : Standing × Console) :
    q.replies ⊆ (q.note t x).replies := by
  obtain ⟨text | stage, c⟩ := x
  · exact List.subset_append_left _ _
  · exact List.Subset.refl _

theorem Tells.work {a : Ticket × Answer} (h : q.Tells a) (i : Interpreter) :
    (q.work i).Tells a := by
  have replied {q' : Queue} (hr : q.replies ⊆ q'.replies)
      (hc : q.isClosed = true → q'.isClosed = true) : q'.Tells a := by
    obtain ⟨t, _ | _ | text⟩ := a
    · exact h
    · exact hc h
    · exact hr h
  obtain ⟨t, stage, hl, -, hw⟩ | ⟨t, r, rest, hl, -, -, hw⟩ | ⟨-, -, -, -, hw⟩ | ⟨-, hw⟩ | hw :=
    work_cases i q <;> rw [hw]
  · exact replied (replies_note _ _ _) (by simp [isClosed])
  · exact replied (replies_note { q with queued := rest, begun := q.begun ++ [(t, r)] } _ _)
      (by simp [isClosed])
  · exact replied (List.Subset.refl _) fun _ => rfl
  · exact replied (List.Subset.refl _) fun _ => rfl
  · exact h

theorem tells_stable (i : Interpreter) (a : Ticket × Answer) : Stable i fun q => q.Tells a :=
  .of_alike
    (fun q q' hq h => by
      obtain ⟨t, _ | _ | text⟩ := a
      · exact h
      · obtain hl | ⟨hl, -⟩ := hq.life
        · simpa [Tells, isClosed, hl] using h
        · simp [Tells, isClosed, hl] at h
      · simpa [Tells, hq.replies] using h)
    (fun _ h => h.work i)
    (fun _ h => by obtain ⟨t, _ | _ | text⟩ := a <;> exact h)
    (fun _ h => by obtain ⟨t, _ | _ | text⟩ := a <;> exact h)

end Queue

namespace Clients
variable {i : Interpreter} {s : Clients}

theorem told_look (s : Clients) (t : Ticket) {a : Ticket × Queue.Answer}
    (h : a ∈ (s.look t).told) : a ∈ s.told ∨ s.queue.Tells a := by
  have ht := Queue.tells_answer (q := s.queue) t
  cases hq : s.queue.answer t with
  | pending => exact .inl (by simpa [look, hq] using h)
  | closed | replied text =>
    rw [hq] at ht
    simp only [look, hq, forget, List.mem_append, List.mem_singleton] at h
    obtain h | rfl := h
    · exact .inl h
    · exact .inr (ht (by simp))

theorem told_step (e : Event) (h : ∀ a ∈ s.told, s.queue.Tells a) :
    ∀ a ∈ (s.step i e).told, (s.step i e).queue.Tells a := by
  intro a ha
  have old (ho : a ∈ s.told) : (s.step i e).queue.Tells a := (Queue.tells_stable i a).step (h a ho) e
  obtain ⟨r, hs⟩ | ⟨t, r, -, hs⟩ | ⟨t, -, hs⟩ | ⟨t, hs⟩ | ⟨q, hs, -, -⟩ := step_cases i s e
  · refine old ?_
    rw [hs, make] at ha
    split at ha <;> exact ha
  all_goals rw [hs] at ha
  · obtain ho | hn := told_look _ t ha
    · exact old ho
    · rwa [hs, queue_look]
  · obtain ho | hn := told_look _ t ha
    · exact old ho
    · rwa [hs, queue_look]
  · exact old ha
  · exact old ha

theorem told_run (es : List Event) (h : ∀ a ∈ s.told, s.queue.Tells a) :
    ∀ a ∈ (s.run i es).told, (s.run i es).queue.Tells a := by
  induction es generalizing s with
  | nil => exact h
  | cons e es ih => exact ih (told_step e h)

def Event.isInternal : Event → Bool
  | .work | .load | .allowFinish => true
  | _ => false

theorem internal_run (es : List Event) (h : ∀ e ∈ es, e.isInternal = true) :
    (s.run i es).queue.entered = s.queue.entered ∧
      (s.run i es).queue.handles = s.queue.handles := by
  induction es generalizing s with
  | nil => exact ⟨rfl, rfl⟩
  | cons e es ih =>
    obtain ⟨he, hh⟩ := ih (s := s.step i e) fun e' he' => h e' (List.mem_cons_of_mem _ he')
    have hi := h e List.mem_cons_self
    rw [run_cons, he, hh]
    cases e with
    | work => exact ⟨(waiting_work i s.queue).1, Queue.handles_work i s.queue⟩
    | load | allowFinish => exact ⟨rfl, rfl⟩
    | _ => simp [Event.isInternal] at hi

/-- A running console gets through with all that has entered, and ends if nobody is left. -/
theorem exists_finished (hi : i.Answers) (h : s.queue.Awaited) (ho : s.queue.Orderly)
    (hl : s.queue.life = .running) : ∃ more, (∀ e ∈ more, e.isInternal = true) ∧
      (s.run i more).queue.entered = s.queue.entered ∧
      (s.run i more).queue.begun = s.queue.entered ∧ (s.run i more).queue.current = none ∧
      (s.queue.handles = 0 → (s.run i more).queue.life = .finished) := by
  obtain ⟨es, hes, hr, he⟩ := exists_drained (s := s.step i .allowFinish) hi
    ((Queue.awaited_stable i).step h .allowFinish) hl rfl
  have hall : ∀ e ∈ .allowFinish :: es ++ [.work], e.isInternal = true := by
    simp only [List.cons_append, List.mem_cons, List.mem_append, List.not_mem_nil, or_false]
    rintro e (rfl | hm | rfl)
    · rfl
    · obtain rfl | rfl := hes e hm <;> rfl
    · rfl
  have hrun : s.run i (.allowFinish :: es ++ [.work]) =
      ((s.step i .allowFinish).run i es).step i .work := by
    rw [run_append, run_cons]
    rfl
  obtain ⟨hn, hb, hc, hf⟩ := Queue.work_idle i hr he
  have ho' := (Queue.orderly_stable i).run ((Queue.orderly_stable i).step ho .allowFinish) es
  have hin : ∀ e ∈ .allowFinish :: es, e.isInternal = true := fun e hm =>
    hall e (List.mem_append_left [.work] hm)
  obtain ⟨hen, hha⟩ := internal_run (s := s) (i := i) _ hin
  rw [run_cons] at hen hha
  refine ⟨_, hall, (internal_run _ hall).1, ?_, ?_, fun hz => ?_⟩ <;> rw [hrun]
  · refine hb.trans ?_
    rw [← hen, ho'.lossless (by rw [hr]; decide), hn, List.append_nil]
  · exact hc
  · exact hf (hha.trans hz)

/-- Whatever turns callers, console and load take: requests are begun in the order in which they
entered, each at most once, as they were made, and none is passed over; what has entered stays, and
what was dropped before it entered never does; a caller is told the reply that performing all requests
one after another gives in the place of its own, or that the console has stopped; when the console is
between two requests it is where performing them one after another leads, and when it is done all
have been performed; and it gets there once the load may end and the interpreter answers. -/
theorem queue_is_sequential {c : Console} (h : c.workspace.startup.Reachable) (i : Interpreter)
    (depth : Nat) (es : List Event) :
    let start := ofConsole c depth
    let s := start.run i es
    let q := s.queue
    (q.begun <+: q.entered ∧ (keys q.entered).Nodup ∧
        (∀ t r, (t, r) ∈ q.entered → s.made[t]? = some r) ∧
        (q.life ≠ .aborted → q.entered = q.begun ++ q.queued)) ∧
      (∀ es₁ es₂, es = es₁ ++ es₂ → (start.run i es₁).queue.entered <+: q.entered) ∧
      (∀ es₁ t es₂, es = es₁ ++ .drop t :: es₂ → t < (start.run i es₁).made.length →
        t ∉ keys (start.run i es₁).queue.entered → t ∉ keys q.entered) ∧
      (∀ t text, (t, .replied text) ∈ s.told → ∃ (n : Nat) (r : Request),
        q.entered[n]? = some (t, r) ∧
          (c.loaded.serve i (q.entered.map Prod.snd)).1[n]? = some (.replied text)) ∧
      (∀ t, (t, .closed) ∈ s.told → q.isClosed = true) ∧
      (q.life ≠ .aborted → q.current = none → c.loaded.serve i (q.begun.map Prod.snd) =
        (q.replies.map fun x => .replied x.2, q.console.loaded)) ∧
      (q.life = .finished → q.handles = 0 ∧ q.begun = q.entered ∧ q.current = none) ∧
      (i.Answers → q.life = .running → ∃ more, (∀ e ∈ more, e.isInternal = true) ∧
        (s.run i more).queue.entered = q.entered ∧ (s.run i more).queue.begun = q.entered ∧
        (s.run i more).queue.current = none ∧
        (q.handles = 0 → (s.run i more).queue.life = .finished)) := by
  intro start s q
  have hs : c.workspace.startup.Sound := h.sound
  have orderly : q.Orderly :=
    (Queue.orderly_stable i).run (s := start) (Queue.orderly_ofConsole c depth) es
  have ticketed : s.Ticketed := (ticketed_ofConsole c depth).run es
  have simulates : q.Simulates i c :=
    (Queue.simulates_stable i c).run (s := start) (Queue.simulates_ofConsole i hs depth) es
  have told : ∀ a ∈ s.told, q.Tells a := told_run es (by simp [start, ofConsole])
  refine ⟨⟨orderly.inOrder, ticketed.entered, ?_, orderly.lossless⟩, ?_, ?_, ?_, ?_, ?_, ?_, ?_⟩
  · exact fun t r hm => ticketed.made (t, r) (List.mem_append_left _ hm)
  · intro es₁ es₂ hes
    have hq := (Queue.entered_stable i (start.run i es₁).queue.entered).run List.prefix_rfl es₂
    rwa [← run_append, ← hes] at hq
  · intro es₁ t es₂ hes made entered
    have hg := (gone_drop made entered).run (i := i) es₂
    have hrun : s = ((start.run i es₁).drop t).run i es₂ := by
      rw [show s = start.run i (es₁ ++ .drop t :: es₂) from hes ▸ rfl, run_append, run_cons]
      rfl
    rw [← hrun] at hg
    exact hg.entered
  · intro t text ht
    obtain ⟨n, r, hn, hr⟩ := simulates.reply (told _ ht)
    refine ⟨n, r, Queue.getElem?_of_prefix orderly.inOrder hn, ?_⟩
    obtain ⟨more, hm⟩ := orderly.inOrder
    have hp := Console.serve_prefix i c.loaded (q.begun.map Prod.snd) (more.map Prod.snd)
    rw [← List.map_append, hm] at hp
    exact Queue.getElem?_of_prefix hp hr
  · exact fun t ht => told _ ht
  · exact simulates.done
  · intro hf
    obtain ⟨hh, hq, hc⟩ := orderly.finished hf
    refine ⟨hh, ?_, hc⟩
    rw [orderly.lossless (by rw [hf]; decide), hq, List.append_nil]
  · intro hi hl
    have hw : start.queue.Awaited := ⟨hs, by simp [start, ofConsole, Queue.ofConsole]⟩
    exact exists_finished hi ((Queue.awaited_stable i).run hw es) orderly hl

/-- With room for one request, the second waits; dropped then, it never enters. -/
theorem waiting_request_dropped :
    let c : Console :=
      { workspace := { startup := { location := "", loader := fun _ => .ready },
                       plotter := .ofSettings {} .numbered },
        helpWidth := 80 }
    let i : Interpreter := ⟨fun _ _ => ⟨[], some (.ok ())⟩, fun _ _ => ⟨[], some (.ok none)⟩⟩
    let before : List Event := [.make (.script "1"), .make .transcript, .poll 0, .poll 1]
    let after : List Event := [.work, .poll 1, .dropHandle, .load, .work, .poll 0]
    c.workspace.startup.Reachable ∧
      1 ∉ keys ((ofConsole c 1).run i (before ++ .drop 1 :: after)).queue.entered := by
  intro c i before after
  have hc : c.workspace.startup.Reachable := .new _ _ _
  obtain ⟨-, -, dropped, -⟩ := queue_is_sequential hc i 1 (before ++ .drop 1 :: after)
  exact ⟨hc, dropped before 1 after rfl (by decide) (by decide)⟩

end Clients

end Workpad
