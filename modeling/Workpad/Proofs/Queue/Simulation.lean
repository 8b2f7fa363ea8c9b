import Workpad.Proofs.Console.Sequence
import Workpad.Proofs.Queue.Order

/-!
The console behind a queue is on the way of a console that performs the same requests one after
another, however callers, console and load take turns.
-/
namespace Workpad

namespace Console

theorem loaded_load {c : Console} (h : c.workspace.startup.Sound) : c.load.loaded = c.loaded := by
  simp only [loaded, load, Workspace.loaded, Workspace.load, Workspace.withStartup,
    Startup.loaded_work h]

theorem loaded_allowFinish (c : Console) : c.allowFinish.loaded = c.loaded := rfl

theorem startup_cancel (c : Console) (stage : Stage) :
    (c.cancel stage).workspace.startup = c.workspace.startup := by
  cases stage <;> rfl

end Console

namespace Queue
variable {i : Interpreter} {c : Console} {q : Queue}

theorem console_note (q : Queue) (t : Ticket) (x : Standing × Console) :
    (q.note t x).console = x.2 := by
  obtain ⟨_ | _, _⟩ := x <;> rfl

theorem current_note {t u : Ticket} {x : Standing × Console} {stage : Stage}
    (h : (q.note t x).current = some (u, stage)) : x.1 = .suspended stage := by
  obtain ⟨text | stage, d⟩ := x
  · simp [Queue.note] at h
  · simp only [Queue.note, Option.some.injEq, Prod.mk.injEq] at h
    rw [h.2]

theorem startup_work (i : Interpreter) (q : Queue) :
    (q.work i).console.workspace.startup = q.console.workspace.startup ∨
      (q.work i).console.workspace.startup = q.console.workspace.startup.request := by
  obtain ⟨t, stage, -, -, hw⟩ | ⟨t, r, rest, -, -, -, hw⟩ | ⟨-, -, -, -, hw⟩ | ⟨-, hw⟩ | hw :=
    work_cases i q <;> rw [hw]
  · rw [console_note]
    exact .inl (Console.startup_advance i q.console stage)
  · rw [console_note]
    exact Console.startup_start i q.console r
  · exact .inl rfl
  · cases hc : q.current <;> exact .inl (by simp [die, hc, Console.startup_cancel])
  · exact .inl rfl

theorem sound_work (h : q.console.workspace.startup.Sound) (i : Interpreter) :
    (q.work i).console.workspace.startup.Sound := by
  obtain hs | hs := startup_work i q <;> rw [hs]
  · exact h
  · exact h.request

structure Served (i : Interpreter) (c : Console) (q : Queue) (done : List (Ticket × Request))
    (d : Console) : Prop where
  first : done <+: q.begun
  tickets : q.replies.map Prod.fst = done.map Prod.fst
  replies : c.loaded.serve i (done.map Prod.snd) = (q.replies.map fun x => .replied x.2, d)

/-- Where the console is on the way of the sequential one: either it stands there, or the request
under way would take it there. -/
def Follows (i : Interpreter) (q : Queue) (done : List (Ticket × Request)) (d : Console) : Prop :=
  match q.current with
  | none => q.begun = done ∧ q.console.loaded = d
  | some (t, stage) =>
    ∃ r, q.begun = done ++ [(t, r)] ∧ q.console.complete i stage = d.perform i r

structure Simulates (i : Interpreter) (c : Console) (q : Queue) : Prop where
  sound : q.console.workspace.startup.Sound
  served : ∃ done d, q.Served i c done d ∧ (q.life ≠ .aborted → q.Follows i done d)

theorem simulates_ofConsole (i : Interpreter) {c : Console} (h : c.workspace.startup.Sound)
    (depth : Nat) : (ofConsole c depth).Simulates i c :=
  ⟨h, [], c.loaded, ⟨List.nil_prefix, rfl, rfl⟩, fun _ => ⟨rfl, rfl⟩⟩

/-- What a step of the request under way leads to is on the way, too. -/
theorem Served.note {done : List (Ticket × Request)} {d : Console} {t : Ticket} {r : Request}
    {x : Standing × Console} (h : q.Served i c done d) (hb : q.begun = done ++ [(t, r)])
    (hx : Console.completed i x = d.perform i r) :
    ∃ done' d', (q.note t x).Served i c done' d' ∧ (q.note t x).Follows i done' d' := by
  obtain ⟨text | stage, e⟩ := x
  · refine ⟨done ++ [(t, r)], e.loaded, ⟨?_, ?_, ?_⟩, hb, rfl⟩
    · exact hb ▸ List.prefix_rfl
    · simpa [Queue.note] using h.tickets
    · have hr := h.replies
      have hm : q.replies.map (fun x => Standing.replied x.2) =
          (q.replies.map Prod.snd).map .replied := by rw [List.map_map]; rfl
      rw [hm] at hr
      have hc := Console.serve_concat hr r
      rw [← hx] at hc
      rw [List.map_append, List.map_cons, List.map_nil, hc, ← hm]
      simp [Queue.note, Console.completed]
  · exact ⟨done, d, ⟨h.first, h.tickets, h.replies⟩, r, hb, hx⟩

theorem Simulates.work (h : q.Simulates i c) : (q.work i).Simulates i c := by
  refine ⟨sound_work h.sound i, ?_⟩
  obtain ⟨done, d, hd, hf⟩ := h.served
  obtain ⟨t, stage, hl, hc, hw⟩ | ⟨t, r, rest, hl, hc, hq, hw⟩ | ⟨hl, hc, hq, hh, hw⟩ | ⟨hl, hw⟩ |
    hw := work_cases i q <;> rw [hw]
  · have hf := hf (by simp [hl])
    rw [Follows, hc] at hf
    obtain ⟨r, hb, hr⟩ := hf
    obtain ⟨done', d', hd', hf'⟩ :=
      hd.note (x := q.console.advance i stage) hb (by rw [Console.completed_advance h.sound, hr])
    exact ⟨done', d', hd', fun _ => hf'⟩
  · have hf := hf (by simp [hl])
    rw [Follows, hc] at hf
    obtain ⟨hb, hr⟩ := hf
    obtain ⟨done', d', hd', hf'⟩ :=
      Served.note (q := { q with queued := rest, begun := q.begun ++ [(t, r)] })
        (x := q.console.start i r)
        ⟨hd.first.trans (List.prefix_append _ _), hd.tickets, hd.replies⟩ (by rw [hb])
        (by rw [Console.completed_start h.sound, hr])
    exact ⟨done', d', hd', fun _ => hf'⟩
  · exact ⟨done, d, ⟨hd.first, hd.tickets, hd.replies⟩, fun _ => hf (by simp [hl])⟩
  · exact ⟨done, d, ⟨hd.first, hd.tickets, hd.replies⟩, fun hn => (hn rfl).elim⟩
  · exact ⟨done, d, hd, hf⟩

theorem Simulates.alike {q' : Queue} (h : q.Simulates i c) (hq : Alike q q') :
    q'.Simulates i c := by
  obtain ⟨done, d, hd, hf⟩ := h.served
  refine ⟨by rw [hq.console]; exact h.sound, done, d, ⟨?_, ?_, ?_⟩, fun hl => ?_⟩
  · exact hq.begun ▸ hd.first
  · exact hq.replies ▸ hd.tickets
  · exact hq.replies ▸ hd.replies
  · have hf := hf <| by
      obtain hs | ⟨hs, -⟩ := hq.life
      · rwa [← hs]
      · simp [hs]
    unfold Follows at hf ⊢
    rwa [hq.current, hq.begun, hq.console]

theorem Simulates.console {e : Console} (h : q.Simulates i c) (sound : e.workspace.startup.Sound)
    (loaded : e.loaded = q.console.loaded) : { q with console := e }.Simulates i c := by
  obtain ⟨done, d, hd, hf⟩ := h.served
  refine ⟨sound, done, d, ⟨hd.first, hd.tickets, hd.replies⟩, fun hl => ?_⟩
  have hf := hf hl
  unfold Follows at hf ⊢
  simpa only [loaded, Console.complete] using hf

theorem simulates_stable (i : Interpreter) (c : Console) : Stable i (Simulates i c) :=
  .of_alike (fun _ _ hq h => h.alike hq) (fun _ h => h.work)
    (fun _ h => h.console (Startup.Sound.work h.sound) (Console.loaded_load h.sound))
    (fun _ h => h.console (Startup.Sound.allowFinish h.sound) (Console.loaded_allowFinish _))

theorem getElem?_of_prefix {α : Type} {l l' : List α} {n : Nat} {x : α} (h : l <+: l')
    (hx : l[n]? = some x) : l'[n]? = some x := by
  obtain ⟨hn, rfl⟩ := List.getElem?_eq_some_iff.mp hx
  exact List.prefix_iff_getElem?.mp h n hn

/-- A reply is the one that the sequential console gives in the same place. -/
theorem Simulates.reply (h : q.Simulates i c) {t : Ticket} {text : Option String}
    (ht : (t, text) ∈ q.replies) :
    ∃ (n : Nat) (r : Request), q.begun[n]? = some (t, r) ∧
      (c.loaded.serve i (q.begun.map Prod.snd)).1[n]? = some (Standing.replied text) := by
  obtain ⟨done, d, hd, -⟩ := h.served
  obtain ⟨n, hn⟩ := List.mem_iff_getElem?.mp ht
  have hk : (done.map Prod.fst)[n]? = some t := by rw [← hd.tickets, List.getElem?_map, hn]; rfl
  rw [List.getElem?_map] at hk
  obtain ⟨⟨t', r⟩, hr, rfl⟩ := Option.map_eq_some_iff.mp hk
  refine ⟨n, r, getElem?_of_prefix hd.first hr, ?_⟩
  obtain ⟨more, hm⟩ := hd.first
  have hp := Console.serve_prefix i c.loaded (done.map Prod.snd) (more.map Prod.snd)
  rw [← List.map_append, hm, hd.replies] at hp
  exact getElem?_of_prefix hp (by rw [List.getElem?_map, hn]; rfl)

theorem Simulates.done (h : q.Simulates i c) (hl : q.life ≠ .aborted) (hc : q.current = none) :
    c.loaded.serve i (q.begun.map Prod.snd) =
      (q.replies.map fun x => .replied x.2, q.console.loaded) := by
  obtain ⟨done, d, hd, hf⟩ := h.served
  have hf := hf hl
  rw [Follows, hc] at hf
  obtain ⟨rfl, rfl⟩ := hf
  exact hd.replies

end Queue

end Workpad
