import Workpad.Proofs.Run.Handling

/-!
The protocol between a run and the interpreter. Which calls a run has made, and what it comes to, is
decided by the status that it was given and by what the interpreter has answered it so far.
-/
namespace Workpad

inductive Answer where
  | resolved (answer : Except String Unit)
  | evaluated (answer : Except String (Option String))

def Stage.answers : Stage → List Answer
  | .awaiting _ | .resolving _ => []
  | .evaluating _ => [.resolved (.ok ())]

def told (n : Nat) (log : List (Nat × Answer)) : List Answer :=
  log.filterMap fun x => if x.1 = n then some x.2 else none

theorem mem_told {n : Nat} {log : List (Nat × Answer)} {a : Answer} :
    a ∈ told n log ↔ (n, a) ∈ log := by
  simp only [told, List.mem_filterMap, Option.ite_none_right_eq_some, Option.some.injEq,
    Prod.exists]
  constructor
  · rintro ⟨n', a', hm, rfl, rfl⟩
    exact hm
  · exact fun hm => ⟨n, a, hm, rfl, rfl⟩

theorem told_append_map (n k : Nat) (log : List (Nat × Answer)) (as : List Answer) :
    told n (log ++ as.map (k, ·)) = told n log ++ if k = n then as else [] :=
  List.filterMap_append.trans (congrArg (told n log ++ ·) (filterMap_named (· = n) k as))

theorem told_append_self (n : Nat) (log : List (Nat × Answer)) (as : List Answer) :
    told n (log ++ as.map (n, ·)) = told n log ++ as := by
  rw [told_append_map, if_pos rfl]

theorem told_append_of_ne {n k : Nat} (h : k ≠ n) (log : List (Nat × Answer)) (as : List Answer) :
    told n (log ++ as.map (k, ·)) = told n log := by
  rw [told_append_map, if_neg h, List.append_nil]

/-- A look finds no status yet, one that is not ready, or the interpreter: a status that is ready
comes after the interpreter. -/
theorem Workspace.proceed_cases {w : Workspace} (sound : w.startup.Sound) (code : String) :
    (w.startup.settled? = none ∧ w.proceed code = (.suspended (.awaiting code), w)) ∨
    (∃ status, w.startup.settled? = some status ∧ status ≠ .ready ∧
      w.proceed code = (.finished (.ofFault .notLoaded), w)) ∨
    (w.startup.settled? = some .ready ∧
      w.proceed code = (.suspended (.resolving (w.launch code).1), (w.launch code).2)) := by
  cases hq : w.startup.settled? with
  | none => exact .inl ⟨rfl, by simp [proceed, hq]⟩
  | some status =>
    by_cases hs : status = .ready
    · subst hs
      have has : w.startup.hasInterpreter = true :=
        sound.hasInterpreter_iff.mpr (Startup.status_of_settled? hq)
      exact .inr (.inr ⟨rfl, by simp [proceed, hq, Status.isReady, has]⟩)
    · exact .inr (.inl ⟨status, rfl, hs, by simp [proceed, hq, Status.isReady, hs]⟩)

/-- How a run under way stands, having been answered `as`. -/
structure Course.Stands (c : Course) (w : Workspace) (as : List Answer) : Prop where
  answered : as = c.stage.answers
  waiting : c.stage.job? = none → c.found = none ∧ w.plotter = c.before.plotter ∧
    w.transcript = c.before.transcript ∧ w.sinks.next = c.before.sinks.next
  launched : ∀ job, c.stage.job? = some job → c.found = some .ready ∧ job = c.before.job c.code

/-- How a run ends that has been answered `as`. -/
inductive Record.Ends (r : Record) : List Answer → Prop
  | refused (status : Status) (found : r.course.found = some status) (notReady : status ≠ .ready)
      (waiting : r.course.stage.job? = none) (report : r.report = some (.ofFault .notLoaded))
      (plotter : r.after.plotter = r.course.before.plotter)
      (transcript : r.after.transcript = r.course.before.transcript) : Ends r []
  | unresolved (m : String) (found : r.course.found = some .ready)
      (stage : r.course.stage = .resolving (r.course.before.job r.course.code))
      (outcome : r.report.map Report.outcome = some (.error (.dependency m))) :
      Ends r [.resolved (.error m)]
  | evaluated (a : Except String (Option String)) (found : r.course.found = some .ready)
      (stage : r.course.stage = .evaluating (r.course.before.job r.course.code))
      (outcome : r.report.map Report.outcome = some (a.mapError .evaluation)) :
      Ends r [.resolved (.ok ()), .evaluated a]
  | cancelled {as : List Answer} (w : Workspace) (stands : r.course.Stands w as)
      (report : r.report = none) : Ends r as

namespace Record
variable {r : Record} {as : List Answer}

end Record

namespace Desk
variable {d : Desk} {log : List (Nat × Answer)}

def answered (d : Desk) : Event → List Answer
  | .resolved answer =>
    match d.current.map Course.stage with
    | some (.resolving _) => [.resolved answer]
    | _ => []
  | .evaluated answer =>
    match d.current.map Course.stage with
    | some (.evaluating _) => [.evaluated answer]
    | _ => []
  | _ => []

/-- What runs are answered, in order, each by the number of runs that have ended before. -/
def answers : Desk → List Event → List (Nat × Answer)
  | _, [] => []
  | d, e :: es => (d.answered e).map (d.past.length, ·) ++ answers (d.step e) es

structure Told (d : Desk) (log : List (Nat × Answer)) : Prop where
  sound : d.workspace.startup.Sound
  current : ∀ c, d.current = some c → c.Stands d.workspace (told d.past.length log)
  past : ∀ n (r : Record), d.past[n]? = some r → r.Ends (told n log)
  later : ∀ n, d.past.length + d.current.toList.length ≤ n → told n log = []

/-- Answers to the run under way change nothing for the others. -/
theorem Told.told_of_ne (h : d.Told log) (as : List Answer) :
    (∀ n (r : Record), d.past[n]? = some r → r.Ends (told n (log ++ as.map (d.past.length, ·)))) ∧
      ∀ n, d.past.length + 1 ≤ n → told n (log ++ as.map (d.past.length, ·)) = [] := by
  refine ⟨fun n r hr => ?_, fun n hn => ?_⟩
  · have hn : n < d.past.length := (List.getElem?_eq_some_iff.mp hr).1
    rw [told_append_of_ne (by omega)]
    exact h.past n r hr
  · rw [told_append_of_ne (by omega)]
    refine h.later n ?_
    cases d.current <;> simp <;> omega

theorem Told.goOn (h : d.Told log) (as : List Answer) {c : Course} {w : Workspace}
    (sound : w.startup.Sound) (stands : c.Stands w (told d.past.length log ++ as)) :
    Told { d with workspace := w, current := some c }
      (log ++ as.map (d.past.length, ·)) := by
  obtain ⟨past, later⟩ := h.told_of_ne as
  refine ⟨sound, ?_, past, later⟩
  rintro _ ⟨⟩
  rw [told_append_self]
  exact stands

theorem Told.finish (h : d.Told log) (as : List Answer) {r : Record} {w : Workspace}
    (sound : w.startup.Sound) (ends : r.Ends (told d.past.length log ++ as)) :
    Told { workspace := w, past := d.past ++ [r] } (log ++ as.map (d.past.length, ·)) := by
  obtain ⟨past, later⟩ := h.told_of_ne as
  refine ⟨sound, by simp, fun n r' hr => ?_, fun n hn => later n (by simpa using hn)⟩
  obtain hn | rfl | hn := Nat.lt_trichotomy n d.past.length
  · rw [List.getElem?_append_left hn] at hr
    exact past n r' hr
  · rw [List.getElem?_concat_length] at hr
    obtain rfl := Option.some.inj hr
    rw [told_append_self]
    exact ends
  · rw [List.getElem?_eq_none (by simpa using Nat.succ_le_of_lt hn)] at hr
    contradiction

theorem Told.startup (h : d.Told log) {s : Startup} (sound : s.Sound) :
    Told { d with workspace := d.workspace.withStartup s } log := by
  refine ⟨sound, fun c hc => ?_, h.past, h.later⟩
  obtain ⟨answered, waiting, launched⟩ := h.current c hc
  exact ⟨answered, waiting, launched⟩

theorem Told.look (h : d.Told log) {c : Course} (hc : d.current = some c)
    (hj : c.stage.job? = none) : (d.look c).Told log := by
  obtain ⟨answered, waiting, -⟩ := h.current c hc
  obtain ⟨-, plotter, transcript, next⟩ := waiting hj
  have none_yet : told d.past.length log ++ [] = [] := by
    cases hs : c.stage with
    | awaiting code => simpa [hs, Stage.answers] using answered
    | resolving job | evaluating job => simp [hs, Stage.job?] at hj
  rw [← List.append_nil log]
  obtain ⟨hq, hp⟩ | ⟨status, hq, hs, hp⟩ | ⟨hq, hp⟩ := d.workspace.proceed_cases h.sound c.code
  · rw [Desk.look, hq, hp]
    exact h.goOn [] h.sound
      ⟨none_yet, fun _ => ⟨rfl, plotter, transcript, next⟩, by simp [Stage.job?]⟩
  · rw [Desk.look, hq, hp]
    refine h.finish [] h.sound ?_
    rw [none_yet]
    exact .refused status rfl hs hj rfl plotter transcript
  · have made : (d.workspace.launch c.code).1 = c.before.job c.code := by
      rw [Workspace.job, ← plotter, ← transcript, ← next]
      rfl
    rw [Desk.look, hq, hp]
    refine h.goOn [] h.sound ⟨none_yet, by simp [Stage.job?], ?_⟩
    rintro _ ⟨⟩
    exact ⟨rfl, made⟩

theorem Told.start (h : d.Told log) (code : String) : (d.start code).Told log := by
  cases hc : d.current with
  | some c => simpa [Desk.start, hc] using h
  | none =>
    have none_yet : told d.past.length log ++ [] = [] := by
      simpa using h.later d.past.length (by simp [hc])
    have begun := h.goOn [] (c := { code, stage := .awaiting code, before := d.workspace })
      (w := d.workspace.request) h.sound.request
      ⟨none_yet, fun _ => ⟨rfl, rfl, rfl, rfl⟩, by simp [Stage.job?]⟩
    rw [List.map_nil, List.append_nil] at begun
    have looked := begun.look rfl rfl
    rw [look_current _ _ _ d.current] at looked
    simpa only [Desk.start, hc] using looked

theorem Told.write (h : d.Told log) (b : Nat) (chunk : Chunk) : (d.write b chunk).Told log := by
  unfold Desk.write
  split
  · refine ⟨h.sound, fun c hc => ?_, h.past, fun n hn => h.later n ?_⟩
    · obtain ⟨c, hcur, rfl⟩ := Option.map_eq_some_iff.mp hc
      obtain ⟨answered, waiting, launched⟩ := h.current c hcur
      refine ⟨?_, ?_, ?_⟩
      · simpa using answered
      · simpa [Workspace.write] using waiting
      · simpa using launched
    · cases hc : d.current <;> simpa [hc] using hn
  · exact h

theorem Told.cancel (h : d.Told log) : d.cancel.Told log := by
  cases hc : d.current with
  | none => simpa [Desk.cancel, hc] using h
  | some c =>
    have sound : (d.workspace.cancel c.stage).startup.Sound := by
      cases c.stage <;> exact h.sound
    have stands := h.current c hc
    rw [← List.append_nil (told _ _)] at stands
    simpa [Desk.cancel, hc] using h.finish [] sound (.cancelled d.workspace stands rfl)

theorem Told.edit (h : d.Told log) (f : Transcript → Transcript) : (d.edit f).Told log := by
  cases hc : d.current with
  | none =>
    simp only [Desk.edit, hc]
    refine ⟨h.sound, by simp, h.past, fun n hn => h.later n ?_⟩
    simpa [hc] using hn
  | some c => simpa [Desk.edit, hc] using h

theorem Told.resolved (h : d.Told log) (a : Except String Unit) :
    (d.step (.resolved a)).Told (log ++ (d.answered (.resolved a)).map (d.past.length, ·)) := by
  cases hc : d.current with
  | none => simpa [step, answered, hc] using h
  | some c =>
    cases hs : c.stage with
    | awaiting code | evaluating job => simpa [step, answered, hc, hs] using h
    | resolving job =>
      obtain ⟨before, -, launched⟩ := h.current c hc
      obtain ⟨found, rfl⟩ := launched job (by simp [hs, Stage.job?])
      have before : told d.past.length log = [] := by simpa [hs, Stage.answers] using before
      simp only [step, answered, hc, hs, Option.map_some]
      cases a with
      | error m =>
        refine h.finish [.resolved (.error m)] h.sound ?_
        rw [before]
        exact .unresolved m found hs rfl
      | ok _ =>
        refine h.goOn [.resolved (.ok ())] h.sound ⟨?_, by simp [Stage.job?], ?_⟩
        · rw [before]
          rfl
        · rintro _ ⟨⟩
          exact ⟨found, rfl⟩

theorem Told.evaluated (h : d.Told log) (a : Except String (Option String)) :
    (d.step (.evaluated a)).Told (log ++ (d.answered (.evaluated a)).map (d.past.length, ·)) := by
  cases hc : d.current with
  | none => simpa [step, answered, hc] using h
  | some c =>
    cases hs : c.stage with
    | awaiting code | resolving job => simpa [step, answered, hc, hs] using h
    | evaluating job =>
      obtain ⟨before, -, launched⟩ := h.current c hc
      obtain ⟨found, rfl⟩ := launched job (by simp [hs, Stage.job?])
      have before : told d.past.length log = [.resolved (.ok ())] := by
        simpa [hs, Stage.answers] using before
      simp only [step, answered, hc, hs, Option.map_some]
      cases a with
      | error m | ok v =>
        refine h.finish [.evaluated _] h.sound ?_
        rw [before]
        exact .evaluated _ found hs rfl

theorem Told.quiet (h : d.Told log) (n : Nat) :
    d.Told (log ++ ([] : List Answer).map (n, ·)) := by
  rwa [List.map_nil, List.append_nil]

theorem Told.step (h : d.Told log) (e : Event) :
    (d.step e).Told (log ++ (d.answered e).map (d.past.length, ·)) := by
  cases e with
  | start code => exact (h.start code).quiet _
  | look =>
    refine Told.quiet ?_ _
    cases hc : d.current with
    | none => simpa [Desk.step, hc] using h
    | some c =>
      cases hs : c.stage with
      | awaiting code => simpa [Desk.step, hc, hs] using h.look hc (by simp [hs, Stage.job?])
      | resolving job | evaluating job => simpa [Desk.step, hc, hs] using h
  | request => exact (h.startup h.sound.request).quiet _
  | allowFinish => exact (h.startup h.sound.allowFinish).quiet _
  | load => exact (h.startup h.sound.work).quiet _
  | write b chunk => exact (h.write b chunk).quiet _
  | emit chunk =>
    refine Told.quiet ?_ _
    cases hb : d.workspace.sinks.installed? chunk.stream with
    | none => simpa [Desk.step, hb] using h
    | some b => simpa [Desk.step, hb] using h.write b chunk
  | resolved a => exact h.resolved a
  | evaluated a => exact h.evaluated a
  | cancel => exact h.cancel.quiet _
  | clear => exact (h.edit fun t => t.clear.2).quiet _
  | attach id control => exact (h.edit fun t => (t.attachControl id control).2).quiet _

theorem Told.run (h : d.Told log) (es : List Event) :
    (d.run es).Told (log ++ d.answers es) := by
  induction es generalizing d log with
  | nil => simpa [Desk.run, answers] using h
  | cons e es ih =>
    have rest := ih (h.step e)
    rw [List.append_assoc] at rest
    exact rest

/-- Whoever is answered anything but that the imports are resolved has ended with that. -/
theorem Told.ended (h : d.Told log) {n : Nat} {a : Answer} (ha : (n, a) ∈ log)
    (last : a ≠ .resolved (.ok ())) : n < d.past.length := by
  refine Nat.lt_of_not_le fun hn => ?_
  have heard : a ∈ told n log := mem_told.mpr ha
  cases hc : d.current with
  | none =>
    rw [h.later n (by simp [hc]; omega)] at heard
    simp at heard
  | some c =>
    obtain rfl | hn : n = d.past.length ∨ d.past.length + 1 ≤ n := by omega
    · rw [(h.current c hc).answered] at heard
      cases hs : c.stage <;> simp [hs, Stage.answers] at heard
      exact last heard
    · rw [h.later n (by simpa [hc] using hn)] at heard
      simp at heard

end Desk

end Workpad
