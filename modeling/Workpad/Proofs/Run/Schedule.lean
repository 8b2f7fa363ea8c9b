import Workpad.Proofs.Run.Moves

/-!
A run for an interpreter whose replies are known is one of the ways in which runs can go at a desk.
-/
namespace Workpad

theorem Workspace.awaiting_proceed {w : Workspace} {code code' : String}
    (h : (w.proceed code).1 = .suspended (.awaiting code')) : code = code' := by
  cases hq : w.startup.settled? with
  | none => simpa [proceed, hq] using h
  | some status =>
    have hl := isLaunched_proceed hq h
    simp [Stage.isLaunched] at hl

namespace Desk
variable {i : Interpreter} {d : Desk} {past : List (Option Report)} {w : Workspace}

/-- The desk stands where a run has come to, after runs with the reports `past`. -/
def IsAt (past : List (Option Report)) (d : Desk) : Progress × Workspace → Prop
  | (.suspended stage, w) => d.workspace = w ∧ d.past.map Record.report = past ∧
    ∃ c, d.current = some c ∧ c.stage = stage ∧ ∀ code, stage = .awaiting code → c.code = code
  | (.finished report, w) =>
    d.workspace = w ∧ d.past.map Record.report = past ++ [some report] ∧ d.current = none

theorem isAt_note (hp : d.past.map Record.report = past) {c : Course} {x : Progress × Workspace}
    (hc : ∀ code, x.1 = .suspended (.awaiting code) → c.code = code) : IsAt past (d.note c x) x := by
  obtain ⟨stage | report, v⟩ := x
  · exact ⟨rfl, hp, _, rfl, rfl, fun code hs => hc code (hs ▸ rfl)⟩
  · exact ⟨rfl, by simp [note, hp], rfl⟩

theorem isAt_emit {stage : Stage} (h : d.IsAt past (.suspended stage, w)) (chunk : Chunk) :
    (d.step (.emit chunk)).IsAt past (.suspended stage, w.writeInstalled chunk) := by
  obtain ⟨rfl, hp, c, hc, hs, hcode⟩ := h
  cases hb : d.workspace.sinks.installed? chunk.stream with
  | none => exact ⟨by simp [step, Workspace.writeInstalled, hb], by simpa [step, hb] using hp, c,
      by simpa [step, hb] using hc, hs, hcode⟩
  | some b =>
    simp only [step, Workspace.writeInstalled, hb, Desk.write]
    by_cases hn : b < d.workspace.sinks.next
    · rw [if_pos hn]
      exact ⟨rfl, hp, c.hear b chunk, by simp [hc], by simpa using hs, by simpa using hcode⟩
    · have hw : d.workspace.write b chunk = d.workspace := by
        have hl : d.workspace.sinks.buffers.length ≤ b := Nat.le_of_not_lt hn
        simp [Workspace.write, Sinks.write, List.modify_eq_self hl]
      rw [if_neg hn, hw]
      exact ⟨rfl, hp, c, hc, hs, hcode⟩

theorem isAt_emits {stage : Stage} (h : d.IsAt past (.suspended stage, w)) (cs : List Chunk) :
    (d.run (cs.map .emit)).IsAt past (.suspended stage, w.writeAll cs) := by
  induction cs generalizing d w with
  | nil => exact h
  | cons chunk cs ih => exact ih (isAt_emit h chunk)

theorem exists_hear (i : Interpreter) {x : Progress × Workspace} (h : d.IsAt past x) :
    ∃ es, (d.run es).IsAt past (Workspace.hear i x) := by
  rcases x with ⟨⟨code | job | job⟩ | report, w⟩
  · exact ⟨[], h⟩
  · exact ⟨_, isAt_emits h (w.resolution i job).output⟩
  · exact ⟨_, isAt_emits h (w.evaluation i job).output⟩
  · exact ⟨[], h⟩

/-- Each step that a run takes, it can take at a desk. -/
theorem exists_advance (i : Interpreter) {stage : Stage} (h : d.IsAt past (.suspended stage, w)) :
    ∃ es, (d.run es).IsAt past (w.advance i stage) := by
  obtain ⟨rfl, hp, c, hc, hs, hcode⟩ := h
  have event {e : Event} {x : Progress × Workspace} (he : (d.step e).IsAt past x) :
      ∃ es, (d.run es).IsAt past (Workspace.hear i x) := by
    obtain ⟨es, hes⟩ := exists_hear i he
    exact ⟨e :: es, hes⟩
  have stay : d.IsAt past (.suspended stage, d.workspace) := ⟨rfl, hp, c, hc, hs, hcode⟩
  cases stage with
  | awaiting code =>
    refine event (e := .look) ?_
    have hl : d.step .look = d.look c := by simp [step, hc, hs]
    rw [hl, look, hcode code rfl]
    exact isAt_note hp fun code' hx => Workspace.awaiting_proceed hx
  | resolving job =>
    cases ha : (d.workspace.resolution i job).answer with
    | none =>
      simp only [Workspace.advance, ha]
      exact ⟨[], stay⟩
    | some a =>
      simp only [Workspace.advance, ha]
      refine event (e := .resolved a) ?_
      have hr : d.step (.resolved a) = d.note c (d.workspace.resolved job a) := by
        simp [step, hc, hs]
      rw [hr]
      exact isAt_note hp fun code hx => by
        cases a <;> simp [Workspace.resolved, Workspace.conclude] at hx
  | evaluating job =>
    cases ha : (d.workspace.evaluation i job).answer with
    | none =>
      simp only [Workspace.advance, ha]
      exact ⟨[], stay⟩
    | some a =>
      simp only [Workspace.advance, ha]
      have hr : d.step (.evaluated a) = d.note c (d.workspace.evaluated job a) := by
        simp [step, hc, hs]
      refine ⟨[.evaluated a], ?_⟩
      change (d.step (.evaluated a)).IsAt past _
      rw [hr]
      exact isAt_note hp fun code hx => by
        cases a <;> simp [Workspace.evaluated, Workspace.conclude] at hx

theorem exists_further (i : Interpreter) {x : Progress × Workspace} (h : d.IsAt past x) :
    ∃ es, (d.run es).IsAt past (Workspace.further i x) := by
  obtain ⟨stage | report, w⟩ := x
  · exact exists_advance i h
  · exact ⟨[], h⟩

/-- A run is begun and waits for the load, or finds that it has come to its end before. -/
theorem exists_start (i : Interpreter) (idle : d.current = none) (h : d.workspace.startup.Sound)
    (code : String) : ∃ es, (d.run es).IsAt (d.past.map Record.report)
      (d.workspace.request.runTasks.advance i (.awaiting code)) := by
  have hn : (d.step (.start code)).IsAt (d.past.map Record.report)
      (d.workspace.request.proceed code) := by
    simp only [step, start, idle, look]
    exact isAt_note rfl fun code' hx => Workspace.awaiting_proceed hx
  cases hq : d.workspace.request.startup.settled? with
  | none =>
    have hp : d.workspace.request.proceed code =
        (.suspended (.awaiting code), d.workspace.request) := by
      simp [Workspace.proceed, hq]
    rw [hp] at hn
    obtain ⟨hw, hpast, hc⟩ := hn
    have hl : (d.run [.start code, .load, .load, .load, .load]).IsAt (d.past.map Record.report)
        (.suspended (.awaiting code), d.workspace.request.runTasks) :=
      ⟨by rw [← hw]; rfl, hpast, hc⟩
    obtain ⟨es, hes⟩ := exists_advance i hl
    exact ⟨_, by rwa [run_append]⟩
  | some status =>
    have hs : d.workspace.request.startup.runTasks = d.workspace.request.startup :=
      Startup.runTasks_of_settled h.request hq
    obtain ⟨es, hes⟩ := exists_hear i hn
    rw [Workspace.runTasks, hs]
    exact ⟨.start code :: es, hes⟩

/-- Running code to its end, or giving it up where it gets stuck, is one way in which a run can go. -/
theorem exists_runOrCancel (i : Interpreter) (idle : d.current = none)
    (h : d.workspace.startup.Sound) (code : String) :
    ∃ es, (d.run es).workspace = (d.workspace.runOrCancel i code).2 ∧ (d.run es).current = none ∧
      (d.run es).past.map Record.report =
        d.past.map Record.report ++ [(d.workspace.runOrCancel i code).1] := by
  obtain ⟨es₁, h₁⟩ := exists_start i idle h code
  obtain ⟨es₂, h₂⟩ := exists_further i h₁
  obtain ⟨es₃, h₃⟩ := exists_further i h₂
  rw [← run_append, ← run_append] at h₃
  have hr : Workspace.further i (Workspace.further i (d.workspace.request.runTasks.advance i
      (.awaiting code))) = d.workspace.run i code := rfl
  rw [hr] at h₃
  rw [Workspace.runOrCancel]
  generalize d.workspace.run i code = x at h₃ ⊢
  obtain ⟨stage | report, v⟩ := x
  · obtain ⟨hw, hp, c, hc, hs, -⟩ := h₃
    refine ⟨es₁ ++ (es₂ ++ es₃) ++ [.cancel], ?_⟩
    rw [run_append]
    generalize d.run (es₁ ++ (es₂ ++ es₃)) = d' at hw hp hc ⊢
    have hcancel : d'.run [.cancel] = { d' with
        workspace := d'.workspace.cancel c.stage
        current := none
        past := d'.past ++ [⟨c, d'.workspace.cancel c.stage, none⟩] } := by
      simp [run, step, cancel, hc]
    rw [hcancel, hw, hs]
    exact ⟨rfl, rfl, by simp [hp]⟩
  · obtain ⟨hw, hp, hc⟩ := h₃
    exact ⟨_, hw, hc, hp⟩

end Desk

end Workpad
