import Workpad.Proofs.Run.Capture

/-!
Output does not leak. What is written to a buffer that no run under way owns, be it left over from an
earlier run or written between two runs, makes no difference to any report.
-/
namespace Workpad

/-- Workspaces that differ at most in buffers other than `own`. -/
structure Workspace.Alike (own : Option Nat) (w w' : Workspace) : Prop where
  rest : w' = { w with sinks := w'.sinks }
  next : w'.sinks.next = w.sinks.next
  out : w'.sinks.out = w.sinks.out
  err : w'.sinks.err = w.sinks.err
  contents : ∀ b, own = some b → w'.sinks.contents b = w.sinks.contents b

namespace Workspace.Alike
variable {own : Option Nat} {w w' : Workspace}

theorem refl (own : Option Nat) (w : Workspace) : Alike own w w :=
  ⟨rfl, rfl, rfl, rfl, fun _ _ => rfl⟩

theorem map (h : Alike own w w') (f : Workspace → Workspace)
    (hf : ∀ (w : Workspace) (s : Sinks), f { w with sinks := s } = { f w with sinks := s }) :
    Alike own (f w) (f w') := by
  have sinks (w : Workspace) : (f w).sinks = w.sinks := by
    have hw : f w = { f w with sinks := w.sinks } := hf w w.sinks
    rw [hw]
  refine ⟨?_, ?_, ?_, ?_, ?_⟩
  · rw [sinks w', ← hf, ← h.rest]
  · rw [sinks, sinks, h.next]
  · rw [sinks, sinks, h.out]
  · rw [sinks, sinks, h.err]
  · rw [sinks, sinks]
    exact h.contents

theorem write (h : Alike own w w') {b : Nat} (hb : b < w.sinks.next) (chunk : Chunk) :
    Alike own (w.write b chunk) (w'.write b chunk) := by
  refine ⟨by rw [Workspace.write, Workspace.write, h.rest], ?_, h.out, h.err, fun b' ho => ?_⟩
  · simpa [Workspace.write] using h.next
  · by_cases he : b = b'
    · subst he
      simp only [Workspace.write]
      rw [Sinks.contents_write_self (h.next ▸ hb), Sinks.contents_write_self hb, h.contents b ho]
    · simp only [Workspace.write]
      rw [Sinks.contents_write_of_ne he, Sinks.contents_write_of_ne he, h.contents b' ho]

theorem stray (w : Workspace) {b : Nat} (hb : own ≠ some b) (chunk : Chunk) :
    Alike own w (w.write b chunk) := by
  refine ⟨rfl, by simp [Workspace.write], rfl, rfl, fun b' ho => ?_⟩
  have he : b ≠ b' := by
    rintro rfl
    exact hb ho
  simp only [Workspace.write]
  rw [Sinks.contents_write_of_ne he]

/-- A run makes its buffer alike, and owns it from then on. -/
theorem launch (h : Alike own w w') (code : String) :
    (w'.launch code).1 = (w.launch code).1 ∧
      Alike (some (w.launch code).1.buffer) (w.launch code).2 (w'.launch code).2 := by
  obtain ⟨startup, plotter, sinks, calls, transcript⟩ := w
  obtain ⟨rest, next, out, err, -⟩ := h
  rw [rest]
  generalize w'.sinks = sinks' at next ⊢
  simp only at next
  simp only [Workspace.launch, Workspace.capture, next]
  refine ⟨trivial, rfl, by simp [Workspace.install, Workspace.call, next], rfl, rfl, ?_⟩
  intro b hb
  obtain rfl := Option.some.inj hb
  have hs := Sinks.contents_add sinks
  have hs' := Sinks.contents_add sinks'
  rw [next] at hs'
  simp [Workspace.install, Workspace.call, hs, hs']

theorem conclude {job : Job} (h : Alike (some job.buffer) w w') (outcome : Outcome) :
    (w'.conclude job outcome).1 = (w.conclude job outcome).1 ∧
      Alike none (w.conclude job outcome).2 (w'.conclude job outcome).2 := by
  have hc := h.contents job.buffer rfl
  obtain ⟨rest, next, out, err, -⟩ := h
  rw [rest]
  simp only [Workspace.conclude, hc]
  exact ⟨trivial, rfl, by simpa using next, out, err, by simp⟩

end Workspace.Alike

def Progress.buffer? : Progress → Option Nat
  | .suspended stage => stage.job?.map Job.buffer
  | .finished _ => none

namespace Workspace
variable {own : Option Nat} {w w' : Workspace}

theorem proceed_alike (h : Alike own w w') (code : String) :
    (w'.proceed code).1 = (w.proceed code).1 ∧
      Alike (w.proceed code).1.buffer? (w.proceed code).2 (w'.proceed code).2 := by
  have none {own : Option Nat} (h : Alike own w w') : Alike none w w' :=
    ⟨h.rest, h.next, h.out, h.err, by simp⟩
  have hs : w'.startup = w.startup := by rw [h.rest]
  rw [proceed, proceed, hs]
  cases w.startup.settled? with
  | none => exact ⟨rfl, none h⟩
  | some status =>
    simp only
    split
    · exact ⟨rfl, none h⟩
    · split
      · exact ⟨rfl, none h⟩
      · obtain ⟨hj, hl⟩ := h.launch code
        exact ⟨by rw [hj], hl⟩

theorem resolved_alike {job : Job} (h : Alike (some job.buffer) w w') (a : Except String Unit) :
    (w'.resolved job a).1 = (w.resolved job a).1 ∧
      Alike (w.resolved job a).1.buffer? (w.resolved job a).2 (w'.resolved job a).2 := by
  cases a with
  | error m => exact h.conclude _
  | ok _ => exact ⟨rfl, h.map (·.call (.evaluate job.prepared.code)) fun _ _ => rfl⟩

theorem evaluated_alike {job : Job} (h : Alike (some job.buffer) w w')
    (a : Except String (Option String)) :
    (w'.evaluated job a).1 = (w.evaluated job a).1 ∧
      Alike (w.evaluated job a).1.buffer? (w.evaluated job a).2 (w'.evaluated job a).2 := by
  cases a <;> exact h.conclude _

end Workspace

namespace Desk
variable {d d' : Desk}

/-- Desks at which a run has come equally far and the same was reported, and that else differ at most
in buffers that no run under way owns. -/
structure Alike (d d' : Desk) : Prop where
  workspace : Workspace.Alike d.own? d.workspace d'.workspace
  current : d'.current.map (fun c => (c.code, c.stage)) = d.current.map fun c => (c.code, c.stage)
  reports : d'.past.map Record.report = d.past.map Record.report

theorem Alike.refl (d : Desk) : Alike d d := ⟨.refl _ _, rfl, rfl⟩

theorem Alike.idle (h : Alike d d') (hc : d.current = none) : d'.current = none := by
  have h := h.current
  rw [hc] at h
  exact Option.map_eq_none_iff.mp h

theorem Alike.busy (h : Alike d d') {c : Course} (hc : d.current = some c) :
    ∃ c', d'.current = some c' ∧ c'.code = c.code ∧ c'.stage = c.stage := by
  have h := h.current
  rw [hc] at h
  obtain ⟨c', hc', heq⟩ := Option.map_eq_some_iff.mp h
  exact ⟨c', hc', congrArg Prod.fst heq, congrArg Prod.snd heq⟩

theorem Alike.note (h : Alike d d') {c c' : Course} (hc : c'.code = c.code)
    {x x' : Progress × Workspace}
    (hx : x'.1 = x.1 ∧ Workspace.Alike x.1.buffer? x.2 x'.2) :
    Alike (d.note c x) (d'.note c' x') := by
  obtain ⟨p, w⟩ := x
  obtain ⟨p', w'⟩ := x'
  obtain ⟨hp, hw⟩ := hx
  have hp : p' = p := hp
  subst hp
  cases p' with
  | suspended stage => exact ⟨hw, by simp [Desk.note, hc], h.reports⟩
  | finished report => exact ⟨hw, rfl, by simp [Desk.note, h.reports]⟩

theorem Alike.map (h : Alike d d') (f : Workspace → Workspace)
    (hf : ∀ (w : Workspace) (s : Sinks), f { w with sinks := s } = { f w with sinks := s }) :
    Alike { d with workspace := f d.workspace } { d' with workspace := f d'.workspace } :=
  ⟨h.workspace.map f hf, h.current, h.reports⟩

theorem Alike.write (h : Alike d d') (b : Nat) (chunk : Chunk) :
    Alike (d.write b chunk) (d'.write b chunk) := by
  by_cases hb : b < d.workspace.sinks.next
  · have hb' : b < d'.workspace.sinks.next := h.workspace.next ▸ hb
    rw [Desk.write, if_pos hb, Desk.write, if_pos hb']
    have hw := h.workspace.write hb chunk
    cases hc : d.current with
    | none => exact ⟨by simpa [own?, hc] using hw, by simp [h.idle hc], h.reports⟩
    | some c =>
      obtain ⟨c', hc', hcode, hstage⟩ := h.busy hc
      exact ⟨by simpa [own?, hc] using hw, by simp [hc', hcode, hstage], h.reports⟩
  · have hb' : ¬b < d'.workspace.sinks.next := h.workspace.next ▸ hb
    rwa [Desk.write, if_neg hb, Desk.write, if_neg hb']

theorem Alike.look (h : Alike d d') {c c' : Course} (hc : c'.code = c.code) :
    Alike (d.look c) (d'.look c') := by
  rw [Desk.look, Desk.look, hc]
  refine h.note ?_ (Workspace.proceed_alike h.workspace c.code)
  rfl

theorem Alike.edit (h : Alike d d') (f : Transcript → Transcript) :
    Alike (d.edit f) (d'.edit f) := by
  cases hc : d.current with
  | some c =>
    obtain ⟨c', hc', -, -⟩ := h.busy hc
    simpa [Desk.edit, hc, hc'] using h
  | none =>
    have ht : d'.workspace.transcript = d.workspace.transcript := by rw [h.workspace.rest]
    simp only [Desk.edit, hc, h.idle hc, ht]
    have hm := h.map (fun w => { w with transcript := f d.workspace.transcript }) fun _ _ => rfl
    rwa [hc, h.idle hc] at hm

theorem Alike.step (h : Alike d d') (e : Event) : Alike (d.step e) (d'.step e) := by
  cases e with
  | start code =>
    cases hc : d.current with
    | some c =>
      obtain ⟨c', hc', -, -⟩ := h.busy hc
      simpa [Desk.step, start, hc, hc'] using h
    | none =>
      simp only [Desk.step, start, hc, h.idle hc]
      have hm := h.map Workspace.request fun _ _ => rfl
      rw [hc, h.idle hc] at hm
      exact hm.look rfl
  | look =>
    cases hc : d.current with
    | none => simpa [Desk.step, hc, h.idle hc] using h
    | some c =>
      obtain ⟨c', hc', hcode, hstage⟩ := h.busy hc
      cases hs : c.stage with
      | awaiting code => simpa [Desk.step, hc, hc', hstage, hs] using h.look hcode
      | resolving job | evaluating job => simpa [Desk.step, hc, hc', hstage, hs] using h
  | request => exact h.map Workspace.request fun _ _ => rfl
  | allowFinish => exact h.map Workspace.allowFinish fun _ _ => rfl
  | load => exact h.map Workspace.load fun _ _ => rfl
  | write b chunk => exact h.write b chunk
  | emit chunk =>
    have hi : d'.workspace.sinks.installed? chunk.stream =
        d.workspace.sinks.installed? chunk.stream := by
      cases chunk.stream
      · exact h.workspace.out
      · exact h.workspace.err
    cases hb : d.workspace.sinks.installed? chunk.stream with
    | none => simpa [Desk.step, hi, hb] using h
    | some b => simpa [Desk.step, hi, hb] using h.write b chunk
  | resolved answer =>
    cases hc : d.current with
    | none => simpa [Desk.step, hc, h.idle hc] using h
    | some c =>
      obtain ⟨c', hc', hcode, hstage⟩ := h.busy hc
      cases hs : c.stage with
      | resolving job =>
        have hw := h.workspace
        simp only [own?, hc, Option.bind_some, Course.buffer?, hs, Stage.job?, Option.map_some] at hw
        simpa [Desk.step, hc, hc', hstage, hs] using h.note hcode (Workspace.resolved_alike hw answer)
      | awaiting code | evaluating job => simpa [Desk.step, hc, hc', hstage, hs] using h
  | evaluated answer =>
    cases hc : d.current with
    | none => simpa [Desk.step, hc, h.idle hc] using h
    | some c =>
      obtain ⟨c', hc', hcode, hstage⟩ := h.busy hc
      cases hs : c.stage with
      | evaluating job =>
        have hw := h.workspace
        simp only [own?, hc, Option.bind_some, Course.buffer?, hs, Stage.job?, Option.map_some] at hw
        simpa [Desk.step, hc, hc', hstage, hs] using h.note hcode (Workspace.evaluated_alike hw answer)
      | awaiting code | resolving job => simpa [Desk.step, hc, hc', hstage, hs] using h
  | cancel =>
    cases hc : d.current with
    | none => simpa [Desk.step, Desk.cancel, hc, h.idle hc] using h
    | some c =>
      obtain ⟨c', hc', -, hstage⟩ := h.busy hc
      have hw := h.workspace.map (·.cancel c.stage) fun w s => by cases c.stage <;> rfl
      simp only [Desk.step, Desk.cancel, hc, hc', hstage]
      exact ⟨⟨hw.rest, hw.next, hw.out, hw.err, by simp [own?]⟩, rfl, by simp [h.reports]⟩
  | clear => exact h.edit fun t => t.clear.2
  | attach id control => exact h.edit fun t => (t.attachControl id control).2

theorem Alike.run (h : Alike d d') (es : List Event) : Alike (d.run es) (d'.run es) := by
  induction es generalizing d d' with
  | nil => exact h
  | cons e es ih => exact ih (h.step e)

def IsStray (d : Desk) (e : Event) : Prop := ∃ x, d.written? e = some x ∧ d.own? ≠ some x.1

theorem alike_stray {e : Event} (h : d.IsStray e) : Alike d (d.step e) := by
  obtain ⟨x, hx, ho⟩ := h
  rw [step_of_written hx, Desk.write]
  split
  · exact ⟨Workspace.Alike.stray _ ho x.2, by simp [Function.comp_def], rfl⟩
  · exact .refl d

/-- However runs go on a workspace: the output that a run reports is what was written to its own
buffer while it was under way, chunk by chunk in the order of writing, first what its imports and then
what its evaluation wrote. Its own buffer is one that it has made itself and installed for both
streams, no other run has the same, and it stays installed until the run ends. A write to any other
buffer, of an earlier run or between two runs, makes no difference to what any run reports. -/
theorem capture_is_exact (w : Workspace) (es : List Event) :
    let start : Desk := { workspace := w }
    let d := start.run es
    (∀ r ∈ d.past, ∀ report, r.report = some report →
        report.output = r.course.own (start.catches es) ∧
          report.output = r.course.own r.course.resolving ++ r.course.own r.course.evaluating) ∧
      (∀ r ∈ d.past, r.after.calls = r.course.before.calls ++ r.course.stage.calls ∧
        ∀ b, r.course.buffer? = some b → b = r.course.before.sinks.next) ∧
      d.buffers.Pairwise (· < ·) ∧
      (∀ b, d.own? = some b → ∀ stream, d.workspace.sinks.installed? stream = some b) ∧
      ∀ es₁ e es₂, es = es₁ ++ e :: es₂ → (start.run es₁).IsStray e →
        d.past.map Record.report = (start.run (es₁ ++ es₂)).past.map Record.report := by
  intro start d
  have handed : d.Handed := handed_run w es
  have capturing : d.Capturing := capturing_run w es
  refine ⟨fun r hr report hrep => ⟨?_, capturing.outputs r hr report hrep⟩,
    fun r hr => ⟨handed.past r hr, capturing.made r hr⟩, capturing.apart, ?_, ?_⟩
  · have ho : d.outputs = start.catches es := outputs_run (capturing_new w) es
    have hm : r.course ∈ d.courses := List.mem_append_left _ (List.mem_map_of_mem hr)
    rw [← ho, outputs, Course.own_flatMap_tagged hm capturing.apart]
    exact capturing.outputs r hr report hrep
  · intro b hb stream
    obtain ⟨c, hc, ho⟩ := Option.bind_eq_some_iff.mp hb
    obtain ⟨-, -, out, err, -⟩ := (capturing.current c hc).owns b ho
    cases stream with
    | out => exact out
    | err => exact err
  · intro es₁ e es₂ hes hstray
    have hd : d = ((start.run es₁).step e).run es₂ := by
      rw [show d = start.run (es₁ ++ e :: es₂) from hes ▸ rfl, run_append]
      rfl
    rw [hd, run_append]
    exact ((alike_stray hstray).run es₂).reports

/-- A run reports while a cancelled run's buffer is still written to. -/
theorem capture_is_exact_leftover :
    let w : Workspace :=
      { startup := { location := "", loader := fun _ => .ready }
        plotter := .ofSettings {} .numbered }
    let start : Desk := { workspace := w }
    let es₁ : List Event :=
      [.start "a", .load, .load, .load, .load, .look, .cancel, .start "b", .emit ⟨.out, "x"⟩]
    let late : Event := .write 0 ⟨.out, "late"⟩
    let es₂ : List Event := [.resolved (.ok ()), .emit ⟨.err, "y"⟩, .evaluated (.ok (some "2"))]
    let d := start.run (es₁ ++ late :: es₂)
    let output : List Chunk := [⟨.out, "x"⟩, ⟨.err, "y"⟩]
    (start.run es₁).IsStray late ∧ d.past.map (·.report.map Report.output) = [none, some output] ∧
      (∃ r ∈ d.past, r.course.own (start.catches (es₁ ++ late :: es₂)) = output) ∧
      d.past.map Record.report = (start.run (es₁ ++ es₂)).past.map Record.report := by
  intro w start es₁ late es₂ d output
  have stray : (start.run es₁).IsStray late := ⟨(0, ⟨.out, "late"⟩), rfl, by decide⟩
  have outputs : d.past.map (·.report.map Report.output) = [none, some output] := by decide +kernel
  obtain ⟨own, -, -, -, unmoved⟩ := capture_is_exact w (es₁ ++ late :: es₂)
  refine ⟨stray, outputs, ?_, unmoved es₁ late es₂ rfl stray⟩
  have there : some output ∈ d.past.map (·.report.map Report.output) := by simp [outputs]
  obtain ⟨r, hr, said⟩ := List.mem_map.mp there
  obtain ⟨report, reported, same⟩ := Option.map_eq_some_iff.mp said
  exact ⟨r, hr, (own r hr report reported).1.symm.trans same⟩

end Desk

end Workpad
