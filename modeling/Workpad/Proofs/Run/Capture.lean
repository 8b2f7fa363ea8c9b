import Workpad.Proofs.Named
import Workpad.Proofs.Run.Moves

/-!
Capturing output. Each run makes a buffer of its own and installs it for both streams; what is in it
when the run ends is what was written to it since, and it is the output that the run reports.
-/
namespace Workpad

namespace Sinks
variable {s : Sinks} {b b' : Nat}

@[simp] theorem next_install (s : Sinks) (b : Nat) (stream : Stream) :
    (s.install b stream).next = s.next := by
  cases stream <;> rfl

@[simp] theorem next_add (s : Sinks) : s.add.next = s.next + 1 := by
  simp [add, next]

@[simp] theorem next_write (s : Sinks) (b : Nat) (chunk : Chunk) :
    (s.write b chunk).next = s.next := by
  simp [write, next]

@[simp] theorem next_drain (s : Sinks) (b : Nat) : (s.drain b).next = s.next := by
  simp [drain, next]

@[simp] theorem contents_install (s : Sinks) (b b' : Nat) (stream : Stream) :
    (s.install b stream).contents b' = s.contents b' := by
  cases stream <;> rfl

theorem contents_add (s : Sinks) : s.add.contents s.next = [] := by
  simp [add, next, contents]

theorem contents_write_self (hb : b < s.next) (chunk : Chunk) :
    (s.write b chunk).contents b = s.contents b ++ [chunk] := by
  have hb : b < s.buffers.length := hb
  simp [write, contents, hb]

theorem contents_write_of_ne (h : b' ≠ b) (chunk : Chunk) :
    (s.write b' chunk).contents b = s.contents b := by
  simp [write, contents, h]

end Sinks

namespace Course

def own (c : Course) (log : List (Nat × Chunk)) : List Chunk :=
  log.filterMap fun x => if c.buffer? = some x.1 then some x.2 else none

def output (c : Course) : List Chunk := c.own c.resolving ++ c.own c.evaluating

structure Owns (c : Course) (s : Sinks) (b : Nat) : Prop where
  made : b = c.before.sinks.next
  last : s.next = b + 1
  out : s.out = some b
  err : s.err = some b
  contents : s.contents b = c.output

structure Captures (c : Course) (s : Sinks) : Prop where
  quiet : c.stage.job? = none → s.next = c.before.sinks.next ∧ c.resolving = []
  unevaluated : (∀ job, c.stage ≠ .evaluating job) → c.evaluating = []
  owns : ∀ b, c.buffer? = some b → c.Owns s b

variable {c : Course} {s : Sinks} {b : Nat}

@[simp] theorem buffer?_hear (c : Course) (b : Nat) (chunk : Chunk) :
    (c.hear b chunk).buffer? = c.buffer? := by
  simp [buffer?]

@[simp] theorem own_nil (c : Course) : c.own [] = [] := rfl

theorem own_append (c : Course) (log : List (Nat × Chunk)) (b : Nat) (chunk : Chunk) :
    c.own (log ++ [(b, chunk)]) = c.own log ++ if c.buffer? = some b then [chunk] else [] := by
  rw [own, own, List.filterMap_append]
  split <;> simp [*]

theorem output_hear (h : c.Captures s) (b : Nat) (chunk : Chunk) :
    (c.hear b chunk).output = c.output ++ if c.buffer? = some b then [chunk] else [] := by
  have own_hear (log : List (Nat × Chunk)) : (c.hear b chunk).own log = c.own log := by simp [own]
  rw [output, output, own_hear, own_hear]
  cases hs : c.stage with
  | awaiting code => simp [hear, buffer?, hs, Stage.job?]
  | resolving job =>
    have he : c.evaluating = [] := h.unevaluated (by simp [hs])
    simp [hear, hs, own_append, he]
  | evaluating job => simp [hear, hs, own_append]

theorem Captures.write (h : c.Captures s) (b : Nat) (chunk : Chunk) :
    (c.hear b chunk).Captures (s.write b chunk) := by
  refine ⟨fun hj => ?_, fun hs => ?_, fun own ho => ?_⟩
  · rw [hear_stage] at hj
    obtain ⟨hn, hr⟩ := h.quiet hj
    refine ⟨by simpa using hn, ?_⟩
    cases hs : c.stage with
    | awaiting code => simpa [hear, hs] using hr
    | resolving job | evaluating job => simp [hs, Stage.job?] at hj
  · rw [hear_stage] at hs
    have he := h.unevaluated hs
    cases ht : c.stage with
    | awaiting code | resolving job => simpa [hear, ht] using he
    | evaluating job => exact (hs job ht).elim
  · rw [buffer?_hear] at ho
    obtain ⟨made, last, out, err, contents⟩ := h.owns own ho
    refine ⟨by simpa using made, by simpa using last, out, err, ?_⟩
    rw [output_hear h, ho]
    by_cases hb : b = own
    · subst hb
      have hn : b < s.next := by omega
      simp [Sinks.contents_write_self hn, contents]
    · simp [Sinks.contents_write_of_ne hb, contents, Ne.symm hb]

/-- A new buffer, installed for both streams, is the run's own. -/
theorem Captures.launch (h : c.Captures s) (hj : c.stage.job? = none) {c' : Course} {job : Job}
    (hb : job.buffer = s.next) (hc : c' = { c with found := c'.found, stage := .resolving job }) :
    c'.Captures ((s.add.install s.next .out).install s.next .err) := by
  obtain ⟨hn, hr⟩ := h.quiet hj
  have he : c.evaluating = [] := h.unevaluated fun job' hs => by simp [hs, Stage.job?] at hj
  rw [hc]
  refine ⟨by simp [Stage.job?], fun _ => he, fun b ho => ?_⟩
  simp only [buffer?, Stage.job?, Option.map_some, Option.some.injEq] at ho
  subst ho
  refine ⟨by rw [hb, hn], by simp [hb], by rw [hb]; rfl, by rw [hb]; rfl, ?_⟩
  simp [hb, Sinks.contents_add, output, hr, he]

def tagged (c : Course) : List (Nat × Chunk) :=
  match c.buffer? with
  | some b => c.output.map fun chunk => (b, chunk)
  | none => []

theorem own_map (c : Course) (b : Nat) (chunks : List Chunk) :
    c.own (chunks.map (b, ·)) = if c.buffer? = some b then chunks else [] :=
  filterMap_named (c.buffer? = some ·) b chunks

theorem own_tagged (c : Course) : c.own c.tagged = c.output := by
  cases hb : c.buffer? with
  | none =>
    have silent (log : List (Nat × Chunk)) : c.own log = [] := by simp [own, hb]
    rw [output, silent, silent, silent, List.append_nil]
  | some b => rw [tagged, hb, own_map, if_pos hb]

theorem own_tagged_of_ne {c c' : Course} (h : ∀ b, c.buffer? = some b → c'.buffer? ≠ some b) :
    c.own c'.tagged = [] := by
  cases hb : c'.buffer? with
  | none => rw [tagged, hb, own_nil]
  | some b => rw [tagged, hb, own_map, if_neg fun hc => h b hc hb]

theorem own_flatMap_tagged_of_ne {c : Course} {cs : List Course}
    (h : ∀ c' ∈ cs, ∀ b, c.buffer? = some b → c'.buffer? ≠ some b) :
    c.own (cs.flatMap tagged) = [] := by
  induction cs with
  | nil => rfl
  | cons c' cs ih =>
    obtain ⟨hc, hcs⟩ := List.forall_mem_cons.mp h
    rw [List.flatMap_cons, own, List.filterMap_append]
    change c.own c'.tagged ++ c.own (cs.flatMap tagged) = []
    rw [own_tagged_of_ne hc, ih hcs, List.append_nil]

/-- Runs that have made different buffers share no output. -/
theorem own_flatMap_tagged {c : Course} {cs : List Course} (hc : c ∈ cs)
    (apart : (cs.filterMap buffer?).Pairwise (· < ·)) : c.own (cs.flatMap tagged) = c.output := by
  induction cs with
  | nil => simp at hc
  | cons c' cs ih =>
    rw [List.flatMap_cons, own, List.filterMap_append]
    change c.own c'.tagged ++ c.own (cs.flatMap tagged) = c.output
    have first (b : Nat) (hb : c'.buffer? = some b) : ∀ c'' ∈ cs, c''.buffer? ≠ some b := by
      intro c'' hm hb'
      rw [List.filterMap_cons, hb] at apart
      have hlt := (List.pairwise_cons.mp apart).1 b (List.mem_filterMap.mpr ⟨c'', hm, hb'⟩)
      exact Nat.lt_irrefl _ hlt
    have rest : (cs.filterMap buffer?).Pairwise (· < ·) :=
      apart.sublist ((List.sublist_cons_self c' cs).filterMap _)
    obtain rfl | hm := List.mem_cons.mp hc
    · rw [own_tagged, own_flatMap_tagged_of_ne fun c'' hm b hb => first b hb c'' hm,
        List.append_nil]
    · rw [own_tagged_of_ne fun b hb hb' => first b hb' c hm hb, ih hm rest, List.nil_append]

end Course

namespace Desk
variable {d d' : Desk}

def courses (d : Desk) : List Course := d.past.map Record.course ++ d.current.toList

def buffers (d : Desk) : List Nat := d.courses.filterMap Course.buffer?

structure Capturing (d : Desk) : Prop where
  current : ∀ c, d.current = some c → c.Captures d.workspace.sinks
  outputs : ∀ r ∈ d.past, ∀ report, r.report = some report → report.output = r.course.output
  made : ∀ r ∈ d.past, ∀ b, r.course.buffer? = some b → b = r.course.before.sinks.next
  apart : d.buffers.Pairwise (· < ·)
  bound : ∀ b ∈ d.buffers, b < d.workspace.sinks.next

theorem capturing_new (w : Workspace) : Capturing { workspace := w } := by
  constructor <;> simp [buffers, courses]

theorem Capturing.finish (h : d.Capturing) {c c' : Course} (hc : d.current = some c)
    (hb : c'.buffer? = c.buffer?) (hf : c'.before = c.before) {w w' : Workspace}
    (hw : w.sinks.next = d.workspace.sinks.next) {report : Option Report}
    (hr : ∀ rep, report = some rep → rep.output = c'.output) :
    Capturing { workspace := w, past := d.past ++ [⟨c', w', report⟩] } := by
  have hbs : buffers { workspace := w, past := d.past ++ [⟨c', w', report⟩] } = d.buffers := by
    simp [buffers, courses, hc, List.filterMap_cons, hb]
  have made : ∀ b, c'.buffer? = some b → b = c'.before.sinks.next := by
    rw [hb, hf]
    exact fun b hbuf => ((h.current c hc).owns b hbuf).made
  refine ⟨by simp, ?_, ?_, by rw [hbs]; exact h.apart, by rw [hbs, hw]; exact h.bound⟩
  · exact List.forall_mem_append.mpr ⟨h.outputs, List.forall_mem_singleton.mpr hr⟩
  · exact List.forall_mem_append.mpr ⟨h.made, List.forall_mem_singleton.mpr made⟩

theorem Capturing.goOn (h : d.Capturing) {c c' : Course} (hc : d.current = some c)
    (hb : c'.buffer? = c.buffer?) {w : Workspace}
    (hw : w.sinks.next = d.workspace.sinks.next) (hs : c'.Captures w.sinks) :
    Capturing { d with workspace := w, current := some c' } := by
  have hbs : buffers { d with workspace := w, current := some c' } = d.buffers := by
    simp [buffers, courses, hc, List.filterMap_cons, hb]
  refine ⟨?_, h.outputs, h.made, by rw [hbs]; exact h.apart, by rw [hbs, hw]; exact h.bound⟩
  rintro _ ⟨⟩
  exact hs

/-- A run whose code goes to the interpreter makes the next buffer. -/
theorem Capturing.launch (h : d.Capturing) {c : Course} (current : d.current = some c)
    (waiting : c.stage.job? = none) :
    Capturing { d with
      workspace := (d.workspace.launch c.code).2
      current := some { c with
        found := some .ready, stage := .resolving (d.workspace.launch c.code).1 } } := by
  have hold : d.buffers = (d.past.map Record.course).filterMap Course.buffer? := by
    simp [buffers, courses, current, Course.buffer?, waiting]
  have hnew : buffers { d with
      workspace := (d.workspace.launch c.code).2
      current := some { c with
        found := some .ready, stage := .resolving (d.workspace.launch c.code).1 } } =
        d.buffers ++ [d.workspace.sinks.next] := by
    rw [hold]
    simp [buffers, courses, Course.buffer?, Stage.job?, Workspace.launch, Workspace.capture]
  have hnext : (d.workspace.launch c.code).2.sinks.next = d.workspace.sinks.next + 1 := by
    simp [Workspace.launch, Workspace.capture, Workspace.install, Workspace.call]
  refine ⟨?_, h.outputs, h.made, ?_, ?_⟩
  · rintro _ ⟨⟩
    exact (h.current c current).launch waiting rfl rfl
  · rw [hnew]
    refine List.pairwise_append.mpr ⟨h.apart, List.pairwise_singleton _ _, ?_⟩
    simpa using h.bound
  · rw [hnew, hnext]
    refine List.forall_mem_append.mpr ⟨fun b hb => Nat.lt_succ_of_lt (h.bound b hb), ?_⟩
    exact List.forall_mem_singleton.mpr (Nat.lt_succ_self _)

theorem Capturing.move (m : Move d d') (h : d.Capturing) : d'.Capturing := by
  cases m with
  | startup s _ => exact ⟨h.current, h.outputs, h.made, h.apart, h.bound⟩
  | edit t idle _ => exact ⟨by simp [idle], h.outputs, h.made, h.apart, h.bound⟩
  | begin code idle =>
    have hbs : buffers { d with
        workspace := d.workspace.request
        current := some { code, stage := .awaiting code, before := d.workspace } } =
          d.buffers := by simp [buffers, courses, idle, Course.buffer?, Stage.job?]
    refine ⟨?_, h.outputs, h.made, by rw [hbs]; exact h.apart, by rw [hbs]; exact h.bound⟩
    rintro _ ⟨⟩
    exact ⟨fun _ => ⟨rfl, rfl⟩, fun _ => rfl, by simp [Course.buffer?, Stage.job?]⟩
  | wait c code current stage =>
    refine h.goOn current (by simp [Course.buffer?, Stage.job?, stage]) rfl ?_
    have hq := (h.current c current).quiet (by simp [stage, Stage.job?])
    have he := (h.current c current).unevaluated (by simp [stage])
    exact ⟨fun _ => hq, fun _ => he, by simp [Course.buffer?, Stage.job?]⟩
  | refuse c code status current stage _ =>
    have hq := (h.current c current).quiet (by simp [stage, Stage.job?])
    have he := (h.current c current).unevaluated (by simp [stage])
    refine h.finish current ?_ ?_ rfl fun rep hr => ?_
    · rfl
    · rfl
    · simp only [Option.some.injEq] at hr
      simp [← hr, Report.ofFault, Course.output, hq.2, he]
  | launch c code current stage => exact h.launch current (by simp [stage, Stage.job?])
  | evaluate c job current stage =>
    have hb : c.buffer? = some job.buffer := by simp [Course.buffer?, stage, Stage.job?]
    obtain ⟨made, last, out, err, contents⟩ := (h.current c current).owns _ hb
    have hb' : Course.buffer? { c with stage := .evaluating job } = c.buffer? := hb.symm
    refine h.goOn current hb' rfl ⟨by simp [Stage.job?], fun hn => (hn job rfl).elim, ?_⟩
    intro b ho
    rw [hb', hb] at ho
    obtain rfl := Option.some.inj ho
    refine ⟨made, last, out, err, contents.trans ?_⟩
    simp [Course.output, Course.own, hb, hb']
  | conclude c job outcome current launched =>
    have hb : c.buffer? = some job.buffer := by simp [Course.buffer?, launched]
    refine h.finish current rfl rfl ?_ fun rep hr => ?_
    · simp
    · simp only [Option.some.injEq] at hr
      rw [← hr]
      exact ((h.current c current).owns _ hb).contents
  | cancel c current =>
    refine h.finish current rfl rfl ?_ (by simp)
    cases c.stage <;> rfl

theorem Capturing.write (h : d.Capturing) (b : Nat) (chunk : Chunk) :
    (d.write b chunk).Capturing := by
  unfold Desk.write
  split
  · cases hc : d.current with
    | none =>
      have hbs : buffers { d with workspace := d.workspace.write b chunk, current := none } =
          d.buffers := by simp [buffers, courses, hc]
      refine ⟨by simp, h.outputs, h.made, by rw [Option.map_none, hbs]; exact h.apart, ?_⟩
      rw [Option.map_none, hbs]
      simpa [Workspace.write] using h.bound
    | some c =>
      refine h.goOn hc (by simp) (by simp [Workspace.write]) ?_
      exact (h.current c hc).write b chunk
  · exact h

theorem capturing_run (w : Workspace) (es : List Event) : (run { workspace := w } es).Capturing :=
  holds_run (fun _ _ m h => h.move m) (fun _ b chunk h => h.write b chunk) (capturing_new w) es

def caught (d : Desk) (e : Event) : List (Nat × Chunk) :=
  (d.written? e).toList.filter fun x => d.own? == some x.1

/-- What events write to buffers whose runs are under way then, in order. -/
def catches : Desk → List Event → List (Nat × Chunk)
  | _, [] => []
  | d, e :: es => d.caught e ++ catches (d.step e) es

def outputs (d : Desk) : List (Nat × Chunk) := d.courses.flatMap Course.tagged

theorem outputs_move (h : d.Capturing) (m : Move d d') : d'.outputs = d.outputs := by
  -- only the last of all runs changes, and what it has caught stays
  have last {c : Course} (hc : d.current = some c) :
      d.outputs = (d.past.map Record.course).flatMap Course.tagged ++ c.tagged := by
    simp [outputs, courses, hc]
  cases m with
  | startup s _ => rfl
  | edit t idle _ => rfl
  | begin code idle => simp [outputs, courses, idle, Course.tagged, Course.buffer?, Stage.job?]
  | wait c code current stage =>
    have hn : c.tagged = [] := by simp [Course.tagged, Course.buffer?, stage, Stage.job?]
    rw [last current, hn]
    simp [outputs, courses, Course.tagged, Course.buffer?, Stage.job?]
  | refuse c code status current stage _ =>
    have hn : Course.tagged { c with found := some status } = c.tagged := rfl
    rw [last current]
    simp [outputs, courses, hn]
  | launch c code current stage =>
    have hs : c.stage.job? = none := by simp [stage, Stage.job?]
    have hn : c.tagged = [] := by simp [Course.tagged, Course.buffer?, hs]
    obtain ⟨-, hr⟩ := (h.current c current).quiet hs
    have he := (h.current c current).unevaluated (by simp [stage])
    rw [last current, hn]
    simp [outputs, courses, Course.tagged, Course.buffer?, Stage.job?, Course.output, hr, he]
  | evaluate c job current stage =>
    have hb : c.buffer? = some job.buffer := by simp [Course.buffer?, stage, Stage.job?]
    have hb' : Course.buffer? { c with stage := .evaluating job } = some job.buffer := rfl
    have hn : Course.tagged { c with stage := .evaluating job } = c.tagged := by
      simp [Course.tagged, Course.output, Course.own, hb, hb']
    rw [last current]
    simp [outputs, courses, hn]
  | conclude c job outcome current _ =>
    rw [last current]
    simp [outputs, courses, note, Workspace.conclude]
  | cancel c current =>
    rw [last current]
    simp [outputs, courses]

theorem outputs_write (h : d.Capturing) (b : Nat) (chunk : Chunk) :
    (d.write b chunk).outputs = d.outputs ++ if d.own? = some b then [(b, chunk)] else [] := by
  cases hc : d.current with
  | none =>
    rw [Desk.write]
    split <;> simp [own?, outputs, courses, hc]
  | some c =>
    by_cases hb : b < d.workspace.sinks.next
    · have ht : (c.hear b chunk).tagged =
          c.tagged ++ if c.buffer? = some b then [(b, chunk)] else [] := by
        cases ho : c.buffer? with
        | none => simp [Course.tagged, ho]
        | some b' =>
          simp only [Course.tagged, Course.buffer?_hear, ho, Course.output_hear (h.current c hc),
            Option.some.injEq]
          by_cases he : b' = b <;> simp [he]
      rw [Desk.write, if_pos hb]
      simp [own?, outputs, courses, hc, ht]
    · have ho : c.buffer? ≠ some b := by
        intro ho
        have hm : b ∈ d.buffers := by simp [buffers, courses, hc, ho]
        exact hb (h.bound b hm)
      rw [Desk.write, if_neg hb]
      simp [own?, hc, ho]

theorem outputs_step (h : d.Capturing) (e : Event) :
    (d.step e).outputs = d.outputs ++ d.caught e := by
  cases he : d.written? e with
  | none =>
    have hm : (d.step e).Capturing ∧ (d.step e).outputs = d.outputs :=
      holds_moves (P := fun d' => d'.Capturing ∧ d'.outputs = d.outputs)
        (fun d₁ d₂ m h₁ => ⟨h₁.1.move m, (outputs_move h₁.1 m).trans h₁.2⟩) (moves_step he) ⟨h, rfl⟩
    simp [hm.2, caught, he]
  | some x =>
    rw [step_of_written he, outputs_write h, caught, he]
    by_cases ho : d.own? = some x.1 <;> simp [ho]

theorem outputs_run (h : d.Capturing) (es : List Event) :
    (d.run es).outputs = d.outputs ++ d.catches es := by
  induction es generalizing d with
  | nil => simp [run, catches]
  | cons e es ih =>
    have hs : (d.step e).Capturing :=
      holds_step (fun _ _ m h => h.move m) (fun _ b chunk h => h.write b chunk) h e
    change ((d.step e).run es).outputs = _
    rw [ih hs, outputs_step h, catches, List.append_assoc]

end Desk

end Workpad
