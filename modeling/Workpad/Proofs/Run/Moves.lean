import Mathlib.Logic.Relation
import Workpad.Proofs.Plot.Prepare
import Workpad.Proofs.Run.Complete
import Workpad.Run.Desk

/-!
What can happen at a desk. Each event is a write or comes to a few moves, so what every write and
every move keeps holds however runs go.
-/
namespace Workpad

def Job.calls (job : Job) : List Call :=
  [.install .out job.buffer, .install .err job.buffer, .resolve job.prepared.code]

def Stage.calls : Stage → List Call
  | .awaiting _ => []
  | .resolving job => job.calls
  | .evaluating job => job.calls ++ [.evaluate job.prepared.code]

def Stage.job? : Stage → Option Job
  | .awaiting _ => none
  | .resolving job | .evaluating job => some job

def Course.buffer? (c : Course) : Option Nat := c.stage.job?.map Job.buffer

def Course.target? (c : Course) : Option TargetId := c.stage.job?.bind fun job => job.prepared.target

@[simp] theorem Course.hear_stage (c : Course) (buffer : Nat) (chunk : Chunk) :
    (c.hear buffer chunk).stage = c.stage := by
  obtain ⟨_, stage, _, _, _, _⟩ := c
  cases stage <;> rfl

@[simp] theorem Course.hear_before (c : Course) (buffer : Nat) (chunk : Chunk) :
    (c.hear buffer chunk).before = c.before := by
  obtain ⟨_, stage, _, _, _, _⟩ := c
  cases stage <;> rfl

@[simp] theorem Course.hear_code (c : Course) (buffer : Nat) (chunk : Chunk) :
    (c.hear buffer chunk).code = c.code := by
  obtain ⟨_, stage, _, _, _, _⟩ := c
  cases stage <;> rfl

@[simp] theorem Course.hear_found (c : Course) (buffer : Nat) (chunk : Chunk) :
    (c.hear buffer chunk).found = c.found := by
  obtain ⟨_, stage, _, _, _, _⟩ := c
  cases stage <;> rfl

namespace Desk
variable {d d' : Desk}

def own? (d : Desk) : Option Nat := d.current.bind Course.buffer?

def written? (d : Desk) : Event → Option (Nat × Chunk)
  | .write buffer chunk => some (buffer, chunk)
  | .emit chunk => (d.workspace.sinks.installed? chunk.stream).map fun buffer => (buffer, chunk)
  | _ => none

/-- The least that can happen at a desk when nothing is written. -/
inductive Move (d : Desk) : Desk → Prop
  | startup (s : Startup) (sound : d.workspace.startup.Sound → s.Sound) :
    Move d { d with workspace := d.workspace.withStartup s }
  /-- Between two runs the transcript changes, but no target comes. -/
  | edit (t : Transcript) (idle : d.current = none)
      (ids : t.targets.map Target.id ⊆ d.workspace.transcript.targets.map Target.id) :
    Move d { d with workspace := { d.workspace with transcript := t } }
  | begin (code : String) (idle : d.current = none) :
    Move d { d with
      workspace := d.workspace.request
      current := some { code, stage := .awaiting code, before := d.workspace } }
  | wait (c : Course) (code : String) (current : d.current = some c)
      (stage : c.stage = .awaiting code) :
    Move d { d with current := some { c with found := none, stage := .awaiting c.code } }
  | refuse (c : Course) (code : String) (status : Status) (current : d.current = some c)
      (stage : c.stage = .awaiting code)
      (notReady : status = .ready → d.workspace.startup.status = .ready ∧
        d.workspace.startup.hasInterpreter = false) :
    Move d { d with
      current := none
      past := d.past ++ [⟨{ c with found := some status }, d.workspace,
        some (Report.ofFault .notLoaded)⟩] }
  | launch (c : Course) (code : String) (current : d.current = some c)
      (stage : c.stage = .awaiting code) :
    Move d { d with
      workspace := (d.workspace.launch c.code).2
      current := some { c with
        found := some .ready, stage := .resolving (d.workspace.launch c.code).1 } }
  | evaluate (c : Course) (job : Job) (current : d.current = some c)
      (stage : c.stage = .resolving job) :
    Move d { d with
      workspace := d.workspace.call (.evaluate job.prepared.code)
      current := some { c with stage := .evaluating job } }
  | conclude (c : Course) (job : Job) (outcome : Outcome) (current : d.current = some c)
      (launched : c.stage.job? = some job) :
    Move d (d.note c (d.workspace.conclude job outcome))
  | cancel (c : Course) (current : d.current = some c) :
    Move d { d with
      workspace := d.workspace.cancel c.stage
      current := none
      past := d.past ++ [⟨c, d.workspace.cancel c.stage, none⟩] }

abbrev Moves : Desk → Desk → Prop := Relation.ReflTransGen Move

theorem moves_look {c : Course} {code : String} (current : d.current = some c)
    (stage : c.stage = .awaiting code) : Moves d (d.look c) := by
  cases hq : d.workspace.startup.settled? with
  | none =>
    rw [look, Workspace.proceed, hq]
    exact .single (.wait c code current stage)
  | some status =>
    have hs : d.workspace.startup.status = status := by
      rw [Startup.settled?] at hq
      split at hq
      · exact Option.some.inj hq
      · contradiction
    rw [look, Workspace.proceed, hq]
    simp only
    split
    next hr =>
      refine .single (.refuse c code status current stage fun h => ?_)
      simp [h, Status.isReady] at hr
    next hr =>
      have hr : status = .ready := by simpa [Status.isReady] using hr
      split
      next hi =>
        exact .single (.refuse c code status current stage fun _ => ⟨hr ▸ hs, by simpa using hi⟩)
      next hi =>
        subst hr
        exact .single (.launch c code current stage)

theorem look_current (w : Workspace) (past : List Record) (current current' : Option Course)
    (c : Course) : look ⟨w, current, past⟩ c = look ⟨w, current', past⟩ c := by
  rw [look, look]
  generalize w.proceed c.code = x
  obtain ⟨stage | report, v⟩ := x <;> rfl

/-- Every event that writes nothing comes to a few moves. -/
theorem moves_step {e : Event} (h : d.written? e = none) : Moves d (d.step e) := by
  cases e with
  | start code =>
    cases hc : d.current with
    | some c => simpa [step, start, hc] using Relation.ReflTransGen.refl
    | none =>
      have hb := Relation.ReflTransGen.single (Move.begin (d := d) code hc)
      have hl := hb.trans (moves_look rfl rfl)
      rw [look_current _ _ _ d.current] at hl
      simpa only [step, start, hc] using hl
  | look =>
    cases hc : d.current with
    | none => simpa [step, hc] using Relation.ReflTransGen.refl
    | some c =>
      cases hs : c.stage with
      | awaiting code => simpa [step, hc, hs] using moves_look hc hs
      | resolving job | evaluating job => simpa [step, hc, hs] using Relation.ReflTransGen.refl
  | request => exact .single (.startup _ fun h => h.request)
  | allowFinish => exact .single (.startup _ fun h => h.allowFinish)
  | load => exact .single (.startup _ fun h => h.work)
  | write buffer chunk => simp [written?] at h
  | emit chunk =>
    have hb : d.workspace.sinks.installed? chunk.stream = none := Option.map_eq_none_iff.mp h
    simpa [step, hb] using Relation.ReflTransGen.refl
  | resolved answer =>
    cases hc : d.current with
    | none => simpa [step, hc] using Relation.ReflTransGen.refl
    | some c =>
      cases hs : c.stage with
      | resolving job =>
        have hj : c.stage.job? = some job := by rw [hs]; rfl
        cases answer with
        | error m =>
          simp only [step, hc, hs]
          exact .single (.conclude c job (.error (.dependency m)) hc hj)
        | ok _ =>
          simp only [step, hc, hs]
          exact .single (.evaluate c job hc hs)
      | awaiting code | evaluating job =>
        simpa [step, hc, hs] using Relation.ReflTransGen.refl
  | evaluated answer =>
    cases hc : d.current with
    | none => simpa [step, hc] using Relation.ReflTransGen.refl
    | some c =>
      cases hs : c.stage with
      | evaluating job =>
        have hj : c.stage.job? = some job := by rw [hs]; rfl
        simp only [step, hc, hs]
        cases answer with
        | error m => exact .single (.conclude c job (.error (.evaluation m)) hc hj)
        | ok v => exact .single (.conclude c job (.ok v) hc hj)
      | awaiting code | resolving job =>
        simpa [step, hc, hs] using Relation.ReflTransGen.refl
  | cancel =>
    cases hc : d.current with
    | none => simpa [step, cancel, hc] using Relation.ReflTransGen.refl
    | some c =>
      simpa [step, cancel, hc] using Relation.ReflTransGen.single (Move.cancel c hc)
  | clear =>
    cases hc : d.current with
    | some c => simpa [step, edit, hc] using Relation.ReflTransGen.refl
    | none =>
      simpa [step, edit, hc] using Relation.ReflTransGen.single
        (Move.edit d.workspace.transcript.clear.2 hc (List.nil_subset _))
  | attach id control =>
    cases hc : d.current with
    | some c => simpa [step, edit, hc] using Relation.ReflTransGen.refl
    | none =>
      have ids : (d.workspace.transcript.attachControl id control).2.targets.map Target.id =
          d.workspace.transcript.targets.map Target.id :=
        Transcript.ids_changeFirst id (f := (·.attach control)) (fun _ => rfl) _
      simpa [step, edit, hc] using Relation.ReflTransGen.single
        (Move.edit (d.workspace.transcript.attachControl id control).2 hc (by rw [ids]; simp))

theorem step_of_written {e : Event} {x : Nat × Chunk} (h : d.written? e = some x) :
    d.step e = d.write x.1 x.2 := by
  cases e with
  | write buffer chunk =>
    obtain rfl := Option.some.inj h
    rfl
  | emit chunk =>
    obtain ⟨buffer, hb, rfl⟩ := Option.map_eq_some_iff.mp h
    simp [step, hb]
  | _ => simp [written?] at h

theorem run_append (d : Desk) (es es' : List Event) : d.run (es ++ es') = (d.run es).run es' := by
  simp [run, List.foldl_append]

theorem holds_moves {P : Desk → Prop} (move : ∀ d d', Move d d' → P d → P d') (m : Moves d d')
    (h : P d) : P d' := by
  induction m with
  | refl => exact h
  | tail _ m ih => exact move _ _ m ih

theorem holds_step {P : Desk → Prop} (move : ∀ d d', Move d d' → P d → P d')
    (write : ∀ d b chunk, P d → P (d.write b chunk)) (h : P d) (e : Event) : P (d.step e) := by
  cases he : d.written? e with
  | none => exact holds_moves move (moves_step he) h
  | some x =>
    rw [step_of_written he]
    exact write d x.1 x.2 h

/-- What every write and every move keeps holds however runs go. -/
theorem holds_run {P : Desk → Prop} (move : ∀ d d', Move d d' → P d → P d')
    (write : ∀ d b chunk, P d → P (d.write b chunk)) (h : P d) (es : List Event) :
    P (d.run es) := by
  induction es generalizing d with
  | nil => exact h
  | cons e es ih => exact ih (holds_step move write h e)

structure Handed (d : Desk) : Prop where
  current : ∀ c, d.current = some c → d.workspace.calls = c.before.calls ++ c.stage.calls
  past : ∀ r ∈ d.past, r.after.calls = r.course.before.calls ++ r.course.stage.calls

theorem Handed.finish (h : d.Handed) {r : Record} {w : Workspace}
    (hr : r.after.calls = r.course.before.calls ++ r.course.stage.calls) :
    Handed { workspace := w, past := d.past ++ [r] } :=
  ⟨by simp, List.forall_mem_append.mpr ⟨h.past, List.forall_mem_singleton.mpr hr⟩⟩

theorem Handed.goOn (h : d.Handed) {c : Course} {w : Workspace}
    (hc : w.calls = c.before.calls ++ c.stage.calls) :
    Handed { d with workspace := w, current := some c } := by
  refine ⟨?_, h.past⟩
  rintro _ ⟨⟩
  exact hc

theorem Handed.move (m : Move d d') (h : d.Handed) : d'.Handed := by
  cases m with
  | startup s _ => exact ⟨h.current, h.past⟩
  | edit t idle _ => exact ⟨by simp [idle], h.past⟩
  | begin code idle => exact h.goOn (by simp [Workspace.request, Stage.calls])
  | wait c code current stage =>
    have hc := h.current c current
    rw [stage] at hc
    exact h.goOn hc
  | refuse c code status current stage _ => exact h.finish (h.current c current)
  | launch c code current stage =>
    have hc := h.current c current
    rw [stage, Stage.calls, List.append_nil] at hc
    refine h.goOn ?_
    simp [Workspace.launch, Workspace.capture, Workspace.install, Workspace.call, hc, Stage.calls,
      Job.calls]
  | evaluate c job current stage =>
    have hc := h.current c current
    rw [stage, Stage.calls] at hc
    exact h.goOn (by simp [Workspace.call, hc, Stage.calls])
  | conclude c job outcome current _ => exact h.finish (h.current c current)
  | cancel c current =>
    refine h.finish ?_
    rw [← h.current c current]
    cases c.stage <;> rfl

theorem Handed.write (h : d.Handed) (b : Nat) (chunk : Chunk) : (d.write b chunk).Handed := by
  unfold Desk.write
  split
  · cases hc : d.current with
    | none => exact ⟨by simp, h.past⟩
    | some c => exact h.goOn (by simpa [Workspace.write] using h.current c hc)
  · exact h

theorem handed_run (w : Workspace) (es : List Event) : (run { workspace := w } es).Handed :=
  holds_run (fun _ _ m h => h.move m) (fun _ b chunk h => h.write b chunk)
    ⟨by simp, by simp⟩ es

end Desk

end Workpad
