import Mathlib.Data.List.Nodup
import Workpad.Proofs.Plot.Rewriting
import Workpad.Proofs.Run.Capture

/-!
Plot targets and the slot. A run whose code plots makes one target and holds the slot with it; however
the run ends, the slot comes back, and nothing else in the transcript has changed.
-/
namespace Workpad

/-- How a run under way stands with plotter and transcript: both are as it found them, or as preparing
its code has left them. -/
structure Course.Prepares (c : Course) (w : Workspace) : Prop where
  fresh : c.before.plotter.Fresh c.before.transcript
  waiting : c.stage.job? = none →
    c.found = none ∧ w.plotter = c.before.plotter ∧ w.transcript = c.before.transcript
  prepared : ∀ job, c.stage.job? = some job → c.found = some .ready ∧
    c.before.plotter.prepare c.code c.before.transcript =
      (job.prepared, w.plotter, w.transcript)

structure Course.Leaves (c : Course) (w : Workspace) : Prop where
  fresh : c.before.plotter.Fresh c.before.transcript
  waiting : c.stage.job? = none →
    c.found ≠ some .ready ∧ w.plotter = c.before.plotter ∧ w.transcript = c.before.transcript
  prepared : ∀ job, c.stage.job? = some job → c.found = some .ready ∧
    w.plotter = c.before.plotter.after c.code ∧
    job.prepared = (c.before.plotter.prepare c.code c.before.transcript).1 ∧
    w.transcript = (c.before.plotter.prepare c.code c.before.transcript).2.2

namespace Course
variable {c : Course} {w w' : Workspace}

theorem Leaves.fresh_after (h : c.Leaves w) : w.plotter.Fresh w.transcript := by
  cases hj : c.stage.job? with
  | none =>
    obtain ⟨-, hp, ht⟩ := h.waiting hj
    rw [hp, ht]
    exact h.fresh
  | some job =>
    obtain ⟨-, hp, -, ht⟩ := h.prepared job hj
    rw [hp, ht]
    exact h.fresh.after c.code

/-- A run that found the interpreter ready and whose code plots has made the next target. -/
theorem Leaves.plots (h : c.Leaves w) (found : c.found = some .ready)
    (detects : c.before.plotter.detects c.code = true) :
    ∃ job, c.stage.job? = some job ∧
      job.prepared = ⟨c.before.plotter.redirect c.before.plotter.nextId c.code,
        some c.before.plotter.nextId⟩ ∧
      w.transcript.entries =
        c.before.transcript.entries ++ [.target { id := c.before.plotter.nextId }] := by
  cases hj : c.stage.job? with
  | none => exact ((h.waiting hj).1 found).elim
  | some job =>
    obtain ⟨-, -, hprep, ht⟩ := h.prepared job hj
    rw [Plotter.prepare_of_detects h.fresh.free detects] at hprep ht
    exact ⟨job, rfl, hprep, by rw [ht]; rfl⟩

theorem Leaves.plain (h : c.Leaves w)
    (hn : ¬(c.found = some .ready ∧ c.before.plotter.detects c.code = true)) :
    w.transcript = c.before.transcript ∧
      ∀ job, c.stage.job? = some job → job.prepared = { code := c.code } := by
  cases hj : c.stage.job? with
  | none => exact ⟨(h.waiting hj).2.2, by simp⟩
  | some job =>
    obtain ⟨hf, -, hprep, ht⟩ := h.prepared job hj
    have hd : c.before.plotter.detects c.code = false := by
      cases hd : c.before.plotter.detects c.code with
      | true => exact (hn ⟨hf, hd⟩).elim
      | false => rfl
    rw [Plotter.prepare_of_not_detects hd] at hprep ht
    refine ⟨ht, ?_⟩
    rintro _ ⟨⟩
    exact hprep

/-- A run that ends gives back what it has claimed. -/
theorem Prepares.leaves (h : c.Prepares w) {found : Option Status}
    (waiting : c.stage.job? = none → found ≠ some .ready ∧ w'.plotter = w.plotter ∧
      w'.transcript = w.transcript)
    (prepared : ∀ job, c.stage.job? = some job → found = some .ready ∧
      w'.plotter = w.plotter.abandon job.prepared ∧ w'.transcript = w.transcript) :
    Leaves { c with found } w' := by
  refine ⟨h.fresh, fun hj => ?_, fun job hj => ?_⟩
  · obtain ⟨hf, hp, ht⟩ := waiting hj
    obtain ⟨-, hp', ht'⟩ := h.waiting hj
    exact ⟨hf, hp.trans hp', ht.trans ht'⟩
  · obtain ⟨hf, hp, ht⟩ := prepared job hj
    obtain ⟨-, hprep⟩ := h.prepared job hj
    have ha := Plotter.abandon_prepare h.fresh.free c.code c.before.transcript
    rw [hprep] at ha ⊢
    exact ⟨hf, hp.trans ha, rfl, ht⟩

theorem Prepares.conclude (h : c.Prepares w) {job : Job} (launched : c.stage.job? = some job)
    (outcome : Outcome) : c.Leaves (w.conclude job outcome).2 := by
  obtain ⟨hf, hprep⟩ := h.prepared job launched
  have hfin := Plotter.finish_prepare h.fresh c.code
  have hab := Plotter.abandon_prepare h.fresh.free c.code c.before.transcript
  rw [hprep] at hfin hab
  have hleaves : Leaves { c with found := c.found } (w.conclude job outcome).2 := by
    refine h.leaves (by simp [launched]) fun job' hj' => ⟨hf, ?_, congrArg Prod.snd hfin⟩
    rw [launched] at hj'
    obtain rfl := Option.some.inj hj'
    rw [hab]
    exact congrArg Prod.fst hfin
  exact hleaves

theorem Prepares.cancel (h : c.Prepares w) : c.Leaves (w.cancel c.stage) := by
  have hleaves : Leaves { c with found := c.found } (w.cancel c.stage) := by
    cases hs : c.stage with
    | awaiting code =>
      have hj : c.stage.job? = none := by simp [hs, Stage.job?]
      have hf : c.found ≠ some .ready := by simp [(h.waiting hj).1]
      exact h.leaves (fun _ => ⟨hf, rfl, rfl⟩) (by simp [hj])
    | resolving job | evaluating job =>
      have hj : c.stage.job? = some job := by simp [hs, Stage.job?]
      refine h.leaves (by simp [hj]) fun job' hj' => ?_
      rw [hj] at hj'
      obtain rfl := Option.some.inj hj'
      exact ⟨(h.prepared job hj).1, rfl, rfl⟩
  exact hleaves

end Course

namespace Desk
variable {d d' : Desk} {p : Plotter}

def targets (d : Desk) : List TargetId := d.courses.filterMap Course.target?

/-- How a desk stands with targets and slot. The targets that runs have made are the next ones of the
supply, and between two runs the slot is free. -/
structure Plotting (p : Plotter) (d : Desk) : Prop where
  sound : d.workspace.startup.Sound
  idle : d.current = none → d.workspace.plotter.Fresh d.workspace.transcript
  current : ∀ c, d.current = some c → c.Prepares d.workspace
  past : ∀ r ∈ d.past, r.course.Leaves r.after
  like : d.workspace.plotter.Like p ∧ ∀ c ∈ d.courses, c.before.plotter.Like p
  targets : ∃ k, d.workspace.plotter.minted = p.minted + k ∧
    d.targets = (List.range' p.minted k).map p.supply.id

theorem plotting_new {w : Workspace} (sound : w.startup.Sound)
    (fresh : w.plotter.Fresh w.transcript) : Plotting w.plotter { workspace := w } := by
  refine ⟨sound, fun _ => fresh, by simp, by simp, ⟨.refl _, by simp [courses]⟩, 0, rfl, ?_⟩
  simp [Desk.targets, courses]

theorem Plotting.finish (h : d.Plotting p) {c c' : Course} (hc : d.current = some c)
    (stage : c'.stage = c.stage) (code : c'.code = c.code) (before : c'.before = c.before)
    {w : Workspace} (startup : w.startup = d.workspace.startup) (leaves : c'.Leaves w)
    (report : Option Report) : Plotting p { workspace := w, past := d.past ++ [⟨c', w, report⟩] } := by
  have hlike : c.before.plotter.Like p := h.like.2 c (by simp [courses, hc])
  have hp : w.plotter.Like p ∧ w.plotter.minted = d.workspace.plotter.minted := by
    cases hj : c.stage.job? with
    | none =>
      obtain ⟨-, hp, -⟩ := leaves.waiting (stage ▸ hj)
      obtain ⟨-, hp', -⟩ := (h.current c hc).waiting hj
      rw [hp, hp', before]
      exact ⟨hlike, rfl⟩
    | some job =>
      obtain ⟨-, hp, -, -⟩ := leaves.prepared job (stage ▸ hj)
      obtain ⟨-, hprep⟩ := (h.current c hc).prepared job hj
      have hm := Plotter.minted_prepare (h.current c hc).fresh.free c.code c.before.transcript
      rw [hprep] at hm
      rw [hp, before, code]
      exact ⟨hlike.after c.code, hm.symm⟩
  have hts : Desk.targets { workspace := w, past := d.past ++ [⟨c', w, report⟩] } = d.targets := by
    have ht : c'.target? = c.target? := by rw [Course.target?, stage]; rfl
    simp [Desk.targets, courses, hc, List.filterMap_cons, ht]
  obtain ⟨k, hk, ht⟩ := h.targets
  refine ⟨startup ▸ h.sound, fun _ => leaves.fresh_after, by simp, ?_, ⟨hp.1, ?_⟩, k, ?_, ?_⟩
  · exact List.forall_mem_append.mpr ⟨h.past, List.forall_mem_singleton.mpr leaves⟩
  · have hcs : courses { workspace := w, past := d.past ++ [⟨c', w, report⟩] } =
        d.past.map Record.course ++ [c'] := by simp [courses]
    rw [hcs]
    exact List.forall_mem_append.mpr ⟨(List.forall_mem_append.mp h.like.2).1,
      List.forall_mem_singleton.mpr (before ▸ hlike)⟩
  · rw [hp.2, hk]
  · rw [hts, ht]

theorem Plotting.goOn (h : d.Plotting p) {c c' : Course} (hc : d.current = some c)
    (before : c'.before = c.before) (target : c'.target? = c.target?) {w : Workspace}
    (startup : w.startup = d.workspace.startup) (plotter : w.plotter = d.workspace.plotter)
    (prepares : c'.Prepares w) : Plotting p { d with workspace := w, current := some c' } := by
  have hts : Desk.targets { d with workspace := w, current := some c' } = d.targets := by
    simp [Desk.targets, courses, hc, List.filterMap_cons, target]
  obtain ⟨k, hk, ht⟩ := h.targets
  refine ⟨startup ▸ h.sound, by simp, ?_, h.past, ⟨plotter ▸ h.like.1, ?_⟩, k, ?_, ?_⟩
  · rintro _ ⟨⟩
    exact prepares
  · refine List.forall_mem_append.mpr ⟨(List.forall_mem_append.mp h.like.2).1, ?_⟩
    refine List.forall_mem_singleton.mpr ?_
    rw [before]
    exact h.like.2 c (by simp [courses, hc])
  · rw [plotter, hk]
  · rw [hts, ht]

/-- A run whose code is prepared takes the next target of the supply, if it plots. -/
theorem Plotting.launch (h : d.Plotting p) {c : Course} (current : d.current = some c)
    (waiting : c.stage.job? = none) :
    Plotting p { d with
      workspace := (d.workspace.launch c.code).2
      current := some { c with
        found := some .ready, stage := .resolving (d.workspace.launch c.code).1 } } := by
  obtain ⟨fresh, quiet, -⟩ := h.current c current
  obtain ⟨-, hp, ht⟩ := quiet waiting
  have hlike := c.before.plotter.like_prepare c.code c.before.transcript
  have hcp : c.before.plotter.Like p := h.like.2 c (by simp [courses, current])
  have hprep : ((d.workspace.launch c.code).1.prepared, (d.workspace.launch c.code).2.plotter,
      (d.workspace.launch c.code).2.transcript) =
        c.before.plotter.prepare c.code c.before.transcript := by
    rw [← hp, ← ht]
    rfl
  have hjob : (d.workspace.launch c.code).1.prepared =
      (c.before.plotter.prepare c.code c.before.transcript).1 := by rw [← hprep]
  have hpl : (d.workspace.launch c.code).2.plotter =
      (c.before.plotter.prepare c.code c.before.transcript).2.1 := by rw [← hprep]
  obtain ⟨k, hk, hts⟩ := h.targets
  have hold : d.targets = (d.past.map Record.course).filterMap Course.target? := by
    simp [Desk.targets, courses, current, Course.target?, waiting]
  refine ⟨h.sound, by simp, ?_, h.past, ⟨?_, ?_⟩, ?_⟩
  · rintro _ ⟨⟩
    refine ⟨fresh, by simp [Stage.job?], ?_⟩
    rintro _ ⟨⟩
    exact ⟨rfl, hprep.symm⟩
  · rw [hpl]
    exact ⟨hlike.keyword.trans hcp.keyword, hlike.prelude.trans hcp.prelude,
      hlike.supply.trans hcp.supply⟩
  · exact List.forall_mem_append.mpr
      ⟨(List.forall_mem_append.mp h.like.2).1, List.forall_mem_singleton.mpr hcp⟩
  · have hnew : Desk.targets { d with
        workspace := (d.workspace.launch c.code).2
        current := some { c with
          found := some .ready, stage := .resolving (d.workspace.launch c.code).1 } } =
          d.targets ++ (d.workspace.launch c.code).1.prepared.target.toList := by
      rw [hold]
      cases ho : (d.workspace.launch c.code).1.prepared.target <;>
        simp [Desk.targets, courses, Course.target?, Stage.job?, ho]
    rw [hp] at hk
    rw [hnew, hpl, hjob, hts]
    exact hcp.prepare_targets fresh.free c.code c.before.transcript hk

theorem Plotting.move (m : Move d d') (h : d.Plotting p) : d'.Plotting p := by
  cases m with
  | startup s sound =>
    refine ⟨sound h.sound, h.idle, fun c hc => ?_, h.past, h.like, h.targets⟩
    obtain ⟨fresh, waiting, prepared⟩ := h.current c hc
    exact ⟨fresh, waiting, prepared⟩
  | edit t idle ids =>
    exact ⟨h.sound, fun _ => (h.idle idle).edit ids, by simp [idle], h.past, h.like, h.targets⟩
  | begin code idle =>
    have hts : Desk.targets { d with
        workspace := d.workspace.request
        current := some { code, stage := .awaiting code, before := d.workspace } } = d.targets := by
      simp [Desk.targets, courses, idle, Course.target?, Stage.job?]
    refine ⟨h.sound.request, by simp, ?_, h.past, ⟨h.like.1, ?_⟩, by rw [hts]; exact h.targets⟩
    · rintro _ ⟨⟩
      exact ⟨h.idle idle, fun _ => ⟨rfl, rfl, rfl⟩, by simp [Stage.job?]⟩
    · exact List.forall_mem_append.mpr
        ⟨(List.forall_mem_append.mp h.like.2).1, List.forall_mem_singleton.mpr h.like.1⟩
  | wait c code current stage =>
    have hj : c.stage.job? = none := by simp [stage, Stage.job?]
    obtain ⟨fresh, waiting, -⟩ := h.current c current
    obtain ⟨-, hp, ht⟩ := waiting hj
    refine h.goOn current ?_ ?_ rfl rfl ⟨fresh, fun _ => ⟨rfl, hp, ht⟩, by simp [Stage.job?]⟩
    · rfl
    · rw [Course.target?, Course.target?, hj]
      rfl
  | refuse c code status current stage notReady =>
    have hj : c.stage.job? = none := by simp [stage, Stage.job?]
    have hr : some status ≠ some .ready := by
      intro hs
      obtain ⟨hready, hi⟩ := notReady (Option.some.inj hs)
      rw [h.sound.hasInterpreter_iff.mpr hready] at hi
      contradiction
    refine h.finish current ?_ ?_ ?_ rfl
      ((h.current c current).leaves (fun _ => ⟨hr, rfl, rfl⟩) (by simp [hj])) _ <;> rfl
  | launch c code current stage => exact h.launch current (by simp [stage, Stage.job?])
  | evaluate c job current stage =>
    have hj : c.stage.job? = some job := by simp [stage, Stage.job?]
    obtain ⟨fresh, -, prepared⟩ := h.current c current
    refine h.goOn current ?_ ?_ rfl rfl ⟨fresh, by simp [Stage.job?], ?_⟩
    · rfl
    · rw [Course.target?, Course.target?, hj]
      rfl
    · rintro _ ⟨⟩
      exact prepared job hj
  | conclude c job outcome current launched =>
    refine h.finish current ?_ ?_ ?_ ?_ ((h.current c current).conclude launched outcome) _ <;> rfl
  | cancel c current =>
    refine h.finish current rfl rfl rfl ?_ (h.current c current).cancel _
    cases c.stage <;> rfl

theorem Plotting.write (h : d.Plotting p) (b : Nat) (chunk : Chunk) :
    (d.write b chunk).Plotting p := by
  unfold Desk.write
  split
  · cases hc : d.current with
    | none =>
      refine ⟨h.sound, fun _ => h.idle hc, by simp, h.past, ?_, ?_⟩
      · simpa [courses, hc, Workspace.write] using h.like
      · simpa [Desk.targets, courses, hc, Workspace.write] using h.targets
    | some c =>
      refine h.goOn hc (by simp) (by simp [Course.target?]) rfl rfl ?_
      obtain ⟨fresh, waiting, prepared⟩ := h.current c hc
      refine ⟨?_, ?_, ?_⟩
      · simpa using fresh
      · simpa [Workspace.write] using waiting
      · simpa [Workspace.write] using prepared
  · exact h

theorem Plotting.run {w : Workspace} (sound : w.startup.Sound)
    (fresh : w.plotter.Fresh w.transcript) (es : List Event) :
    (run { workspace := w } es).Plotting w.plotter :=
  holds_run (fun _ _ m h => h.move m) (fun _ b chunk h => h.write b chunk)
    (plotting_new sound fresh) es

/-- The slot is held for the run under way, and only while that has a target. -/
theorem Plotting.holder (h : d.Plotting p) :
    d.workspace.plotter.slot.holder = d.current.bind Course.target? := by
  cases hc : d.current with
  | none => exact (h.idle hc).free
  | some c =>
    obtain ⟨fresh, waiting, prepared⟩ := h.current c hc
    rw [Option.bind_some, Course.target?]
    cases hj : c.stage.job? with
    | none =>
      rw [(waiting hj).2.1]
      exact fresh.free
    | some job =>
      obtain ⟨-, hprep⟩ := prepared job hj
      cases hd : c.before.plotter.detects c.code with
      | true =>
        rw [Plotter.prepare_of_detects fresh.free hd] at hprep
        simp only [Prod.mk.injEq] at hprep
        rw [Option.bind_some, ← hprep.1, ← hprep.2.1]
      | false =>
        rw [Plotter.prepare_of_not_detects hd] at hprep
        simp only [Prod.mk.injEq] at hprep
        rw [Option.bind_some, ← hprep.1, ← hprep.2.1]
        exact fresh.free

theorem Plotting.targets_new (h : d.Plotting p) {t : Transcript}
    (fresh : ∀ x ∈ t.targets, ∀ n, p.minted ≤ n → x.id ≠ p.supply.id n) :
    d.targets.Nodup ∧ ∀ id ∈ d.targets, ∀ x ∈ t.targets, x.id ≠ id := by
  obtain ⟨k, -, ht⟩ := h.targets
  rw [ht]
  refine ⟨List.Nodup.map (fun m n he => p.supply.distinct m n he) List.nodup_range', ?_⟩
  intro id hid x hx
  obtain ⟨n, hn, rfl⟩ := List.mem_map.mp hid
  exact fresh x hx n (List.mem_range'_1.mp hn).1

end Desk

def Call.code? : Call → Option String
  | .install _ _ => none
  | .resolve code | .evaluate code => some code

def Record.handed (r : Record) : List String :=
  (r.after.calls.drop r.course.before.calls.length).filterMap Call.code?

namespace Record
variable {r : Record}

theorem handed_eq (h : r.after.calls = r.course.before.calls ++ r.course.stage.calls) :
    r.handed = r.course.stage.calls.filterMap Call.code? := by
  rw [handed, h, List.drop_left]

/-- A run hands over what was prepared, at least to have its imports resolved. -/
theorem handed_of_job (h : r.after.calls = r.course.before.calls ++ r.course.stage.calls) {job : Job}
    (hj : r.course.stage.job? = some job) :
    r.handed ≠ [] ∧ ∀ code ∈ r.handed, code = job.prepared.code := by
  rw [handed_eq h]
  cases hs : r.course.stage with
  | awaiting code => simp [hs, Stage.job?] at hj
  | resolving job' | evaluating job' =>
    rw [hs] at hj
    obtain rfl := Option.some.inj hj
    simp [Stage.calls, Job.calls, Call.code?]

/-- A run that plots leaves one target more and hands over its redirected code. -/
theorem plots (leaves : r.course.Leaves r.after)
    (calls : r.after.calls = r.course.before.calls ++ r.course.stage.calls)
    (found : r.course.found = some .ready)
    (detects : r.course.before.plotter.detects r.course.code = true) :
    ∃ id, r.course.target? = some id ∧
      r.after.transcript.entries = r.course.before.transcript.entries ++ [.target { id }] ∧
      r.handed ≠ [] ∧
      ∀ code ∈ r.handed, code = r.course.before.plotter.redirect id r.course.code := by
  obtain ⟨job, hj, hprep, ht⟩ := leaves.plots found detects
  obtain ⟨hne, hall⟩ := handed_of_job calls hj
  refine ⟨r.course.before.plotter.nextId, ?_, ht, hne, fun code hc => ?_⟩
  · rw [Course.target?, hj, Option.bind_some, hprep]
  · rw [hall code hc, hprep]

theorem plain (leaves : r.course.Leaves r.after)
    (calls : r.after.calls = r.course.before.calls ++ r.course.stage.calls)
    (hn : ¬(r.course.found = some .ready ∧
      r.course.before.plotter.detects r.course.code = true)) :
    r.course.target? = none ∧
      r.after.transcript.entries = r.course.before.transcript.entries ∧
      ∀ code ∈ r.handed, code = r.course.code := by
  obtain ⟨ht, hjob⟩ := leaves.plain hn
  cases hj : r.course.stage.job? with
  | none =>
    have hs : r.course.stage.calls = [] := by
      cases hs : r.course.stage with
      | awaiting waiting => rfl
      | resolving job | evaluating job => simp [hs, Stage.job?] at hj
    refine ⟨by simp [Course.target?, hj], by rw [ht], ?_⟩
    simp [handed_eq calls, hs]
  | some job =>
    have hprep := hjob job hj
    refine ⟨by simp [Course.target?, hj, hprep], by rw [ht], fun code hc => ?_⟩
    rw [(handed_of_job calls hj).2 code hc, hprep]

end Record

namespace Desk

/-- However runs go on a workspace whose slot is free: it is held only for a run under way that has a
target, so after each run it is free. A run that found the interpreter ready and whose code has the
keyword in it leaves one target more, without controls, and hands over the prelude with the target's id
in all its places and, from the start of a line, the code; any other run leaves no target and hands over
its code as it is, if any. Nothing else in the transcript changes while a run is under way, and no two
targets have the same id. -/
theorem slot_comes_back {w : Workspace} (startup : w.startup.Reachable)
    (free : w.plotter.slot.holder = none)
    (fresh : ∀ x ∈ w.transcript.targets, ∀ n, w.plotter.minted ≤ n → x.id ≠ w.plotter.supply.id n)
    (es : List Event) :
    let d := run { workspace := w } es
    let plots (code : String) : Prop := w.plotter.keyword.toList <:+: code.toList
    d.workspace.plotter.slot.holder = d.current.bind Course.target? ∧
      (∀ r ∈ d.past, r.after.plotter.slot.holder = none) ∧
      (∀ r ∈ d.past, r.course.found = some .ready → plots r.course.code →
        ∃ id pieces, r.course.target? = some id ∧
          r.after.transcript.entries =
            r.course.before.transcript.entries ++ [.target { id, controls := [] }] ∧
          (∀ other, Text.Cut targetPlaceholder.toList w.plotter.prelude.toList other ↔
            other = pieces) ∧
          r.handed ≠ [] ∧
          let text := id.text.toList.intercalate pieces
          let newline := if text = [] ∨ text.getLast? = some '\n' then [] else ['\n']
          ∀ code ∈ r.handed,
            code = String.ofList (text ++ newline ++ r.course.code.toList)) ∧
      (∀ r ∈ d.past, ¬(r.course.found = some .ready ∧ plots r.course.code) →
        r.course.target? = none ∧
          r.after.transcript.entries = r.course.before.transcript.entries ∧
          ∀ code ∈ r.handed, code = r.course.code) ∧
      d.targets.Nodup ∧ ∀ id ∈ d.targets, ∀ x ∈ w.transcript.targets, x.id ≠ id := by
  intro d plots
  have plotting : d.Plotting w.plotter := Plotting.run startup.sound ⟨free, fresh⟩ es
  have handed : d.Handed := handed_run w es
  have like (r : Record) (hr : r ∈ d.past) : r.course.before.plotter.Like w.plotter :=
    plotting.like.2 _ (List.mem_append_left _ (List.mem_map_of_mem hr))
  have detects (r : Record) (hr : r ∈ d.past) :
      r.course.before.plotter.detects r.course.code = true ↔ plots r.course.code := by
    rw [(like r hr).detects, Plotter.detects_iff]
  refine ⟨plotting.holder, fun r hr => (plotting.past r hr).fresh_after.free, ?_, ?_,
    plotting.targets_new fresh⟩
  · intro r hr hf hp
    obtain ⟨pieces, cut, -⟩ :=
      Text.exists_cut (by decide : targetPlaceholder.toList ≠ []) w.plotter.prelude.toList
    obtain ⟨id, ht, he, hne, hall⟩ :=
      Record.plots (plotting.past r hr) (handed.past r hr) hf ((detects r hr).mpr hp)
    refine ⟨id, pieces, ht, he, fun other => cut.iff_eq, hne, fun code hc => ?_⟩
    rw [hall code hc, (like r hr).redirect, Plotter.redirect_of_cut cut]
  · intro r hr hn
    rw [← detects r hr] at hn
    exact Record.plain (plotting.past r hr) (handed.past r hr) hn

/-- A plot that is cancelled while its imports are resolved. -/
theorem slot_free_after_cancel :
    let w : Workspace :=
      { startup := { location := "", loader := fun _ => .ready },
        plotter := .ofSettings {} .numbered }
    let es : List Event :=
      [.start "import matplotlib", .load, .load, .load, .load, .look, .cancel]
    w.startup.Reachable ∧ w.plotter.slot.holder = none ∧
      (∀ x ∈ w.transcript.targets, ∀ n, w.plotter.minted ≤ n → x.id ≠ w.plotter.supply.id n) ∧
      (run { workspace := w } es).targets.length = 1 ∧
      (run { workspace := w } es).workspace.plotter.slot.holder = none := by
  intro w es
  have startup : w.startup.Reachable := .new _ _ _
  have fresh : ∀ x ∈ w.transcript.targets, ∀ n, w.plotter.minted ≤ n →
      x.id ≠ w.plotter.supply.id n := by simp [w, Transcript.targets]
  obtain ⟨holder, -⟩ := slot_comes_back startup rfl fresh es
  refine ⟨startup, rfl, fresh, by decide, ?_⟩
  rw [holder]
  rfl

end Desk

end Workpad
