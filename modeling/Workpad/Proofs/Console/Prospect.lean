import Workpad.Proofs.Console.Kept
import Workpad.Proofs.Console.Served
import Workpad.Proofs.Console.Shown
import Workpad.Proofs.Run.Independence

/-!
What requests come to. For an interpreter that goes by the code alone, the reply and what is left in
the transcript hang on how the load ends, on how the console was made and on whether the slot is free,
and on nothing that was asked before.
-/
namespace Workpad

/-- What kind of entry it is: targets are not told apart. -/
def Entry.outline : Entry → Entry
  | .target _ => .target { id := ⟨""⟩ }
  | e => e

def Request.clears : Request → Bool
  | .submit line => Command.ofLine? line == some .clear
  | .script _ | .transcript => false

def Stage.rank : Stage → Nat
  | .awaiting _ => 0
  | .resolving _ => 1
  | .evaluating _ => 2

namespace Transcript

def outlines (t : Transcript) : List Entry := t.entries.map Entry.outline

theorem outlines_changeTarget (t : Transcript) (id : TargetId) (f : Target → Target) :
    (t.changeTarget id f).outlines = t.outlines := by
  have changed (es : List Entry) : (changeFirst id f es).map Entry.outline =
      es.map Entry.outline := by
    induction es with
    | nil => rfl
    | cons e es ih =>
      cases e with
      | target x => by_cases hx : x.id = id <;> simp [changeFirst, hx, ih, Entry.outline]
      | echo _ | fragment _ => simp [changeFirst, ih]
  exact changed t.entries

theorem outlines_pushEcho (t : Transcript) (line : String) :
    (t.pushEcho line).outlines = t.outlines ++ [.echo line] := by
  simp [outlines, pushEcho, Entry.outline]

theorem outlines_pushFragment (t : Transcript) (text : String) :
    (t.pushFragment text).outlines = t.outlines ++ [.fragment text] := by
  simp [outlines, pushFragment, Entry.outline]

end Transcript

/-- For code that plots, replies do not depend on which id of the supply was put in. -/
def Plotter.Blind (p : Plotter) (resolve : String → Reply Unit)
    (evaluate : String → Reply (Option String)) : Prop :=
  ∀ code, p.detects code = true → ∀ m n,
    resolve (p.redirect (p.supply.id m) code) = resolve (p.redirect (p.supply.id n) code) ∧
      evaluate (p.redirect (p.supply.id m) code) = evaluate (p.redirect (p.supply.id n) code)

theorem Plotter.Blind.like {p q : Plotter} {resolve : String → Reply Unit}
    {evaluate : String → Reply (Option String)} (h : p.Blind resolve evaluate) (like : q.Like p) :
    q.Blind resolve evaluate := by
  intro code plots m n
  rw [like.detects] at plots
  simp only [like.redirect, like.supply]
  exact h code plots m n

namespace Workspace
variable {i : Interpreter} {w w' : Workspace} {code : String}

abbrev plotsNow (w : Workspace) (code : String) : Prop :=
  w.plotter.detects code = true ∧ w.plotter.slot.holder = none

/-- What code will come to once the load has: the report, unless the interpreter hangs, and what goes
into the transcript before it. -/
def prospect (i : Interpreter) (w : Workspace) (code : String) : Option Report × List Entry :=
  match w.startup.verdict with
  | .error _ => (some (.ofFault .notLoaded), [])
  | .ok _ => ((i.handle w.calls (w.job code)).report?,
      if w.plotsNow code then [.target { id := ⟨""⟩ }] else [])

theorem outlines_concluded (w : Workspace) (code : String) (calls : List Call) (startup : Startup)
    (sinks : Sinks) : (w.concluded code calls startup sinks).transcript.outlines =
      w.transcript.outlines ++ if w.plotsNow code then [.target { id := ⟨""⟩ }] else [] := by
  have finished : (w.concluded code calls startup sinks).transcript.outlines =
      (w.plotter.prepare code w.transcript).2.2.outlines := by
    simp only [concluded, Plotter.finish]
    split
    · rfl
    · exact Transcript.outlines_changeTarget _ _ _
  rw [finished, Plotter.prepare_eq]
  split
  · simp [Transcript.outlines, Transcript.attachTarget, Entry.outline]
  · simp

theorem prospect_retold (i : Interpreter) (w : Workspace) (code : String) (t : Transcript) :
    prospect i { w with transcript := t } code = w.prospect i code := by
  rw [prospect, prospect, job_retold]

/-- What code has come to is what was to be expected of it. -/
theorem Ends.prospect {report : Report} (h : Ends i w code True report w')
    (sound : w'.startup.Sound) (verdict : w'.startup.verdict = w.startup.verdict) :
    (w.prospect i code).1 = some report ∧
      w'.transcript.outlines = w.transcript.outlines ++ (w.prospect i code).2 := by
  cases h with
  | @refused startup sinks status settled failed =>
    have hs := Startup.eq_ofOutcome_of_settled sound settled
    have hv : w.startup.verdict = startup.verdict := verdict.symm
    cases ho : startup.verdict with
    | ok _ => simp [hs, ho, Status.ofOutcome] at failed
    | error reason => simp [Workspace.prospect, hv, ho]
  | @concluded startup sinks output outcome ready heard comes =>
    have hs : startup.verdict = .ok () :=
      (Status.ofOutcome_eq_ready _).mp (Startup.eq_ofOutcome_of_settled sound ready).symm
    have hv : w.startup.verdict = .ok () := verdict.symm.trans hs
    rw [outlines_concluded]
    simp [Workspace.prospect, hv, Handling.report?, comes, heard trivial]

theorem code_job_eq (w : Workspace) (code : String) : (w.job code).prepared.code =
    if w.plotsNow code then w.plotter.redirect (w.plotter.supply.id w.plotter.minted) code
    else code := by
  rw [job, Plotter.prepare_eq]
  split <;> rfl

/-- Code that gets the same replies has the same prospect, whatever was called before and whichever
target it would get. -/
theorem prospect_same {resolve : String → Reply Unit} {evaluate : String → Reply (Option String)}
    (code : String) (verdict : w.startup.verdict = w'.startup.verdict) (like : w'.plotter.Like w.plotter)
    (slot : w.plotter.slot.holder = none ↔ w'.plotter.slot.holder = none)
    (blind : w.plotter.detects code = true → ∀ m n,
      resolve (w.plotter.redirect (w.plotter.supply.id m) code) =
          resolve (w.plotter.redirect (w.plotter.supply.id n) code) ∧
        evaluate (w.plotter.redirect (w.plotter.supply.id m) code) =
          evaluate (w.plotter.redirect (w.plotter.supply.id n) code)) :
    w.prospect (.ofCode resolve evaluate) code = w'.prospect (.ofCode resolve evaluate) code := by
  have plots : w'.plotsNow code ↔ w.plotsNow code := by rw [plotsNow, plotsNow, like.detects, slot]
  have replies : resolve (w.job code).prepared.code = resolve (w'.job code).prepared.code ∧
      evaluate (w.job code).prepared.code = evaluate (w'.job code).prepared.code := by
    rw [code_job_eq, code_job_eq, like.redirect, like.supply]
    by_cases h : w.plotsNow code
    · rw [if_pos h, if_pos (plots.mpr h)]
      exact blind h.1 _ _
    · rw [if_neg h, if_neg (mt plots.mp h)]
      exact ⟨rfl, rfl⟩
  have report := (Interpreter.handle_ofCode replies.1 replies.2 w.calls w'.calls).1
  simp only [prospect, verdict, report, plots]

/-! Once the load has come to its end, a run that does not hang gets further with every look. -/

theorem Stands.further {stage next : Stage} (h : Stands i w code True stage w')
    (sound : w'.startup.Sound) (verdict : w'.startup.verdict = w.startup.verdict) {status : Status}
    (settled : w'.startup.settled? = some status) (comes : (w.prospect i code).1 ≠ none)
    (left : (w'.advance i stage).1 = .suspended next) : stage.rank < next.rank := by
  have ok {startup : Startup} (hs : startup.verdict = w.startup.verdict) (sound : startup.Sound)
      (ready : startup.settled? = some .ready) : (i.handle w.calls (w.job code)).outcome ≠ none := by
    have hv := (Status.ofOutcome_eq_ready _).mp (Startup.eq_ofOutcome_of_settled sound ready).symm
    simpa [prospect, ← hs, hv, Handling.report?] using comes
  cases h with
  | awaiting _ _ =>
    have launched := isLaunched_proceed settled (isLaunched_hear _ left)
    cases next <;> simp_all [Stage.isLaunched, Stage.rank]
  | @resolving startup sinks ready takes heard =>
    have comes := ok verdict sound ready
    generalize hw : ({ w.handing code (w.job code).calls sinks with startup } : Workspace) = w' at left
    have reply : w'.resolution i (w.job code) = w.resolving i code := by rw [← hw]; rfl
    rw [Workspace.advance, reply] at left
    cases ha : (w.resolving i code).answer with
    | none => simp [handle_of_hangs ha] at comes
    | some a =>
      rw [ha] at left
      cases a with
      | error m => simp [resolved, conclude, hear] at left
      | ok _ =>
        have hn := isLaunched_hear _ left
        simp only [resolved, Progress.suspended.injEq] at hn
        simp [← hn, Stage.rank]
  | @evaluating startup sinks ready takes heard resolved =>
    have comes := ok verdict sound ready
    generalize hw : ({ w.handing code (Stage.evaluating (w.job code)).calls sinks with
      startup } : Workspace) = w' at left
    have reply : w'.evaluation i (w.job code) = w.evaluating i code := by rw [← hw]; rfl
    rw [Workspace.advance, reply] at left
    cases ha : (w.evaluating i code).answer with
    | none => simp [handle_of_ok resolved, ha] at comes
    | some a =>
      rw [ha] at left
      cases a <;> simp [evaluated, conclude] at left

end Workspace

namespace Terminal
variable {i : Interpreter} {t u : Terminal} {e : Event} {r : Request} {echo code : String}
variable {more : List Event}

/-- An event makes a request, and that is answered while one waits; what is written meanwhile goes to
other buffers than its own. -/
structure Answered (i : Interpreter) (t : Terminal) (e : Event) (more : List Event)
    (text : Option String) : Prop where
  waiting : ∀ e ∈ more, e.isWaiting = true
  spares : ∀ e ∈ more, e.Spares t.console.workspace.sinks.next
  told : .replied text ∈ t.answers i (e :: more)

theorem completed (idle : t.pending = none) (sound : t.console.workspace.startup.Sound)
    (asks : t.request? e = some r) (runs : r.runs? = some (echo, code)) {text : Option String}
    (answered : t.Answered i e more text) :
    let prospect := t.console.workspace.prospect i code
    ∃ report, prospect.1 = some report ∧ text = some report.fragment ∧
      (t.run i (e :: more)).console.transcript.outlines = t.console.transcript.outlines ++
        (.echo echo :: prospect.2 ++ [.fragment report.fragment]) := by
  intro prospect
  have served := served_run (i := i) True idle sound asks runs answered.waiting
    fun _ => answered.spares
  have told := answered.told
  have sound' := sound_run (i := i) sound (e :: more)
  have verdict := (goesOn_run i t (e :: more)).verdict
  generalize t.answers i (e :: more) = as at served told
  generalize t.run i (e :: more) = u at served sound' verdict ⊢
  cases served with
  | underway stands launched unanswered => exact (unanswered text told).elim
  | @ended report w ends answered =>
    obtain ⟨comes, outlines⟩ := ends.prospect sound' verdict
    have same : (t.console.begun r echo).workspace.prospect i code = prospect :=
      Workspace.prospect_retold i t.console.workspace code _
    rw [same] at comes outlines
    refine ⟨report, comes, (answered text).mp told, ?_⟩
    calc (w.transcript.pushFragment report.fragment).outlines
        = w.transcript.outlines ++ [.fragment report.fragment] :=
          Transcript.outlines_pushFragment _ _
      _ = (t.console.transcript.pushEcho echo).outlines ++ prospect.2 ++
            [.fragment report.fragment] := congrArg (· ++ _) outlines
      _ = t.console.transcript.outlines ++
            (.echo echo :: prospect.2 ++ [.fragment report.fragment]) := by
          simp [Transcript.outlines_pushEcho]

theorem pending_settle (c : Console) (x : Progress × Workspace) (stage : Stage) :
    (ofStanding (c.settle x)).2.pending = some (.run stage) ↔ x.1 = .suspended stage := by
  obtain ⟨stage' | report, w⟩ := x <;> simp [Console.settle, ofStanding]

/-- Looking often enough, one is answered. -/
theorem exists_looks {b : Console} {ready : Bool} {as : List Answer} {n : Nat}
    (served : Served i b code True ready as u) (sound : u.console.workspace.startup.Sound)
    (verdict : u.console.workspace.startup.verdict = b.workspace.startup.verdict) {status : Status}
    (settled : u.console.workspace.startup.settled? = some status)
    (comes : (b.workspace.prospect i code).1 ≠ none)
    (far : ∀ stage, u.pending = some (.run stage) → 3 ≤ n + stage.rank) :
    ∃ text, .replied text ∈ as ++ u.answers i (List.replicate n .look) := by
  induction n generalizing u as ready with
  | zero =>
    cases served with
    | underway stands launched unanswered =>
      have rank := far _ rfl
      cases stands <;> simp [Stage.rank] at rank
    | @ended report w ends answered =>
      exact ⟨some report.fragment, List.mem_append_left _ ((answered _).mpr rfl)⟩
  | succ n ih =>
    have moves := goesOn_step i u .look
    have next := served.step (e := .look) sound rfl fun _ => trivial
    rw [List.replicate_succ, answers, List.append_cons]
    refine ih next (moves.sound sound) (moves.verdict.trans verdict) (moves.settled? sound settled)
      fun stage pending => ?_
    cases served with
    | @underway stage' w stands launched unanswered =>
      have left : (w.advance i stage').1 = .suspended stage := (pending_settle _ _ _).mp pending
      have rank := stands.further sound verdict settled comes left
      have before := far stage' rfl
      omega
    | ended ends answered => simp [step, look] at pending

def settling : List Event := .allowFinish :: loads

theorem startup_of_request (idle : t.pending = none) (asks : t.request? e = some r)
    (runs : r.runs? = some (echo, code)) :
    (t.step i e).2.console.workspace.startup = t.console.workspace.startup.request := by
  rw [step_of_request idle asks runs, Console.start_of_runs i runs, console_ofStanding,
    Console.startup_settle, Workspace.start, Workspace.startup_advance]
  rfl

/-- Code that does not hang is answered if one waits for it. -/
theorem exists_completed (idle : t.pending = none) (sound : t.console.workspace.startup.Sound)
    (asks : t.request? e = some r) (runs : r.runs? = some (echo, code))
    (comes : (t.console.workspace.prospect i code).1 ≠ none) :
    ∃ more text, t.Answered i e more text := by
  have waiting : ∀ e ∈ settling, e.isWaiting = true := by decide
  have spares : ∀ e ∈ settling, e.Spares t.console.workspace.sinks.next := by
    simp [settling, loads, Event.Spares]
  have served := served_run (i := i) True idle sound asks runs waiting fun _ => spares
  have sound' := sound_run (i := i) sound (e :: settling)
  have verdict := (goesOn_run i t (e :: settling)).verdict
  have asked : (t.step i e).2.console.workspace.startup.asked = true := by
    rw [startup_of_request idle asks runs]
    exact Startup.asked_request _
  have settled : (t.run i (e :: settling)).console.workspace.startup.settled? = some _ :=
    Startup.settled?_loaded_of_asked ((goesOn_step i t e).sound sound) asked
  have same : (t.console.begun r echo).workspace.prospect i code = t.console.workspace.prospect i code :=
    Workspace.prospect_retold i t.console.workspace code _
  obtain ⟨text, answered⟩ := exists_looks (n := 3) served sound' verdict settled (same ▸ comes)
    fun _ _ => by omega
  rw [← answers_append, List.cons_append] at answered
  refine ⟨settling ++ List.replicate 3 .look, text, by decide, ?_, answered⟩
  exact List.forall_mem_append.mpr ⟨spares, by simp [Event.Spares]⟩

/-- While one waits for nothing, nothing is answered and nothing shown. -/
theorem idle_step (idle : u.pending = none) (waiting : e.isWaiting = true) :
    (u.step i e).1 = .done ∧ (u.step i e).2.pending = none ∧
      (u.step i e).2.console.transcript = u.console.transcript := by
  obtain ⟨c, p⟩ := u
  obtain rfl : p = none := idle
  cases e with
  | look | request | allowFinish | load | write _ _ => exact ⟨rfl, rfl, rfl⟩
  | emit chunk => exact ⟨rfl, rfl, Workspace.transcript_writeAll c.workspace [chunk]⟩
  | _ => contradiction

theorem idle_run (idle : u.pending = none) (waiting : ∀ e ∈ more, e.isWaiting = true) :
    (∀ a ∈ u.answers i more, a = .done) ∧
      (u.run i more).console.transcript = u.console.transcript := by
  induction more generalizing u with
  | nil => exact ⟨by simp [answers], rfl⟩
  | cons e more ih =>
    obtain ⟨here, rest⟩ := List.forall_mem_cons.mp waiting
    obtain ⟨done, idle, shown⟩ := idle_step (i := i) idle here
    obtain ⟨dones, shown'⟩ := ih idle rest
    exact ⟨List.forall_mem_cons.mpr ⟨done, dones⟩, shown'.trans shown⟩

/-- What a request comes to at a console, unless it hangs: the reply, and the block that it leaves in
the transcript. -/
def comesTo (i : Interpreter) (c : Console) (r : Request) : Option (Option String × List Entry) :=
  match r.runs?, r with
  | some (echo, code), _ =>
    (c.workspace.prospect i code).1.map fun report => (some report.fragment,
      .echo echo :: (c.workspace.prospect i code).2 ++ [.fragment report.fragment])
  | none, .submit line =>
    some ((Console.plainReply c.helpWidth line).1,
      (Transcript.editAll {} (Console.plainReply c.helpWidth line).2).outlines)
  | none, _ => none

theorem comesTo_of_runs (runs : r.runs? = some (echo, code)) (c : Console) : comesTo i c r =
    (c.workspace.prospect i code).1.map fun report => (some report.fragment,
      .echo echo :: (c.workspace.prospect i code).2 ++ [.fragment report.fragment]) := by
  simp only [comesTo, runs]

theorem comesTo_of_plain {line : String} (plain : Request.runs? (.submit line) = none)
    (c : Console) : comesTo i c (.submit line) =
      some ((Console.plainReply c.helpWidth line).1,
        (Transcript.editAll {} (Console.plainReply c.helpWidth line).2).outlines) := by
  simp only [comesTo, plain]

theorem outlines_plain (t : Transcript) (helpWidth : Nat) (line : String) :
    (t.editAll (Console.plainReply helpWidth line).2).outlines =
      (if (Request.submit line).clears then [] else t.outlines) ++
        (Transcript.editAll {} (Console.plainReply helpWidth line).2).outlines := by
  cases hl : Command.ofLine? line with
  | none => simp [Console.plainReply, Request.clears, hl, Transcript.editAll, Transcript.outlines]
  | some command =>
    cases command <;> simp [Console.plainReply, Request.clears, hl, Transcript.editAll,
      Transcript.edit, Transcript.clear, Transcript.outlines, Transcript.pushEcho,
      Transcript.pushFragment]

theorem clears_of_runs (runs : r.runs? = some (echo, code)) : r.clears = false := by
  cases r with
  | submit line =>
    cases hl : Command.ofLine? line with
    | none => simp [Request.runs?, hl] at runs
    | some command => cases command <;> simp_all [Request.runs?, Request.clears]
  | script code => rfl
  | transcript => rfl

/-- A request that is answered is answered what it comes to, and leaves its block. -/
theorem answered_comesTo (idle : t.pending = none) (sound : t.console.workspace.startup.Sound)
    (asks : t.request? e = some r) (submits : r ≠ .transcript) {text : Option String}
    (answered : t.Answered i e more text) :
    ∃ block, comesTo i t.console r = some (text, block) ∧
      (t.run i (e :: more)).console.transcript.outlines =
        (if r.clears then [] else t.console.transcript.outlines) ++ block := by
  cases hr : r.runs? with
  | some x =>
    obtain ⟨echo, code⟩ := x
    obtain ⟨report, comes, rfl, outlines⟩ :=
      completed idle sound asks hr answered
    refine ⟨_, by rw [comesTo_of_runs hr, comes, Option.map_some], ?_⟩
    rw [clears_of_runs hr]
    exact outlines
  | none =>
    cases r with
    | script code => contradiction
    | transcript => contradiction
    | submit line =>
      obtain ⟨input, replied⟩ := step_of_plain (i := i) idle asks hr
      have rest : (t.step i e).2.pending = none := by rw [replied]
      obtain ⟨dones, shown⟩ := idle_run (i := i) rest answered.waiting
      obtain told | told := List.mem_cons.mp answered.told
      · rw [replied] at told
        obtain rfl := Answer.replied.inj told
        refine ⟨_, comesTo_of_plain hr t.console, ?_⟩
        rw [run_cons, shown, replied]
        exact outlines_plain _ _ _
      · have := dones _ told
        contradiction

theorem exists_answered (idle : t.pending = none) (sound : t.console.workspace.startup.Sound)
    (asks : t.request? e = some r) (submits : r ≠ .transcript)
    (comes : comesTo i t.console r ≠ none) : ∃ more text, t.Answered i e more text := by
  cases hr : r.runs? with
  | some x =>
    obtain ⟨echo, code⟩ := x
    exact exists_completed idle sound asks hr (by simpa [comesTo_of_runs hr] using comes)
  | none =>
    cases r with
    | script code => contradiction
    | transcript => contradiction
    | submit line =>
      obtain ⟨input, replied⟩ := step_of_plain (i := i) idle asks hr
      have told : .replied (Console.plainReply t.console.helpWidth line).1 ∈ t.answers i [e] := by
        rw [answers, replied]
        exact List.mem_cons_self
      exact ⟨[], _, by simp, by simp, told⟩

/-- A request comes to the same at consoles that were made alike and have the slot free or held. -/
theorem comesTo_same {c d : Console} {resolve : String → Reply Unit}
    {evaluate : String → Reply (Option String)} (akin : c.Akin d)
    (verdict : c.workspace.startup.verdict = d.workspace.startup.verdict)
    (slot : c.workspace.plotter.slot.holder = none ↔ d.workspace.plotter.slot.holder = none)
    (blind : c.workspace.plotter.Blind resolve evaluate) (r : Request) :
    comesTo (.ofCode resolve evaluate) c r = comesTo (.ofCode resolve evaluate) d r := by
  cases hr : r.runs? with
  | some x =>
    have prospect := Workspace.prospect_same x.2 verdict akin.plotter slot (blind x.2)
    rw [comesTo_of_runs hr, comesTo_of_runs hr, prospect]
  | none =>
    cases r with
    | submit line => rw [comesTo_of_plain hr, comesTo_of_plain hr, akin.helpWidth]
    | script code => contradiction
    | transcript => rfl

/-- A request that is answered here would be answered the same there, and leave the same block. -/
theorem answered_same (idle : t.pending = none) (idle' : u.pending = none)
    (sound : t.console.workspace.startup.Sound) (sound' : u.console.workspace.startup.Sound)
    (asks : t.request? e = some r) {e' : Event} (asks' : u.request? e' = some r)
    (submits : r ≠ .transcript) (same : comesTo i t.console r = comesTo i u.console r)
    {text : Option String} (answered : t.Answered i e more text) : ∃ block,
      (t.run i (e :: more)).console.transcript.outlines =
        (if r.clears then [] else t.console.transcript.outlines) ++ block ∧
      (∃ more', u.Answered i e' more' text) ∧
      ∀ more' text', u.Answered i e' more' text' → text' = text ∧
        (u.run i (e' :: more')).console.transcript.outlines =
          (if r.clears then [] else u.console.transcript.outlines) ++ block := by
  obtain ⟨block, comes, left⟩ := answered_comesTo idle sound asks submits answered
  have there (more' : List Event) (text' : Option String) (h : u.Answered i e' more' text') :
      text' = text ∧ (u.run i (e' :: more')).console.transcript.outlines =
        (if r.clears then [] else u.console.transcript.outlines) ++ block := by
    obtain ⟨block', comes', left'⟩ := answered_comesTo idle' sound' asks' submits h
    rw [← same, comes] at comes'
    obtain ⟨rfl, rfl⟩ := Prod.mk.inj (Option.some.inj comes')
    exact ⟨rfl, left'⟩
  have comes' : comesTo i u.console r ≠ none := by simp [← same, comes]
  obtain ⟨more', text', h⟩ := exists_answered idle' sound' asks' submits comes'
  refine ⟨block, left, ⟨more', ?_⟩, there⟩
  obtain ⟨rfl, -⟩ := there more' text' h
  exact h

end Terminal

end Workpad
