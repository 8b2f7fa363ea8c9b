import Workpad.Proofs.Console.Prospect
import Workpad.Proofs.Run.Passage

/-!
A line of code and the same code run as a script. Both come to the same: only the echo, the history and
the input tell them apart. A script is run as code whatever it reads like.
-/
namespace Workpad

namespace Transcript
variable {id : TargetId} {f : Target → Target}

theorem length_changeFirst (id : TargetId) (f : Target → Target) (es : List Entry) :
    (changeFirst id f es).length = es.length := by
  induction es with
  | nil => rfl
  | cons e es ih =>
    cases e with
    | target x => by_cases hx : x.id = id <;> simp [changeFirst, hx, ih]
    | echo _ | fragment _ => simp [changeFirst, ih]

/-- The target is in the first part or it is looked for behind it, whatever stands there. -/
theorem changeFirst_append (id : TargetId) (f : Target → Target) (es : List Entry) :
    (∀ rest, changeFirst id f (es ++ rest) = changeFirst id f es ++ rest) ∨
      ∀ rest, changeFirst id f (es ++ rest) = es ++ changeFirst id f rest := by
  induction es with
  | nil => exact .inr fun rest => rfl
  | cons e es ih =>
    cases e with
    | target x =>
      by_cases hx : x.id = id
      · exact .inl fun rest => by simp [changeFirst, hx]
      · exact ih.imp (fun h rest => by simp [changeFirst, hx, h]) fun h rest => by
          simp [changeFirst, hx, h]
    | echo _ | fragment _ =>
      exact ih.imp (fun h rest => by simp [changeFirst, h]) fun h rest => by simp [changeFirst, h]

/-- Edits behind an echo do the same whatever it reads, unless they clear the transcript. -/
theorem exists_editAll_echo (t : Transcript) (es : List Edit) (kept : .clear ∉ es) :
    ∃ before behind, before.length = t.entries.length ∧
      ∀ echo, ((t.pushEcho echo).editAll es).entries = before ++ .echo echo :: behind := by
  -- from the last edit: it adds behind the echo or changes one target, before the echo or behind it
  induction es using List.reverseRecOn with
  | nil => exact ⟨t.entries, [], rfl, fun echo => rfl⟩
  | append_singleton es e ih =>
    obtain ⟨before, behind, length, entries⟩ := ih fun h => kept (List.mem_append_left _ h)
    have last (echo : String) : (t.pushEcho echo).editAll (es ++ [e]) =
        ((t.pushEcho echo).editAll es).edit e := by simp [Transcript.editAll]
    simp only [last]
    have more (x : Entry) (echo : String) : ((t.pushEcho echo).editAll es).entries ++ [x] =
        before ++ .echo echo :: (behind ++ [x]) := by
      rw [entries, List.append_assoc, List.cons_append]
    cases e with
    | echo line => exact ⟨before, behind ++ [Entry.echo line], length, more _⟩
    | fragment text => exact ⟨before, behind ++ [Entry.fragment text], length, more _⟩
    | attach target => exact ⟨before, behind ++ [Entry.target target], length, more _⟩
    | change id f =>
      obtain here | later := changeFirst_append id f before
      · refine ⟨changeFirst id f before, behind,
          (length_changeFirst id f before).trans length, fun echo => ?_⟩
        rw [edit, changeTarget, entries, here]
      · refine ⟨before, changeFirst id f behind, length, fun echo => ?_⟩
        rw [edit, changeTarget, entries, later]
        rfl
    | clear => exact absurd (List.mem_append_right _ List.mem_cons_self) kept

end Transcript

/-- The run has the slot if it plots. -/
def Phase.isUnderway : Phase → Bool
  | .resolving | .evaluating => true
  | _ => false

namespace Workspace

/-- What a run of code has done to the transcript of the workspace that it began on. -/
def marks (b : Workspace) (code : String) (phase : Phase) : List Transcript.Edit :=
  let id := b.plotter.nextId
  if b.plotsNow code then
    match phase with
    | .awaiting | .refused => []
    | .resolving | .evaluating => [.attach { id }]
    | .concluded _ _ => [.attach { id }, .change id (Target.relabel b.plotter.icons)]
  else []

theorem transcript_on (p : Passage) (b : Workspace) (code : String) :
    (p.on b code).2.transcript = b.transcript.editAll (b.marks code p.phase) := by
  obtain ⟨phase, startup, sinks⟩ := p
  have prepared := Plotter.prepare_eq b.plotter code b.transcript
  by_cases h : b.plotsNow code
  · rw [if_pos h] at prepared
    cases phase <;>
      simp only [Passage.on, marks, handing, handled, concluded, prepared, if_pos h] <;> rfl
  · rw [if_neg h] at prepared
    cases phase <;>
      simp only [Passage.on, marks, handing, handled, concluded, prepared, if_neg h] <;> rfl

theorem slot_on (p : Passage) (b : Workspace) (code : String) : (p.on b code).2.plotter.slot =
    if b.plotsNow code ∧ p.phase.isUnderway = true then ⟨some b.plotter.nextId⟩
    else b.plotter.slot := by
  obtain ⟨phase, startup, sinks⟩ := p
  have prepared := Plotter.prepare_eq b.plotter code b.transcript
  by_cases h : b.plotsNow code
  · rw [if_pos h] at prepared
    cases phase with
    | awaiting | refused => simp [Passage.on, Phase.isUnderway]
    | resolving | evaluating => simp [Passage.on, handing, handled, prepared, h, Phase.isUnderway]
    | concluded report evaluated =>
      have free : b.plotter.slot = ⟨none⟩ := congrArg Slot.mk h.2
      simp [Passage.on, concluded, prepared, Plotter.finish, Plotter.abandon, Slot.release,
        Phase.isUnderway, free]
  · rw [if_neg h] at prepared
    rw [if_neg fun both => h both.1]
    cases phase <;> simp [Passage.on, handing, handled, concluded, prepared, Plotter.finish]

end Workspace

def Phase.told (phase : Phase) : Terminal.Answer :=
  match phase.report? with
  | some report => .replied (some report.fragment)
  | none => .pending

namespace Passage

def step (own : Nat) (r : Replies) (p : Passage) : Terminal.Event → Passage
  | .look => p.look own r
  | .request => { p with startup := p.startup.request }
  | .allowFinish => { p with startup := p.startup.allowFinish }
  | .load => { p with startup := p.startup.work }
  | .write buffer chunk => { p with sinks := p.sinks.write buffer chunk }
  | .emit chunk => { p with sinks := p.sinks.writeInstalled chunk }
  | _ => p

def shows (own : Nat) (r : Replies) (p : Passage) : Terminal.Event → Terminal.Answer
  | .look => if p.phase.report?.isSome then .done else (p.look own r).phase.told
  | _ => .done

def run (own : Nat) (r : Replies) (p : Passage) (es : List Terminal.Event) : Passage :=
  es.foldl (step own r) p

def answers (own : Nat) (r : Replies) : Passage → List Terminal.Event → List Terminal.Answer
  | _, [] => []
  | p, e :: es => p.shows own r e :: answers own r (p.step own r e) es

def Makes (own : Nat) (p : Passage) : Prop := p.phase = .awaiting → p.sinks.next = own

end Passage

def Console.shown (b : Console) (code : String) (p : Passage) : Terminal :=
  (Terminal.ofStanding (b.settle (p.on b.workspace code))).2

namespace Passage
variable {i : Interpreter} {b : Console} {code : String} {p : Passage} {own : Nat} {r : Replies}
variable {e : Terminal.Event}

theorem look_eq_of_awaiting (h : (p.look own r).phase = .awaiting) : p.look own r = p := by
  obtain ⟨phase, startup, sinks⟩ := p
  cases phase with
  | awaiting =>
    cases hq : startup.settled? with
    | none => simp [look, hq]
    | some status => cases hr : status.isReady && startup.hasInterpreter <;> simp [look, hq, hr] at h
  | resolving =>
    cases ha : r.resolution.answer with
    | none => simp [look, ha]
    | some answer => cases answer <;> simp [look, ha, conclude] at h
  | evaluating =>
    cases ha : r.evaluation.answer with
    | none => simp [look, ha]
    | some answer => simp [look, ha, conclude] at h
  | refused | concluded report evaluated => rfl

theorem next_writeInstalled (s : Sinks) (chunk : Chunk) : (s.writeInstalled chunk).next = s.next := by
  cases h : s.installed? chunk.stream <;> simp [Sinks.writeInstalled, h]

theorem Makes.look (h : p.Makes own) : (p.look own r).Makes own := by
  intro awaiting
  have stays := look_eq_of_awaiting awaiting
  rw [stays] at awaiting ⊢
  exact h awaiting

theorem Makes.step (h : p.Makes own) : (p.step own r e).Makes own := by
  cases e with
  | look => exact h.look
  | write buffer chunk => exact fun awaiting => (Sinks.next_write _ _ _).trans (h awaiting)
  | emit chunk => exact fun awaiting => (next_writeInstalled _ _).trans (h awaiting)
  | _ => exact h

theorem told_eq (b : Console) (code : String) (p : Passage) :
    (Terminal.ofStanding (b.settle (p.on b.workspace code))).1 = p.phase.told := by
  obtain ⟨phase, startup, sinks⟩ := p
  cases phase <;> rfl

theorem look_shown (makes : p.Makes b.workspace.sinks.next) :
    let r := b.workspace.replies i code
    (b.shown code p).look i =
      (p.shows b.workspace.sinks.next r .look, b.shown code (p.look b.workspace.sinks.next r)) := by
  intro r
  have goes := further_on (i := i) code makes
  have told := told_eq b code (p.look b.workspace.sinks.next r)
  have looked : (b.shown code p).look i =
      if p.phase.report?.isSome then (.done, b.shown code p)
      else Terminal.ofStanding (b.settle (Workspace.further i (p.on b.workspace code))) := by
    obtain ⟨phase, startup, sinks⟩ := p
    cases phase <;> rfl
  rw [looked, goes, shows]
  split
  next ended =>
    have same : p.look b.workspace.sinks.next r = p := by
      obtain ⟨phase, startup, sinks⟩ := p
      cases phase with
      | refused | concluded report evaluated => rfl
      | _ => contradiction
    rw [same]
  next => exact Prod.ext told rfl

theorem step_shown (code : String) (makes : p.Makes b.workspace.sinks.next) (waiting : e.isWaiting = true) :
    let r := b.workspace.replies i code
    (b.shown code p).step i e =
      (p.shows b.workspace.sinks.next r e, b.shown code (p.step b.workspace.sinks.next r e)) := by
  intro r
  cases e with
  | look => exact look_shown makes
  | request | allowFinish | load | write buffer chunk =>
    refine Prod.ext rfl ?_
    obtain ⟨phase, startup, sinks⟩ := p
    cases phase <;> rfl
  | emit chunk =>
    refine Prod.ext rfl ?_
    obtain ⟨phase, startup, sinks⟩ := p
    simp only [Terminal.step, Terminal.meanwhile, Workspace.writeInstalled_eq]
    cases phase <;> rfl
  | _ => contradiction

theorem run_shown (code : String) (makes : p.Makes b.workspace.sinks.next) {es : List Terminal.Event}
    (waiting : ∀ e ∈ es, e.isWaiting = true) :
    let r := b.workspace.replies i code
    (b.shown code p).run i es = b.shown code (p.run b.workspace.sinks.next r es) ∧
      (b.shown code p).answers i es = p.answers b.workspace.sinks.next r es := by
  intro r
  -- the passage is general: every event leaves one that still makes the buffer of this number
  induction es generalizing p with
  | nil => exact ⟨rfl, rfl⟩
  | cons e es ih =>
    obtain ⟨here, later⟩ := List.forall_mem_cons.mp waiting
    have step := step_shown (i := i) code makes here
    obtain ⟨run, answers⟩ := ih (makes.step (r := r) (e := e)) later
    rw [Terminal.run_cons, Terminal.answers, step]
    exact ⟨run, congrArg (List.cons _) answers⟩

end Passage

namespace Workspace

def passage (i : Interpreter) (w : Workspace) (code : String) (es : List Terminal.Event) :
    List Terminal.Answer × Passage :=
  let own := w.sinks.next
  let r := w.replies i code
  let p : Passage := { startup := w.startup.request, sinks := w.sinks }
  let p := p.look own r
  (p.phase.told :: p.answers own r es, p.run own r es)

/-- The passage goes by the load, the buffers and the replies. -/
theorem passage_congr {i : Interpreter} {w w' : Workspace} {code : String}
    (startup : w.startup = w'.startup) (sinks : w.sinks = w'.sinks)
    (replies : w.replies i code = w'.replies i code) (es : List Terminal.Event) :
    w.passage i code es = w'.passage i code es := by
  rw [passage, passage, startup, sinks, replies]

theorem replies_retold (i : Interpreter) (w : Workspace) (code : String) (t : Transcript) :
    ({ w with transcript := t } : Workspace).replies i code = w.replies i code := by
  simp only [replies, resolving, evaluating, job_retold]

end Workspace

structure Console.Reaches (c : Console) (r : Request) (echo code : String) (phase : Phase)
    (d : Console) : Prop where
  calls : d.workspace.calls = c.workspace.calls ++ phase.calls (c.workspace.job code)
  slot : d.workspace.plotter.slot =
    if c.workspace.plotsNow code ∧ phase.isUnderway = true then ⟨some c.workspace.plotter.nextId⟩
    else c.workspace.plotter.slot
  transcript : d.transcript = (c.transcript.pushEcho echo).editAll (c.workspace.marks code phase ++
    (phase.report?.map fun report => .fragment report.fragment).toList)
  history : d.history = r.line?.elim c.history fun line => (c.history.push line).2
  input : d.input = r.line?.elim c.input fun _ => ""

namespace Console
variable {i : Interpreter} {c : Console} {r : Request} {echo code : String}

theorem reaches_shown (c : Console) (r : Request) (echo code : String) (p : Passage) :
    c.Reaches r echo code p.phase ((c.begun r echo).shown code p).console := by
  have transcript := Workspace.transcript_on p (c.begun r echo).workspace code
  have slot := Workspace.slot_on p (c.begun r echo).workspace code
  have calls := Workspace.calls_on p (c.begun r echo).workspace code
  have ended := Workspace.report?_on p (c.begun r echo).workspace code
  have job : (c.begun r echo).workspace.job code = c.workspace.job code :=
    Workspace.job_retold c.workspace code _
  rw [job] at calls
  rw [shown]
  generalize p.on (c.begun r echo).workspace code = x at transcript slot calls ended ⊢
  obtain ⟨stage | report, w⟩ := x
  · refine ⟨calls, slot, ?_, rfl, rfl⟩
    rw [← ended, Progress.report?, Option.map_none, Option.toList_none, List.append_nil]
    exact transcript
  · refine ⟨calls, slot, ?_, rfl, rfl⟩
    have last (t : Transcript) (es : List Transcript.Edit) (text : String) :
        t.editAll (es ++ [.fragment text]) = (t.editAll es).pushFragment text := by
      simp [Transcript.editAll, Transcript.edit]
    rw [← ended, Progress.report?, Option.map_some, Option.toList_some, last]
    exact congrArg (Transcript.pushFragment · report.fragment) transcript

end Console

namespace Terminal
variable {i : Interpreter} {t : Terminal} {e : Event} {r : Request} {echo code : String}

/-- A request for code, and all that it shows. -/
theorem run_request (idle : t.pending = none) (asks : t.request? e = some r)
    (runs : r.runs? = some (echo, code)) {more : List Event}
    (waiting : ∀ e ∈ more, e.isWaiting = true) :
    let passage := t.console.workspace.passage i code more
    t.answers i (e :: more) = passage.1 ∧
      t.run i (e :: more) = (t.console.begun r echo).shown code passage.2 := by
  intro passage
  let b := t.console.begun r echo
  let p : Passage :=
    { startup := t.console.workspace.startup.request, sinks := t.console.workspace.sinks }
  have replies : b.workspace.replies i code = t.console.workspace.replies i code :=
    Workspace.replies_retold i t.console.workspace code _
  have makes : p.Makes b.workspace.sinks.next := fun _ => rfl
  have first : b.workspace.start i code =
      (p.look b.workspace.sinks.next (b.workspace.replies i code)).on b.workspace code :=
    Passage.further_on code makes
  have step := step_of_request (i := i) idle asks runs
  rw [Console.start_of_runs i runs, first] at step
  obtain ⟨run, answers⟩ := Passage.run_shown (i := i) (b := b) code
    (makes.look (r := b.workspace.replies i code)) waiting
  rw [run_cons, Terminal.answers, step]
  rw [replies] at run answers ⊢
  exact ⟨congrArg₂ List.cons (Passage.told_eq b code _) answers, run⟩

/-- The same code at consoles with the same load, the same buffers and the same replies to it. -/
theorem run_alike {u : Terminal} {f : Event} {r' : Request} {echo' : String}
    (idle : t.pending = none) (idle' : u.pending = none) (asks : t.request? e = some r)
    (asks' : u.request? f = some r') (runs : r.runs? = some (echo, code))
    (runs' : r'.runs? = some (echo', code))
    (startup : t.console.workspace.startup = u.console.workspace.startup)
    (sinks : t.console.workspace.sinks = u.console.workspace.sinks)
    (replies : t.console.workspace.replies i code = u.console.workspace.replies i code)
    {more : List Event} (waiting : ∀ e ∈ more, e.isWaiting = true) :
    t.answers i (e :: more) = u.answers i (f :: more) ∧ ∃ p : Passage,
      t.run i (e :: more) = (t.console.begun r echo).shown code p ∧
        u.run i (f :: more) = (u.console.begun r' echo').shown code p := by
  obtain ⟨answers, run⟩ := run_request (i := i) idle asks runs waiting
  obtain ⟨answers', run'⟩ := run_request (i := i) idle' asks' runs' waiting
  rw [← Workspace.passage_congr startup sinks replies] at answers' run'
  exact ⟨answers.trans answers'.symm, _, run, run'⟩

end Terminal

def Console.withSupply (c : Console) (supply : Supply) : Console :=
  let plotter := { c.workspace.plotter with supply }
  { c with workspace := { c.workspace with plotter } }

namespace Workspace

/-- A run does not empty the transcript. -/
theorem clear_not_mem_edits (b : Workspace) (code : String) (phase : Phase) :
    .clear ∉ b.marks code phase ++
      (phase.report?.map fun report => .fragment report.fragment).toList := by
  unfold marks
  split <;> cases phase <;> simp [Phase.report?]

end Workspace

theorem Command.code_of_ofLine? {line code : String} (h : ofLine? line = some (.code code)) :
    code = line := by
  obtain ⟨token, rest, first⟩ := exists_firstWord (Text.trim line.toList)
  rw [ofLine?_eq first] at h
  split_ifs at h <;> simp only [Option.some.injEq, reduceCtorEq, Command.code.injEq] at h
  exact h.symm

namespace Console

/-- Which request it was, and what it showed first, makes no difference but in the transcript. -/
theorem shown_begun (c : Console) (code : String) (r r' : Request) (echo echo' : String) (p : Passage) :
    let t := (c.begun r echo).shown code p
    let u := (c.begun r' echo').shown code p
    t.pending = u.pending ∧ u.console.workspace =
      { t.console.workspace with transcript := u.console.transcript } := by
  intro t u
  obtain ⟨v, retold⟩ := Workspace.on_retold p (c.begun r echo).workspace code
    (c.transcript.pushEcho echo')
  have other : u = (Terminal.ofStanding ((c.begun r' echo').settle
      ((p.on (c.begun r echo).workspace code).1,
        { (p.on (c.begun r echo).workspace code).2 with transcript := v }))).2 :=
    congrArg (fun x => (Terminal.ofStanding ((c.begun r' echo').settle x)).2) retold
  rw [other]
  simp only [t, shown]
  generalize p.on (c.begun r echo).workspace code = x
  obtain ⟨stage | report, w⟩ := x <;> exact ⟨rfl, rfl⟩

theorem startup_shown (b : Console) (code : String) (p : Passage) :
    (b.shown code p).console.workspace.startup = p.startup ∧
      (b.shown code p).console.workspace.sinks = p.sinks := by
  have parts := Workspace.startup_on p b.workspace code
  rw [shown]
  generalize p.on b.workspace code = x at parts ⊢
  obtain ⟨stage | report, w⟩ := x <;> exact parts

end Console

namespace Terminal

/-- A line of code that is entered at the console, and the same code run as a script from the same
state. While one waits, both show the same, the same calls are made of the interpreter, and load, slot
and buffers are the same; the transcripts are the same but for one echo. With other ids to come, and an
interpreter that replies the same to the code that has such an id in it, only the ids differ. A script
leaves history and input alone; whatever it reads like, be it nothing or a command, it comes to what the
interpreter makes of it as code. -/
theorem script_runs_as_line (s : Settings) {w : Workspace} (startup : w.startup.Reachable)
    (i : Interpreter) (es : List Event) :
    let t := run i { console := .ofSettings s w } es
    let c := t.console
    t.pending = none →
    (∀ line code more, Command.ofLine? line = some (.code code) → (∀ e ∈ more, e.isWaiting = true) →
      let typed := t.run i (.ask (.submit line) :: more)
      let script := t.run i (.ask (.script line) :: more)
      t.answers i (.ask (.submit line) :: more) = t.answers i (.ask (.script line) :: more) ∧
      typed.pending = script.pending ∧
      script.console.workspace =
        { typed.console.workspace with transcript := script.console.transcript } ∧
      (∃ before behind, before.length = c.transcript.entries.length ∧
        typed.console.transcript.entries = before ++ .echo (prompt ++ line) :: behind ∧
        script.console.transcript.entries = before ++ .echo runningMessage :: behind) ∧
      ∀ supply, (c.withSupply supply).workspace.replies i line = c.workspace.replies i line →
        let other : Terminal := { console := c.withSupply supply }
        let script := other.run i (.ask (.script line) :: more)
        t.answers i (.ask (.submit line) :: more) = other.answers i (.ask (.script line) :: more) ∧
        typed.console.workspace.startup = script.console.workspace.startup ∧
        typed.console.workspace.sinks = script.console.workspace.sinks ∧
        ∃ phase, c.Reaches (.submit line) (prompt ++ line) line phase typed.console ∧
          (c.withSupply supply).Reaches (.script line) runningMessage line phase script.console) ∧
    ∀ code, (∀ more, (∀ e ∈ more, e.isWaiting = true) → ∃ phase,
        c.Reaches (.script code) runningMessage code phase
          (t.run i (.ask (.script code) :: more)).console) ∧
      (∀ more text, t.Answered i (.ask (.script code)) more text → ∃ report,
        (c.workspace.prospect i code).1 = some report ∧ text = some report.fragment) ∧
      ((c.workspace.prospect i code).1 ≠ none →
        ∃ more text, t.Answered i (.ask (.script code)) more text) := by
  intro t c idle
  have sound : t.console.workspace.startup.Sound := sound_run startup.sound es
  refine ⟨fun line code more reads waiting => ?_, fun code => ⟨fun more waiting => ?_,
    fun more text answered => ?_, fun comes => ?_⟩⟩
  · obtain rfl := Command.code_of_ofLine? reads
    have runs : Request.runs? (.submit code) = some (prompt ++ code, code) := by
      simp [Request.runs?, reads]
    obtain ⟨answers, p, typed, script⟩ := run_alike (i := i) (e := .ask (.submit code))
      (f := .ask (.script code)) idle idle rfl rfl runs rfl rfl rfl rfl waiting
    have reaches := c.reaches_shown (.submit code) (prompt ++ code) code
    obtain ⟨pending, workspace⟩ :=
      c.shown_begun code (.submit code) (.script code) (prompt ++ code) runningMessage p
    obtain ⟨before, behind, length, entries⟩ :=
      c.transcript.exists_editAll_echo _ (c.workspace.clear_not_mem_edits code p.phase)
    refine ⟨answers, by rw [typed, script, pending], by rw [typed, script, workspace],
      ⟨before, behind, length, ?_, ?_⟩, fun supply replies => ?_⟩
    · rw [typed, (reaches p).transcript, entries]
    · have reaches' := c.reaches_shown (.script code) runningMessage code p
      rw [script, reaches'.transcript, entries]
    · let d := c.withSupply supply
      obtain ⟨answers', q, typed', script'⟩ := run_alike (i := i) (e := .ask (.submit code))
        (f := .ask (.script code)) (u := { console := d }) idle rfl rfl rfl runs rfl rfl rfl
        replies.symm waiting
      have load := (c.begun (.submit code) (prompt ++ code)).startup_shown code q
      have load' := (d.begun (.script code) runningMessage).startup_shown code q
      refine ⟨answers', ?_, ?_, q.phase, ?_, ?_⟩
      · rw [typed', script', load.1, load'.1]
      · rw [typed', script', load.2, load'.2]
      · rw [typed']
        exact reaches q
      · rw [script']
        exact d.reaches_shown (.script code) runningMessage code q
  · obtain ⟨-, run⟩ := run_request (i := i) (e := .ask (.script code)) idle rfl rfl waiting
    rw [run]
    exact ⟨_, Console.reaches_shown c (.script code) runningMessage code _⟩
  · obtain ⟨report, comes, told, -⟩ := completed idle sound rfl rfl answered
    exact ⟨report, comes, told⟩
  · exact exists_completed idle sound rfl rfl comes

/-- A plot by line and by script, and a script that reads like a command. -/
theorem script_runs_as_line_plot :
    let w : Workspace := .ofSettings {} .numbered (fun _ => .ready) true {}
    let i : Interpreter := .ofCode (fun _ => { answer := some (.ok ()) })
      fun _ => { answer := some (.ok (some "drawn")) }
    let new : Terminal := { console := .ofSettings {} w }
    let line := "import matplotlib"
    let more : List Event := [.load, .load, .load, .load, .look, .look, .look]
    let typed := new.run i (.ask (.submit line) :: more)
    let script := new.run i (.ask (.script line) :: more)
    Command.ofLine? line = some (.code line) ∧
      new.answers i (.ask (.submit line) :: more) = new.answers i (.ask (.script line) :: more) ∧
      typed.console.workspace.calls = script.console.workspace.calls ∧
      .replied (some "<-- drawn") ∈ new.answers i (.ask (.script line) :: more) ∧
      Command.ofLine? "clear" = some .clear ∧
      ∃ more text, new.Answered i (.ask (.script "clear")) more text := by
  intro w i new line more typed script
  have reads : Command.ofLine? line = some (.code line) := by decide +kernel
  have agree := script_runs_as_line {} (w := w) (.new _ _ _) i [] rfl
  obtain ⟨answers, -, workspace, -⟩ := agree.1 line line more reads (by decide)
  have comes : (new.console.workspace.prospect i "clear").1 ≠ none := by decide +kernel
  refine ⟨reads, answers, ?_, by decide +kernel, by decide +kernel, (agree.2 "clear").2.2 comes⟩
  exact (congrArg Workspace.calls workspace).symm

end Terminal

end Workpad
