import Workpad.Console.Session
import Workpad.Proofs.Console.Command
import Workpad.Proofs.Run.Handling

/-!
The transcript of a session is its log: what each turn has left since the last clearing, one after
another.
-/
namespace Workpad

namespace Workspace
variable {w : Workspace} {mayFinish : Bool}

/-- The target that running code leaves in the transcript: one if the interpreter is there in the end
and the code plots. -/
def plots (w : Workspace) (code : String) : List Entry :=
  if w.startup.ensure.1 = some .ready ∧ w.plotter.detects code = true then
    [.target { id := w.plotter.nextId }]
  else []

structure Tidy (mayFinish : Bool) (w : Workspace) : Prop where
  sound : w.startup.Sound
  gate : w.startup.mayFinish = mayFinish
  fresh : w.plotter.Fresh w.transcript

theorem Tidy.ensured (h : w.Tidy mayFinish) : w.ensured.Tidy mayFinish :=
  ⟨h.sound.request.runTasks, (Startup.mayFinish_ensure w.startup).trans h.gate, h.fresh⟩

theorem entries_prepare (free : w.plotter.slot.holder = none) (code : String)
    (there : w.startup.ensure.1 = some .ready) :
    (w.plotter.prepare code w.transcript).2.2.entries = w.transcript.entries ++ w.plots code := by
  cases hd : w.plotter.detects code with
  | true => simp [Plotter.prepare_of_detects free hd, Transcript.attachTarget, plots, there, hd]
  | false => simp [Plotter.prepare_of_not_detects hd, plots, hd]

/-- Running code leaves a target or nothing, however it ends. -/
theorem Tidy.runOrCancel (h : w.Tidy mayFinish) (i : Interpreter) (code : String) :
    (w.runOrCancel i code).2.Tidy mayFinish ∧
      (w.runOrCancel i code).2.transcript.entries = w.transcript.entries ++ w.plots code := by
  cases hq : w.startup.ensure.1 with
  | none =>
    rw [runOrCancel_waiting hq]
    exact ⟨h.ensured, by simp [plots, hq, Workspace.ensured, withStartup]⟩
  | some status =>
    by_cases hs : status = .ready
    · subst hs
      obtain ⟨sinks, hrun⟩ := runOrCancel_ready i code h.sound h.fresh hq
      rw [hrun]
      exact ⟨⟨h.ensured.sound, h.ensured.gate, h.fresh.after code⟩,
        entries_prepare h.fresh.free code hq⟩
    · rw [runOrCancel_refused hq hs]
      exact ⟨h.ensured, by simp [plots, hq, hs, Workspace.ensured, withStartup]⟩

/-- With a loader that may finish and an interpreter that answers, no run gets stuck. -/
theorem Tidy.runOrCancel_ne_none (h : w.Tidy true) {i : Interpreter} (answers : i.Answers)
    (code : String) : (w.runOrCancel i code).1 ≠ none := by
  cases hq : w.startup.ensure.1 with
  | none => exact (Startup.ensure_of_mayFinish h.sound h.gate hq).elim
  | some status =>
    by_cases hs : status = .ready
    · subst hs
      obtain ⟨sinks, hrun⟩ := runOrCancel_ready i code h.sound h.fresh hq
      rw [hrun]
      exact answers.report?_handle _ _
    · simp [runOrCancel_refused hq hs]

/-- Texts in the transcript are no targets. -/
theorem Tidy.texts (h : w.Tidy mayFinish) {t : Transcript} (es : List Entry)
    (ht : t.entries = w.transcript.entries ++ es) (hes : es.filterMap Entry.target? = []) :
    Tidy mayFinish { w with transcript := t } := by
  refine ⟨h.sound, h.gate, h.fresh.edit ?_⟩
  simp [Transcript.targets, ht, hes]

end Workspace

namespace Console
variable {c : Console} {i : Interpreter} {mayFinish : Bool}

def line? (c : Console) : Action → Option String
  | .submit line => some line
  | .enter => some c.input
  | _ => none

def clears (c : Console) (a : Action) : Bool :=
  (c.line? a).bind Command.ofLine? == some .clear

def lineHeading (c : Console) (line : String) : List Entry :=
  match Command.ofLine? line with
  | none | some .clear => []
  | some .help | some (.echo _) => [.echo (prompt ++ line)]
  | some (.code code) => .echo (prompt ++ line) :: c.workspace.plots code

def heading (c : Console) : Action → List Entry
  | .submit line => c.lineHeading line
  | .enter => c.lineHeading c.input
  | .script code => .echo runningMessage :: c.workspace.plots code
  | .announce | .setInput _ | .recallPrevious | .recallNext => []

def Effect.text? : Effect → Option String
  | .replied text => text
  | .announced status => some (announcement status)
  | .input _ | .cancelled => none

def block (i : Interpreter) (c : Console) (a : Action) : List Entry :=
  c.heading a ++ ((c.act i a).1.text?.map .fragment).toList

def turns (i : Interpreter) : Console → List Action → List (Console × Action)
  | _, [] => []
  | c, a :: as => (c, a) :: turns i (c.act i a).2 as

def conclude (c : Console) : Option Report × Workspace → Option (Option String) × Console
  | (none, w) => (none, { c with workspace := w })
  | (some report, w) =>
    (some (some report.fragment),
      { c with workspace := w }.mapTranscript fun t => t.pushFragment report.fragment)

theorem performOrCancel_of_reply {r : Request} {text : Option String} {d : Console}
    (h : c.accept r = (.reply text, d)) : c.performOrCancel i r = (some text, d) := by
  simp [performOrCancel, perform, h]

theorem performOrCancel_of_code {r : Request} {code : String} {d : Console}
    (h : c.accept r = (.code code, d)) :
    c.performOrCancel i r = d.conclude (d.workspace.runOrCancel i code) := by
  simp only [performOrCancel, perform, h, Workspace.runOrCancel]
  generalize d.workspace.run i code = x
  obtain ⟨stage | report, w⟩ := x <;> rfl

theorem accept_of_code {line code : String} (h : Command.ofLine? line = some (.code code)) :
    c.accept (.submit line) =
      (.code code, (c.record line).mapTranscript fun t => t.pushEcho (prompt ++ line)) := by
  simp [accept, h]

theorem tidy_of_echo (tidy : c.workspace.Tidy mayFinish) {echo : String} {d : Console}
    (hd : d.workspace = { c.workspace with transcript := c.transcript.pushEcho echo }) :
    d.workspace.Tidy mayFinish := by
  rw [hd]
  exact tidy.texts [.echo echo] rfl rfl

/-- Code behind its echo leaves the echo, a target if it plots, and its fragment if it ends. -/
theorem ask_of_code (tidy : c.workspace.Tidy mayFinish) {r : Request} {code echo : String}
    {d : Console} (h : c.accept r = (.code code, d))
    (hd : d.workspace = { c.workspace with transcript := c.transcript.pushEcho echo }) :
    (c.ask i r).2.workspace.Tidy mayFinish ∧
      (c.ask i r).2.transcript.entries = c.transcript.entries ++
        (.echo echo :: c.workspace.plots code ++
          ((c.ask i r).1.text?.map Entry.fragment).toList) := by
  obtain ⟨ended, entries⟩ := (tidy_of_echo tidy hd).runOrCancel i code
  have plots : d.workspace.plots code = c.workspace.plots code := by rw [hd]; rfl
  have echoed : d.workspace.transcript.entries = c.transcript.entries ++ [.echo echo] := by
    rw [hd]
    rfl
  rw [plots, echoed] at entries
  rw [ask, performOrCancel_of_code h]
  generalize d.workspace.runOrCancel i code = x at ended entries ⊢
  obtain ⟨_ | report, w⟩ := x
  · refine ⟨ended, ?_⟩
    simpa [conclude, Effect.ofReply, Effect.text?, transcript] using entries
  · refine ⟨ended.texts [.fragment report.fragment] rfl rfl, ?_⟩
    have entries : w.transcript.entries = _ := entries
    simp [conclude, Effect.ofReply, Effect.text?, transcript, mapTranscript,
      Transcript.pushFragment, entries]

theorem tidy_respond (tidy : c.workspace.Tidy mayFinish) (line reply : String) :
    ((c.record line).respond line reply).workspace.Tidy mayFinish ∧
      ((c.record line).respond line reply).transcript.entries =
        c.transcript.entries ++ [.echo (prompt ++ line), .fragment reply] := by
  have entries : ((c.record line).respond line reply).transcript.entries =
      c.transcript.entries ++ [.echo (prompt ++ line), .fragment reply] := by
    simp [respond, record, mapTranscript, transcript, Transcript.pushEcho,
      Transcript.pushFragment, Transcript.tell]
  exact ⟨tidy.texts _ entries rfl, entries⟩

/-- A line leaves its heading and its reply, unless it clears the transcript. -/
theorem ask_submit (tidy : c.workspace.Tidy mayFinish) (line : String) :
    (c.ask i (.submit line)).2.workspace.Tidy mayFinish ∧
      (c.ask i (.submit line)).2.transcript.entries =
        if Command.ofLine? line = some .clear then []
        else c.transcript.entries ++ (c.lineHeading line ++
          ((c.ask i (.submit line)).1.text?.map Entry.fragment).toList) := by
  cases hl : Command.ofLine? line with
  | none =>
    have ha : c.accept (.submit line) = (.reply none, c) := by simp [accept, hl]
    rw [ask, performOrCancel_of_reply ha]
    exact ⟨tidy, by simp [lineHeading, hl, Effect.ofReply, Effect.text?]⟩
  | some command =>
    cases command with
    | clear =>
      have ha : c.accept (.submit line) =
          (.reply none, (c.record line).mapTranscript fun t => t.clear.2) := by simp [accept, hl]
      rw [ask, performOrCancel_of_reply ha]
      exact ⟨⟨tidy.sound, tidy.gate, tidy.fresh.edit (List.nil_subset _)⟩, rfl⟩
    | help =>
      have ha : c.accept (.submit line) = (.reply (some (HelpTable.render c.helpWidth)),
          (c.record line).respond line (HelpTable.render c.helpWidth)) := by simp [accept, hl]
      rw [ask, performOrCancel_of_reply ha]
      simpa [lineHeading, hl, Effect.ofReply, Effect.text?] using
        tidy_respond tidy line (HelpTable.render c.helpWidth)
    | echo text =>
      have ha : c.accept (.submit line) =
          (.reply (some text), (c.record line).respond line text) := by simp [accept, hl]
      rw [ask, performOrCancel_of_reply ha]
      simpa [lineHeading, hl, Effect.ofReply, Effect.text?] using
        tidy_respond tidy line text
    | code code =>
      simpa [lineHeading, hl] using ask_of_code (i := i) tidy (accept_of_code hl) rfl

theorem announce_leaves (tidy : c.workspace.Tidy mayFinish) :
    (c.act i .announce).2.workspace.Tidy mayFinish ∧ (c.act i .announce).2.transcript.entries =
      c.transcript.entries ++ c.block i .announce := by
  have ensured := tidy.ensured
  cases hq : c.workspace.startup.ensure.1 with
  | none =>
    have ha : c.act i .announce = (.cancelled, { c with workspace := c.workspace.ensured }) := by
      simp only [act, announce, hq]
      rfl
    rw [block, ha]
    exact ⟨ensured, (List.append_nil _).symm⟩
  | some status =>
    have ha : c.act i .announce = (.announced status,
        { c with workspace := c.workspace.ensured }.mapTranscript
          fun t => t.pushFragment (announcement status)) := by
      simp only [act, announce, hq]
      rfl
    rw [block, ha]
    exact ⟨ensured.texts [.fragment (announcement status)] rfl rfl, rfl⟩

theorem clears_iff {a : Action} {line : String} (h : c.line? a = some line) :
    c.clears a = true ↔ Command.ofLine? line = some .clear := by
  simp [clears, h]

/-- What one turn leaves. -/
theorem act_leaves (tidy : c.workspace.Tidy mayFinish) (a : Action) :
    (c.act i a).2.workspace.Tidy mayFinish ∧ (c.act i a).2.transcript.entries =
      if c.clears a = true then [] else c.transcript.entries ++ c.block i a := by
  cases a with
  | submit line =>
    simp only [clears_iff (rfl : c.line? (.submit line) = some line)]
    exact ask_submit tidy line
  | enter =>
    simp only [clears_iff (rfl : c.line? .enter = some c.input)]
    exact ask_submit (c := { c with input := "" }) tidy c.input
  | script code =>
    have ha : c.accept (.script code) =
        (.code code, c.mapTranscript fun t => t.pushEcho runningMessage) := rfl
    simpa [act, clears, line?, block, heading] using ask_of_code (i := i) tidy ha rfl
  | announce => simpa [clears, line?] using announce_leaves tidy
  | setInput text | recallPrevious | recallNext =>
    exact ⟨tidy, (List.append_nil _).symm⟩

theorem replied_none_of_code {r : Request} {code : String} {d : Console}
    (h : c.accept r = (.code code, d)) : (c.ask i r).1 ≠ .replied none := by
  rw [ask, performOrCancel_of_code h]
  obtain ⟨_ | report, w⟩ := d.workspace.runOrCancel i code <;> simp [conclude, Effect.ofReply]

/-- Only lines that are blank or clear the transcript get no text. -/
theorem ask_submit_none (line : String) : (c.ask i (.submit line)).1 = .replied none ↔
    Text.allBlank line.toList = true ∨ Command.ofLine? line = some .clear := by
  rw [← Command.ofLine?_eq_none_iff]
  cases hl : Command.ofLine? line with
  | none => simp [ask, performOrCancel, perform, accept, hl, Effect.ofReply]
  | some command =>
    cases command with
    | clear | help | echo text => simp [ask, performOrCancel, perform, accept, hl, Effect.ofReply]
    | code code => simpa using replied_none_of_code (i := i) (accept_of_code hl)

theorem act_none {a : Action} {line : String} (h : c.line? a = some line) :
    (c.act i a).1 = .replied none ↔ Text.allBlank line.toList = true ∨ c.clears a = true := by
  rw [clears_iff h]
  cases a with
  | submit line' | enter =>
    obtain rfl := Option.some.inj h
    exact ask_submit_none _
  | _ => simp [line?] at h

theorem ask_ne_cancelled_of_code (tidy : c.workspace.Tidy true) (answers : i.Answers)
    {r : Request} {code echo : String} {d : Console} (h : c.accept r = (.code code, d))
    (hd : d.workspace = { c.workspace with transcript := c.transcript.pushEcho echo }) :
    (c.ask i r).1 ≠ .cancelled := by
  have ended := (tidy_of_echo tidy hd).runOrCancel_ne_none answers code
  rw [ask, performOrCancel_of_code h]
  generalize d.workspace.runOrCancel i code = x at ended ⊢
  obtain ⟨_ | report, w⟩ := x
  · contradiction
  · simp [conclude, Effect.ofReply]

theorem ask_submit_ne_cancelled (tidy : c.workspace.Tidy true) (answers : i.Answers)
    (line : String) : (c.ask i (.submit line)).1 ≠ .cancelled := by
  cases hl : Command.ofLine? line with
  | none => simp [ask, performOrCancel, perform, accept, hl, Effect.ofReply]
  | some command =>
    cases command with
    | clear | help | echo text => simp [ask, performOrCancel, perform, accept, hl, Effect.ofReply]
    | code code => exact ask_ne_cancelled_of_code tidy answers (accept_of_code hl) rfl

/-- No turn gets stuck if the loader may finish and the interpreter answers. -/
theorem act_ne_cancelled (tidy : c.workspace.Tidy true) (answers : i.Answers) (a : Action) :
    (c.act i a).1 ≠ .cancelled := by
  cases a with
  | submit line => exact ask_submit_ne_cancelled tidy answers line
  | enter => exact ask_submit_ne_cancelled (c := { c with input := "" }) tidy answers c.input
  | script code =>
    have ha : c.accept (.script code) =
        (.code code, c.mapTranscript fun t => t.pushEcho runningMessage) := rfl
    exact ask_ne_cancelled_of_code tidy answers ha rfl
  | announce =>
    cases hq : c.workspace.startup.ensure.1 with
    | none => exact (Startup.ensure_of_mayFinish tidy.sound tidy.gate hq).elim
    | some status => simp [act, announce, hq]
  | setInput text | recallPrevious | recallNext => simp [act]

theorem session_concat (i : Interpreter) (c : Console) (as : List Action) (a : Action) :
    c.session i (as ++ [a]) = ((c.session i as).act i a).2 := by
  simp [session, List.foldl_append]

theorem turns_concat (i : Interpreter) (c : Console) (as : List Action) (a : Action) :
    turns i c (as ++ [a]) = turns i c as ++ [(c.session i as, a)] := by
  induction as generalizing c with
  | nil => rfl
  | cons b as ih => exact congrArg ((c, b) :: ·) (ih (c.act i b).2)

theorem tidy_session (tidy : c.workspace.Tidy mayFinish) (as : List Action) :
    (c.session i as).workspace.Tidy mayFinish := by
  induction as generalizing c with
  | nil => exact tidy
  | cons a as ih => exact ih (act_leaves tidy a).1

theorem tidy_of_mem_turns (tidy : c.workspace.Tidy mayFinish) {as : List Action} {x : Console × Action}
    (hx : x ∈ turns i c as) : x.1.workspace.Tidy mayFinish := by
  induction as generalizing c with
  | nil => simp [turns] at hx
  | cons a as ih =>
    obtain rfl | hx := List.mem_cons.mp hx
    · exact tidy
    · exact ih (act_leaves tidy a).1 hx

theorem entries_session (tidy : c.workspace.Tidy mayFinish) (new : c.transcript.entries = [])
    (as : List Action) : (c.session i as).transcript.entries =
      ((turns i c as).rtakeWhile fun x => !x.1.clears x.2).flatMap fun x => x.1.block i x.2 := by
  induction as using List.reverseRecOn with
  | nil => exact new
  | append_singleton as a ih =>
    obtain ⟨-, left⟩ := act_leaves (i := i) (tidy_session (i := i) tidy as) a
    rw [session_concat, left, turns_concat, List.rtakeWhile_concat]
    cases (c.session i as).clears a with
    | true => rfl
    | false => simp [ih]

/-- The transcript of a session is what its turns have left since the last one that cleared it, in
order: of a line that is a command its echo and the reply, of code its echo, a target if it plots with
the interpreter there, and the reply, of a script the same under another echo, and of an announcement
its text. A turn that does not clear the transcript only adds to it; and a line gets no reply just if
it is blank or clears the transcript. No turn is given up if the load may end and the interpreter
answers. -/
theorem transcript_is_log (s : Settings) (supply : Supply) (loader : String → LoadAnswer)
    (mayFinish : Bool) (told : Option (List ViewEvent)) (i : Interpreter) (as : List Action) :
    let new := ofSettings s (.ofSettings s supply loader mayFinish { told })
    let turns := new.turns i as
    (new.session i as).transcript.entries =
        ((turns.rtakeWhile fun x => !x.1.clears x.2).flatMap fun x => x.1.block i x.2) ∧
      (∀ c a, (c, a) ∈ turns → (c.act i a).2.transcript.entries =
        if c.clears a = true then [] else c.transcript.entries ++ c.block i a) ∧
      (∀ c a line, (c, a) ∈ turns → c.line? a = some line →
        ((c.act i a).1 = .replied none ↔
          Text.allBlank line.toList = true ∨ c.clears a = true)) ∧
      (∀ c code, (c, .script code) ∈ turns → (c.act i (.script code)).1 ≠ .replied none) ∧
      (mayFinish = true → i.Answers → ∀ c a, (c, a) ∈ turns → (c.act i a).1 ≠ .cancelled) := by
  intro new turns
  have tidy : new.workspace.Tidy mayFinish :=
    ⟨Workspace.sound_ofSettings s supply loader mayFinish { told }, rfl,
      Workspace.fresh_ofSettings s supply loader mayFinish rfl⟩
  have met (c : Console) (a : Action) (hm : (c, a) ∈ turns) : c.workspace.Tidy mayFinish :=
    tidy_of_mem_turns tidy hm
  refine ⟨entries_session tidy rfl as, fun c a hm => (act_leaves (met c a hm) a).2,
    fun c a line _ hl => act_none hl, fun c code _ => replied_none_of_code rfl, ?_⟩
  intro finishes answers c a hm
  exact act_ne_cancelled (finishes ▸ met c a hm) answers a

end Console

end Workpad
