import Workpad.Proofs.Console.Prospect

/-!
Requests that are given up. Wherever a request for code is given up, what is left of it is its echo, a
target if the code was handed over and plots, and a free slot; and later requests come to the same as
if it had never been made.
-/
namespace Workpad

namespace Terminal
variable {i : Interpreter} {t u : Terminal} {e : Event} {r : Request} {echo code : String}
variable {more : List Event}

/-- What is left of a request for code that is given up. -/
theorem cancel_leaves (idle : t.pending = none) (sound : t.console.workspace.startup.Sound)
    (asks : t.request? e = some r) (runs : r.runs? = some (echo, code))
    (waiting : ∀ e ∈ more, e.isWaiting = true) (free : t.console.workspace.plotter.slot.holder = none)
    (pending : (t.run i (e :: more)).pending ≠ none) :
    let b := t.console.begun r echo
    let plotter := t.console.workspace.plotter
    let after := (t.run i (e :: more)).cancel.console
    after.transcript =
        (if t.findsReady i (e :: more) = true ∧ plotter.detects code = true then
          b.transcript.attachTarget { id := plotter.nextId } else b.transcript) ∧
      after.history = b.history ∧ after.input = b.input ∧
      after.workspace.plotter.slot.holder = none := by
  intro b plotter after
  have served := served_run (i := i) False idle sound asks runs waiting (by simp)
  generalize t.findsReady i (e :: more) = ready at served ⊢
  generalize hu : t.run i (e :: more) = u at served pending
  have ha : after = u.cancel.console := by rw [← hu]
  rw [ha]
  cases served with
  | ended _ _ => contradiction
  | @underway stage w stands launched unanswered =>
    subst launched
    have freed : ((plotter.prepare code b.transcript).2.1.abandon
        (plotter.prepare code b.transcript).1).slot.holder = none := by
      rw [Plotter.abandon_prepare free, Plotter.after]
      split <;> exact free
    have shown : (plotter.prepare code b.transcript).2.2 =
        if plotter.detects code = true then b.transcript.attachTarget { id := plotter.nextId }
        else b.transcript := by
      cases hd : plotter.detects code with
      | true => rw [Plotter.prepare_of_detects free hd, if_pos rfl]
      | false => rw [Plotter.prepare_of_not_detects hd, if_neg Bool.false_ne_true]
    cases stands with
    | awaiting _ _ => exact ⟨by simp [Stage.isLaunched, cancel]; rfl, rfl, rfl, free⟩
    | resolving _ _ _ => exact ⟨shown.trans (by simp [Stage.isLaunched]), rfl, rfl, freed⟩
    | evaluating _ _ _ _ => exact ⟨shown.trans (by simp [Stage.isLaunched]), rfl, rfl, freed⟩

/-- Code is asked for at a terminal with a free slot, and given up while it waits for the load, for
its imports or for its value. Then its echo is in the transcript, with a target without controls
behind it just if the interpreter was found there and the code plots; the line is in the history, and
not in the input; the slot is free; and the startup is where it was. Every later request that is
answered, by an interpreter that goes by the code alone, would be answered the same at a console that
never saw this one, and leave the same block. -/
theorem cancel_is_clean (s : Settings) {w : Workspace} (startup : w.startup.Reachable)
    (i : Interpreter) (es : List Event) :
    let new : Terminal := { console := .ofSettings s w }
    let t := new.run i es
    let c := t.console
    let plotter := c.workspace.plotter
    ∀ e r echo code more, t.pending = none → plotter.slot.holder = none →
      t.request? e = some r → r.runs? = some (echo, code) → (∀ e ∈ more, e.isWaiting = true) →
      let u := t.run i (e :: more)
      u.pending ≠ none →
      let after := u.cancel
      after.console.transcript =
        (if t.findsReady i (e :: more) = true ∧ plotter.detects code = true then
          (c.transcript.pushEcho echo).attachTarget { id := plotter.nextId }
        else c.transcript.pushEcho echo) ∧
      after.console.history = (r.line?.elim c.history fun line => (c.history.push line).2) ∧
      after.console.input = (r.line?.elim c.input fun _ => "") ∧
      after.console.workspace.plotter.slot.holder = none ∧
      after.console.workspace.startup = u.console.workspace.startup ∧
      ∀ resolve evaluate, i = .ofCode resolve evaluate → w.plotter.Blind resolve evaluate →
        ∀ later es',
        let v := after.run i later
        let other := new.run i es'
        v.pending = none → other.pending = none →
          (v.console.workspace.plotter.slot.holder = none ↔
            other.console.workspace.plotter.slot.holder = none) →
          ∀ r', r' ≠ .transcript → ∀ e' e'', v.request? e' = some r' → other.request? e'' = some r' →
            ∀ more' text, v.Answered i e' more' text → ∃ block,
              (v.run i (e' :: more')).console.transcript.outlines =
                (if r'.clears then [] else v.console.transcript.outlines) ++ block ∧
              (∃ more'', other.Answered i e'' more'' text) ∧
              ∀ more'' text', other.Answered i e'' more'' text' → text' = text ∧
                (other.run i (e'' :: more'')).console.transcript.outlines =
                  (if r'.clears then [] else other.console.transcript.outlines) ++ block := by
  intro new t c plotter e r echo code more idle free asks runs waiting u pending after
  have sound : t.console.workspace.startup.Sound := sound_run startup.sound es
  obtain ⟨shown, history, input, freed⟩ := cancel_leaves idle sound asks runs waiting free pending
  have startup_eq : after.console.workspace.startup = u.console.workspace.startup :=
    cancel_keeps (R := fun c d => d.workspace.startup = c.workspace.startup) (fun _ => rfl)
      (fun c stage => by cases stage <;> rfl) u
  refine ⟨shown, history, input, freed, startup_eq, ?_⟩
  intro resolve evaluate code_alone blind later es' v other idle' idle'' slot r' submits e' e''
    asks' asks'' more' text answered
  have from_new : v = new.run i (es ++ (e :: more) ++ .cancel :: later) := by
    rw [run_append, run_append, run_cons]
    rfl
  have sound' : v.console.workspace.startup.Sound := from_new ▸ sound_run startup.sound _
  have sound'' : other.console.workspace.startup.Sound := sound_run startup.sound _
  have akin' : new.console.Akin v.console := from_new ▸ akin_run i new _
  have akin'' : new.console.Akin other.console := akin_run i new es'
  have akin : v.console.Akin other.console :=
    ⟨akin''.plotter.trans akin'.plotter.symm, akin''.helpWidth.trans akin'.helpWidth.symm⟩
  have verdict' : v.console.workspace.startup.verdict = w.startup.verdict :=
    from_new ▸ (goesOn_run i new _).verdict
  have verdict'' : other.console.workspace.startup.verdict = w.startup.verdict :=
    (goesOn_run i new es').verdict
  have same : comesTo i v.console r' = comesTo i other.console r' := by
    rw [code_alone]
    exact comesTo_same akin (verdict'.trans verdict''.symm) slot (blind.like akin'.plotter) r'
  exact answered_same idle' idle'' sound' sound'' asks' asks'' submits same answered

/-- A plot that is given up while its imports are resolved, and another plot after that. -/
theorem cancel_is_clean_plot :
    let w : Workspace := .ofSettings {} .numbered (fun _ => .ready) true {}
    let resolve : String → Reply Unit := fun _ => { answer := some (.ok ()) }
    let evaluate : String → Reply (Option String) := fun _ => { answer := some (.ok none) }
    let i := Interpreter.ofCode resolve evaluate
    let new : Terminal := { console := .ofSettings {} w }
    let plot : Event := .ask (.submit "import matplotlib")
    let u := new.run i [plot, .load, .load, .load, .load, .look]
    let v := u.cancel
    u.pending ≠ none ∧
      v.console.transcript.entries =
        [.echo "> import matplotlib", .target { id := Supply.numbered.id 0 }] ∧
      v.console.workspace.plotter.slot.holder = none ∧
      v.Answered i plot [.look, .look] (some "") ∧ ∃ more, new.Answered i plot more (some "") := by
  intro w resolve evaluate i new plot u v
  have pending : u.pending ≠ none := by decide +kernel
  have clean := cancel_is_clean {} (w := w) (.new _ _ _) i [] plot (.submit "import matplotlib")
    "> import matplotlib" "import matplotlib" [.load, .load, .load, .load, .look] rfl rfl rfl
    (by decide +kernel) (by decide) pending
  have answered : v.Answered i plot [.look, .look] (some "") :=
    ⟨by decide, by simp [Event.Spares], by decide +kernel⟩
  have later := clean.2.2.2.2.2 resolve evaluate rfl (fun _ _ _ _ => ⟨rfl, rfl⟩) [] [] rfl rfl
    (by decide +kernel) (.submit "import matplotlib") (by decide) plot plot rfl rfl [.look, .look]
    (some "") answered
  obtain ⟨block, -, there, -⟩ := later
  exact ⟨pending, by decide +kernel, clean.2.2.2.1, answered, there⟩

end Terminal

end Workpad
