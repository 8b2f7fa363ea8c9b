import Workpad.Proofs.Console.Recall
import Workpad.Proofs.Console.Served

/-!
Entering the input line. It leaves the line empty, and a line that is not blank takes the cursor of the
history behind the newest entry; a blank one leaves the cursor where recall has put it.
-/
namespace Workpad

namespace Console
variable {c : Console}

theorem input_accept (h : c.input = "") (r : Request) : (c.accept r).2.input = "" := by
  cases r with
  | submit line =>
    cases hl : Command.ofLine? line with
    | none => simpa [accept, hl] using h
    | some command => cases command <;> simp [accept, hl, record, respond, mapTranscript]
  | script code => exact h
  | transcript => exact h

theorem input_settle (c : Console) (x : Progress × Workspace) : (c.settle x).2.input = c.input := by
  obtain ⟨stage | report, w⟩ := x <;> rfl

theorem input_start (i : Interpreter) (h : c.input = "") (r : Request) :
    (c.start i r).2.input = "" := by
  have accepted := input_accept h r
  rw [start]
  generalize c.accept r = x at accepted ⊢
  obtain ⟨text | code, d⟩ := x
  · exact accepted
  · exact (input_settle d _).trans accepted

/-- Behind the newest entry, a step back brings it, and a step forth nothing. -/
theorem recall_of_fresh (fresh : c.history.cursor = c.history.entries.length) :
    c.recallPrevious.input = c.history.entries.getLast?.getD c.input ∧ c.recallNext.input = "" := by
  constructor
  · rw [recallPrevious, History.older_eq fresh.le, fresh, List.getLast?_eq_getElem?]
  · have beyond : c.history.entries.length ≤ c.history.cursor + 1 := by omega
    rw [recallNext, History.newer_eq, List.getElem?_eq_none beyond]
    rfl

end Console

namespace Terminal
variable {i : Interpreter} {t : Terminal} {e : Event}

theorem console_change (idle : t.pending = none) (f : Console → Console) :
    (t.change f).2.console = f t.console := by
  simp [change, whenIdle, idle]

/-- What may happen while one waits changes neither the history nor the input line. -/
theorem kept_step (t : Terminal) (waiting : e.isWaiting = true) :
    (t.step i e).2.console.history = t.console.history ∧
      (t.step i e).2.console.input = t.console.input := by
  cases e with
  | look =>
    refine look_keeps (R := fun c d => d.history = c.history ∧ d.input = c.input) (fun _ => ⟨rfl, rfl⟩)
      (fun c _ => ⟨Console.history_settle c _, Console.input_settle c _⟩) (fun c => ?_) t
    cases hq : c.workspace.startup.settled? <;> simp [await, hq, Console.mapTranscript]
  | request | allowFinish | load | write _ _ | emit _ => exact ⟨rfl, rfl⟩
  | _ => contradiction

theorem kept_run (t : Terminal) {more : List Event} (waiting : ∀ e ∈ more, e.isWaiting = true) :
    (t.run i more).console.history = t.console.history ∧
      (t.run i more).console.input = t.console.input := by
  induction more generalizing t with
  | nil => exact ⟨rfl, rfl⟩
  | cons e more ih =>
    obtain ⟨here, rest⟩ := List.forall_mem_cons.mp waiting
    obtain ⟨history, input⟩ := kept_step (i := i) t here
    obtain ⟨history', input'⟩ := ih (t.step i e).2 rest
    exact ⟨history'.trans history, input'.trans input⟩

/-- The line that is entered is pushed unless it is blank, and the input line is emptied. -/
theorem step_enter_leaves (i : Interpreter) (idle : t.pending = none) :
    (t.step i .enter).2.console.history = (if Text.allBlank t.console.input.toList then
        t.console.history else (t.console.history.push t.console.input).2) ∧
      (t.step i .enter).2.console.input = "" := by
  obtain ⟨c, p⟩ := t
  obtain rfl : p = none := idle
  rw [step_enter, console_ofStanding, Console.history_start]
  exact ⟨Console.history_submit c.takeInput.2 c.input, Console.input_start i rfl _⟩

/-- The input line is entered while nothing is under way, and whatever comes of it has come to its end.
Then the input line is empty. The cursor is behind the newest entry, so that a step back brings that
entry and a step forth nothing, just if the line was not blank or the cursor had been there before:
a blank line leaves the whole history as it was. -/
theorem entering_resets_recall (s : Settings) (w : Workspace) (i : Interpreter) (es : List Event) :
    let t := run i { console := .ofSettings s w } es
    t.pending = none → ∀ more, (∀ e ∈ more, e.isWaiting = true) →
      let u := t.run i (.enter :: more)
      u.pending = none →
      let line := t.console.input
      let before := t.console.history
      let after := u.console.history
      u.console.input = "" ∧
      (after.cursor = after.entries.length ↔
        Text.allBlank line.toList = false ∨ before.cursor = before.entries.length) ∧
      (after.cursor = after.entries.length →
        (u.step i .recallPrevious).2.console.input = after.entries.getLast?.getD "" ∧
        (u.step i .recallNext).2.console.input = "") ∧
      (Text.allBlank line.toList = true → after = before) := by
  intro t idle more waiting u done line before after
  obtain ⟨history, input⟩ := step_enter_leaves i idle
  obtain ⟨history', input'⟩ := kept_run (i := i) (t.step i .enter).2 waiting
  have emptied : u.console.input = "" := input'.trans input
  have pushed : after = if Text.allBlank line.toList then before else (before.push line).2 :=
    history'.trans history
  refine ⟨emptied, ?_, fun fresh => ?_, fun blank => by rw [pushed, if_pos blank]⟩
  · rw [pushed]
    cases blank : Text.allBlank line.toList with
    | true => simp
    | false => simp [History.push]
  · obtain ⟨newest, nothing⟩ := Console.recall_of_fresh fresh
    rw [emptied] at newest
    rw [step, console_change done, step, console_change done]
    exact ⟨newest, nothing⟩

/-- A line of code is entered after recall, and the load and the run come to their end. -/
theorem entering_resets_recall_code :
    let w : Workspace := .ofSettings {} .numbered (fun _ => .ready) true {}
    let i : Interpreter := ⟨fun _ _ => { answer := some (.ok ()) },
      fun _ _ => { answer := some (.ok none) }⟩
    let es : List Event := [.ask (.submit "echo a"), .ask (.submit "echo b"), .recallPrevious,
      .recallPrevious, .setInput "f()"]
    let more := loads ++ [.look, .look, .look]
    let t := run i { console := .ofSettings {} w } es
    let u := t.run i (.enter :: more)
    t.console.history.cursor = 0 ∧ t.pending = none ∧ u.pending = none ∧
      u.console.history.entries = ["echo a", "echo b", "f()"] ∧
      u.console.history.cursor = u.console.history.entries.length ∧ u.console.input = "" ∧
      (u.step i .recallPrevious).2.console.input = u.console.history.entries.getLast?.getD "" := by
  intro w i es more t u
  have idle : t.pending = none := by decide +kernel
  have done : u.pending = none := by decide +kernel
  have filled : Text.allBlank t.console.input.toList = false := by decide +kernel
  have entered := entering_resets_recall {} w i es idle more (by decide) done
  have reset := entered.2.1.mpr (.inl filled)
  refine ⟨by decide +kernel, idle, done, by decide +kernel, ?_⟩
  simp only [t, u]
  exact ⟨reset, entered.1, (entered.2.2.1 reset).1⟩

/-- A blank line is entered after recall. The cursor stays at the oldest entry, which is brought once
more although it is not the newest. -/
theorem blank_line_keeps_recall :
    let w : Workspace := .ofSettings {} .numbered (fun _ => .ready) true {}
    let i : Interpreter := ⟨fun _ _ => { answer := some (.ok ()) },
      fun _ _ => { answer := some (.ok none) }⟩
    let new : Terminal := { console := .ofSettings {} w }
    let t := new.run i [.ask (.submit "echo a"), .ask (.submit "echo b"), .recallPrevious,
      .recallPrevious, .setInput ""]
    let u := t.run i [.enter]
    t.pending = none ∧ u.pending = none ∧ u.console.input = "" ∧
      u.console.history.entries = ["echo a", "echo b"] ∧ u.console.history.cursor = 0 ∧
      (u.step i .recallPrevious).2.console.input = "echo a" := by
  decide +kernel

end Terminal

end Workpad
