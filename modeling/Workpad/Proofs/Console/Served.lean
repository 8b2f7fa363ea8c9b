import Workpad.Proofs.Console.Record
import Workpad.Proofs.Run.Underway

/-!
A request for code at a terminal, and what may happen while it is under way: it is looked at, the
load moves, and the interpreter writes. Wherever that leads, the console is the one it was when the
request came, but for what the run has made of it.
-/
namespace Workpad

/-- What a request that runs code shows first, and the code. -/
def Request.runs? : Request → Option (String × String)
  | .submit line =>
    match Command.ofLine? line with
    | some (.code code) => some (prompt ++ line, code)
    | _ => none
  | .script code => some (runningMessage, code)
  | .transcript => none

namespace Console
variable {c : Console} {r : Request} {echo code : String}

def begun (c : Console) (r : Request) (echo : String) : Console where
  workspace := { c.workspace with transcript := c.transcript.pushEcho echo }
  history := r.line?.elim c.history fun line => (c.history.push line).2
  input := r.line?.elim c.input fun _ => ""
  helpWidth := c.helpWidth

theorem accept_of_runs (runs : r.runs? = some (echo, code)) :
    c.accept r = (.code code, c.begun r echo) := by
  cases r with
  | submit line =>
    cases hl : Command.ofLine? line with
    | none => simp [Request.runs?, hl] at runs
    | some command =>
      cases command <;> simp only [Request.runs?, hl, reduceCtorEq, Option.some.injEq,
        Prod.mk.injEq] at runs
      obtain ⟨rfl, rfl⟩ := runs
      simp only [accept, hl]
      rfl
  | script code' =>
    simp only [Request.runs?, Option.some.injEq, Prod.mk.injEq] at runs
    obtain ⟨rfl, rfl⟩ := runs
    rfl
  | transcript => simp [Request.runs?] at runs

theorem start_of_runs (i : Interpreter) (runs : r.runs? = some (echo, code)) :
    c.start i r = (c.begun r echo).settle ((c.begun r echo).workspace.start i code) := by
  rw [start, accept_of_runs runs]

/-- What a line that runs nothing is answered, and what it does to the transcript. -/
def plainReply (helpWidth : Nat) (line : String) : Option String × List Transcript.Edit :=
  let told (text : String) : Option String × List Transcript.Edit :=
    (some text, [.echo (prompt ++ line), .fragment text])
  match Command.ofLine? line with
  | some .help => told (HelpTable.render helpWidth)
  | some (.echo text) => told text
  | some .clear => (none, [.clear])
  | none | some (.code _) => (none, [])

theorem plainReply_keepsIds (helpWidth : Nat) (line : String) :
    ∀ e ∈ (plainReply helpWidth line).2, e.KeepsIds := by
  cases hl : Command.ofLine? line with
  | none => simp [plainReply, hl]
  | some command =>
    cases command <;> simp [plainReply, hl, Transcript.Edit.KeepsIds]

theorem start_plain (i : Interpreter) (c : Console) {line : String}
    (plain : Request.runs? (.submit line) = none) : ∃ input, c.start i (.submit line) =
      (.replied (plainReply c.helpWidth line).1,
        { workspace := { c.workspace with
            transcript := c.transcript.editAll (plainReply c.helpWidth line).2 }
          history := if Text.allBlank line.toList then c.history else (c.history.push line).2
          input
          helpWidth := c.helpWidth }) := by
  have blank := Command.ofLine?_eq_none_iff line
  cases hl : Command.ofLine? line with
  | none =>
    refine ⟨c.input, ?_⟩
    simp only [start, accept, hl, plainReply, blank.mp hl, if_true]
    rfl
  | some command =>
    have filled : ¬ Text.allBlank line.toList = true := by rw [← blank, hl]; simp
    refine ⟨"", ?_⟩
    cases command with
    | code code => simp [Request.runs?, hl] at plain
    | help | clear | echo text =>
      simp only [start, accept, hl, plainReply, filled]
      rfl

end Console

namespace Terminal
variable {i : Interpreter} {t u : Terminal} {e : Event} {r : Request} {echo code : String}

def request? (t : Terminal) : Event → Option Request
  | .ask r => some r
  | .enter => some (.submit t.console.input)
  | _ => none

def Event.isWaiting : Event → Bool
  | .look | .request | .allowFinish | .load | .write _ _ | .emit _ => true
  | _ => false

def Event.isPoll : Event → Bool
  | .ask _ | .enter | .look => true
  | _ => false

/-- Nothing is written to a buffer, other than by a call. -/
def Event.Spares (buffer : Nat) : Event → Prop
  | .write other _ => other ≠ buffer
  | .emit _ => False
  | _ => True

def answers (i : Interpreter) : Terminal → List Event → List Answer
  | _, [] => []
  | t, e :: es => (t.step i e).1 :: answers i (t.step i e).2 es

theorem answers_append (i : Interpreter) (t : Terminal) (es es' : List Event) :
    t.answers i (es ++ es') = t.answers i es ++ (t.run i es).answers i es' := by
  induction es generalizing t with
  | nil => rfl
  | cons e es ih => simp [answers, ih, run_cons]

def status (t : Terminal) : Status := t.console.workspace.startup.status

def findsReady (i : Interpreter) : Terminal → List Event → Bool
  | _, [] => false
  | t, e :: es => (e.isPoll && t.status.isReady) || findsReady i (t.step i e).2 es

theorem findsReady_concat (i : Interpreter) (t : Terminal) (es : List Event) (e : Event) :
    t.findsReady i (es ++ [e]) =
      (t.findsReady i es || (e.isPoll && (t.run i es).status.isReady)) := by
  induction es generalizing t with
  | nil => simp [findsReady, run]
  | cons e' es ih => rw [List.cons_append, findsReady, ih, findsReady, run_cons, Bool.or_assoc]

theorem step_of_request (idle : t.pending = none) (asks : t.request? e = some r)
    (runs : r.runs? = some (echo, code)) : t.step i e = ofStanding (t.console.start i r) := by
  obtain ⟨c, p⟩ := t
  obtain rfl : p = none := idle
  cases e with
  | ask r' =>
    obtain rfl : r' = r := Option.some.inj asks
    rfl
  | enter =>
    obtain rfl : .submit c.input = r := Option.some.inj asks
    have emptied : c.takeInput.2.start i (.submit c.input) = c.start i (.submit c.input) := by
      rw [Console.start_of_runs i runs, Console.start_of_runs i runs]
      rfl
    exact congrArg ofStanding emptied
  | _ => contradiction

theorem isPoll_of_request (asks : t.request? e = some r) : e.isPoll = true := by
  cases e with
  | ask _ | enter => rfl
  | _ => contradiction

/-- A line that runs nothing is answered at once. -/
theorem step_of_plain (idle : t.pending = none) {line : String}
    (asks : t.request? e = some (.submit line)) (plain : Request.runs? (.submit line) = none) :
    ∃ input, t.step i e = (.replied (Console.plainReply t.console.helpWidth line).1, { console :=
      { workspace := { t.console.workspace with
          transcript := t.console.transcript.editAll
            (Console.plainReply t.console.helpWidth line).2 }
        history :=
          if Text.allBlank line.toList then t.console.history else (t.console.history.push line).2
        input
        helpWidth := t.console.helpWidth } }) := by
  obtain ⟨c, p⟩ := t
  obtain rfl : p = none := idle
  cases e with
  | ask r =>
    obtain rfl : r = .submit line := Option.some.inj asks
    obtain ⟨input, hs⟩ := Console.start_plain i c plain
    exact ⟨input, congrArg ofStanding hs⟩
  | enter =>
    obtain rfl : c.input = line := Request.submit.inj (Option.some.inj asks)
    obtain ⟨input, hs⟩ := Console.start_plain i c.takeInput.2 plain
    exact ⟨input, congrArg ofStanding hs⟩
  | _ => contradiction

/-- How a terminal stands with a request for code, where `b` is the console with the request written
down and `as` are the answers so far: it is under way, and with the interpreter if that was found
ready, or it has come to an end and was answered. -/
inductive Served (i : Interpreter) (b : Console) (code : String) (clean : Prop) (ready : Bool)
    (as : List Answer) : Terminal → Prop
  | underway {stage : Stage} {w : Workspace} (stands : b.workspace.Stands i code clean stage w)
    (launched : stage.isLaunched = ready) (unanswered : ∀ text, .replied text ∉ as) :
    Served i b code clean ready as
      { console := { b with workspace := w }, pending := some (.run stage) }
  | ended {report : Report} {w : Workspace} (ends : b.workspace.Ends i code clean report w)
    (answered : ∀ text, .replied text ∈ as ↔ text = some report.fragment) :
    Served i b code clean ready as
      { console := { b with
          workspace := { w with transcript := w.transcript.pushFragment report.fragment } } }

variable {b : Console} {clean : Prop} {ready : Bool} {as : List Answer}

/-- A run that was looked at, be it for the first time. -/
theorem served_look {stage : Stage} {w : Workspace} (stands : b.workspace.Stands i code clean stage w)
    (sound : w.startup.Sound) (unanswered : ∀ text, .replied text ∉ as) :
    Served i b code clean (stage.isLaunched || w.startup.status.isReady)
      (as ++ [(ofStanding (b.settle (w.advance i stage))).1])
      (ofStanding (b.settle (w.advance i stage))).2 := by
  have goes := stands.advance sound
  generalize w.advance i stage = x at goes ⊢
  obtain ⟨stage' | report, w'⟩ := x
  · obtain ⟨stands, launched⟩ := goes
    refine .underway stands launched fun text hm => ?_
    obtain hm | hm := List.mem_append.mp hm
    · exact unanswered text hm
    · simp [Console.settle, ofStanding] at hm
  · refine .ended goes fun text => ?_
    have none := unanswered text
    simp [Console.settle, ofStanding, none]

/-- The load moves. -/
theorem Served.onward (h : Served i b code clean ready as u)
    (sound : u.console.workspace.startup.Sound) {s : Startup}
    (moves : u.console.workspace.startup.Onward s) : Served i b code clean ready as
      { u with console := { u.console with
        workspace := { u.console.workspace with startup := s } } } := by
  cases h with
  | underway stands launched unanswered =>
    exact .underway (stands.onward sound moves) launched unanswered
  | @ended report w ends answered => exact .ended (ends.onward (w := w) sound moves) answered

/-- The interpreter writes. -/
theorem Served.write (h : Served i b code clean ready as u) {buffer : Nat} (chunk : Chunk)
    (other : clean → buffer ≠ b.workspace.sinks.next) : Served i b code clean ready as
      { u with console := { u.console with workspace := u.console.workspace.write buffer chunk } } := by
  cases h with
  | underway stands launched unanswered =>
    exact .underway (stands.write chunk other) launched unanswered
  | ended ends answered => exact .ended (ends.write buffer chunk) answered

theorem Served.writeInstalled (h : Served i b code clean ready as u) (chunk : Chunk)
    (unheard : ¬clean) : Served i b code clean ready as
      { u with console := { u.console with
        workspace := u.console.workspace.writeInstalled chunk } } := by
  rw [Workspace.writeInstalled]
  cases u.console.workspace.sinks.installed? chunk.stream with
  | none => exact h
  | some buffer => exact h.write chunk fun hc => (unheard hc).elim

theorem Served.done (h : Served i b code clean ready as u) :
    Served i b code clean ready (as ++ [.done]) u := by
  have same (text : Option String) : .replied text ∈ as ++ [.done] ↔ .replied text ∈ as := by simp
  cases h with
  | underway stands launched unanswered =>
    exact .underway stands launched fun text hm => unanswered text ((same text).mp hm)
  | ended ends answered => exact .ended ends fun text => (same text).trans (answered text)

/-- Whatever happens while one waits. -/
theorem Served.step (h : Served i b code clean ready as u)
    (sound : u.console.workspace.startup.Sound) (waiting : e.isWaiting = true)
    (spares : clean → e.Spares b.workspace.sinks.next) :
    Served i b code clean (ready || (e.isPoll && u.status.isReady)) (as ++ [(u.step i e).1])
      (u.step i e).2 := by
  have still (quiet : e.isPoll = false) : (ready || (e.isPoll && u.status.isReady)) = ready := by
    simp [quiet]
  cases e with
  | look =>
    cases h with
    | underway stands launched unanswered =>
      rw [← launched]
      exact served_look stands sound unanswered
    | ended ends answered =>
      refine .ended ends fun text => ?_
      rw [← answered text]
      simp [Terminal.step, Terminal.look]
  | request =>
    have hs := h.onward sound (.request .refl)
    rw [still rfl]
    exact hs.done
  | allowFinish =>
    have hs := h.onward sound (.allowFinish .refl)
    rw [still rfl]
    exact hs.done
  | load =>
    have hs := h.onward sound (.work .refl)
    rw [still rfl]
    exact hs.done
  | write buffer chunk =>
    have hs := h.write chunk spares
    rw [still rfl]
    exact hs.done
  | emit chunk =>
    have hs := h.writeInstalled chunk spares
    rw [still rfl]
    exact hs.done
  | _ => contradiction

/-- A request for code, from when it is made and as long as one waits for it. -/
theorem served_run (clean : Prop) (idle : t.pending = none) (sound : t.console.workspace.startup.Sound)
    (asks : t.request? e = some r) (runs : r.runs? = some (echo, code)) {more : List Event}
    (waiting : ∀ e ∈ more, e.isWaiting = true)
    (spares : clean → ∀ e ∈ more, e.Spares t.console.workspace.sinks.next) :
    Served i (t.console.begun r echo) code clean (t.findsReady i (e :: more))
      (t.answers i (e :: more)) (t.run i (e :: more)) := by
  induction more using List.reverseRecOn with
  | nil =>
    have poll := isPoll_of_request asks
    have step := step_of_request (i := i) idle asks runs
    have asked : t.console.workspace.startup.request.Sound := sound.request
    have stands : (t.console.begun r echo).workspace.Stands i code clean (.awaiting code)
        (t.console.begun r echo).workspace.request := .awaiting _ rfl
    have silent (text : Option String) : .replied text ∉ ([] : List Answer) := by simp
    have served := served_look stands asked silent
    rw [Console.start_of_runs i runs] at step
    have finds : t.findsReady i [e] = t.console.workspace.startup.request.status.isReady := by
      simp [findsReady, poll, status, Startup.isReady_request sound]
    rw [finds, answers, answers, run_cons, step]
    exact served
  | append_singleton more e' ih =>
    have served := ih (fun e he => waiting e (List.mem_append_left _ he))
      fun hc e he => spares hc e (List.mem_append_left _ he)
    have here : e' ∈ more ++ [e'] := List.mem_append_right _ (List.mem_singleton.mpr rfl)
    rw [← List.cons_append, findsReady_concat, answers_append, run_append]
    exact served.step (sound_run sound (e :: more)) (waiting e' here) fun hc => spares hc e' here

end Terminal

end Workpad
