import Workpad.Console.Session
import Workpad.Console.Terminal
import Workpad.Proofs.Console.Sequence

/-!
A session in which everything is taken to its end or given up is one of the orders in which things
can go at a terminal. Whatever the order, the startup stays sound.
-/
namespace Workpad

/-- Once the load has come to its end its tasks have nothing to do. -/
theorem Workspace.runTasks_request {w : Workspace} {status : Status} (sound : w.startup.Sound)
    (hq : w.request.startup.settled? = some status) : w.request.runTasks = w.request := by
  have hs : w.request.startup.Sound := Startup.Sound.request sound
  rw [runTasks, Startup.runTasks_of_settled hs hq]

namespace Terminal
variable {i : Interpreter} {t : Terminal} {c : Console}

theorem run_cons (i : Interpreter) (t : Terminal) (e : Event) (es : List Event) :
    t.run i (e :: es) = (t.step i e).2.run i es :=
  rfl

theorem run_append (i : Interpreter) (t : Terminal) (es es' : List Event) :
    t.run i (es ++ es') = (t.run i es).run i es' :=
  List.foldl_append

@[simp] theorem console_ofStanding (x : Standing × Console) : (ofStanding x).2.console = x.2 := by
  obtain ⟨text | stage, c⟩ := x <;> rfl

theorem step_ask (i : Interpreter) (c : Console) (r : Request) :
    ({ console := c } : Terminal).step i (.ask r) = ofStanding (c.start i r) :=
  rfl

theorem step_enter (i : Interpreter) (c : Console) :
    ({ console := c } : Terminal).step i .enter =
      ofStanding (c.takeInput.2.start i c.takeInput.1) :=
  rfl

theorem step_announce (i : Interpreter) (c : Console) :
    ({ console := c } : Terminal).step i .announce =
      await { c with workspace := c.workspace.request } :=
  rfl

section
variable {R : Console → Console → Prop}

/-- What is done only while nothing is under way keeps what it keeps when it is done. -/
theorem whenIdle_keeps (refl : ∀ c, R c c) {f : Console → Answer × Terminal}
    (h : ∀ c, R c (f c).2.console) (t : Terminal) : R t.console (t.whenIdle f).2.console := by
  obtain ⟨c, _ | p⟩ := t
  · exact h c
  · exact refl c

theorem look_keeps (refl : ∀ c, R c c) (advance : ∀ c stage, R c (c.advance i stage).2)
    (await : ∀ c, R c (await c).2.console) (t : Terminal) : R t.console (t.look i).2.console := by
  obtain ⟨c, _ | stage | _⟩ := t
  · exact refl c
  · rw [look, console_ofStanding]
    exact advance c stage
  · exact await c

theorem cancel_keeps (refl : ∀ c, R c c) (cancel : ∀ c stage, R c (c.cancel stage))
    (t : Terminal) : R t.console t.cancel.console := by
  obtain ⟨c, _ | stage | _⟩ := t
  · exact refl c
  · exact cancel c stage
  · exact refl c

end

/-- A request that waits, looked at once more. -/
theorem look_settle (c : Console) (x : Progress × Workspace) :
    ((ofStanding (c.settle x)).2.look i).2 =
      (ofStanding (c.settle (Workspace.further i x))).2 := by
  obtain ⟨stage | report, w⟩ := x <;> rfl

/-- Four turns of the load take it as far as it goes. -/
def loads : List Event := [.load, .load, .load, .load]

theorem run_loads (t : Terminal) : t.run i loads = { t with console := t.console.runTasks } := rfl

/-- Code that is run to its end, or given up where it gets stuck. -/
theorem exists_settle_run (sound : c.workspace.startup.Sound) (code : String) :
    ∃ es, ((ofStanding (c.settle (c.workspace.start i code))).2).run i es =
      (ofStanding (c.settle (c.workspace.run i code))).2 := by
  have looks (x : Progress × Workspace) : ((ofStanding (c.settle x)).2).run i [.look, .look] =
      (ofStanding (c.settle (Workspace.further i (Workspace.further i x)))).2 := by
    rw [← look_settle, ← look_settle]
    rfl
  cases hq : c.workspace.request.startup.settled? with
  | some status =>
    refine ⟨[.look, .look], ?_⟩
    rw [looks, Workspace.run, Workspace.resume, Workspace.runTasks_request sound hq]
    rfl
  | none =>
    have hs : c.workspace.start i code = (.suspended (.awaiting code), c.workspace.request) := by
      simp [Workspace.start, Workspace.advance, Workspace.proceed, hq, Workspace.hear]
    refine ⟨loads ++ [.look, .look, .look], ?_⟩
    rw [run_append, hs, run_loads]
    exact looks (c.workspace.request.runTasks.advance i (.awaiting code))

theorem exists_start (sound : c.workspace.startup.Sound) (r : Request) :
    ∃ es, (ofStanding (c.start i r)).2.run i es = (ofStanding (c.perform i r)).2 := by
  have hs : (c.accept r).2.workspace.startup.Sound := by rwa [Console.startup_accept]
  rw [Console.start, Console.perform]
  generalize c.accept r = x at hs ⊢
  obtain ⟨text | code, d⟩ := x
  · exact ⟨[], rfl⟩
  · exact exists_settle_run hs code

theorem exists_ask (sound : c.workspace.startup.Sound) (r : Request) :
    ∃ es, (ofStanding (c.start i r)).2.run i es = { console := (c.ask i r).2 } := by
  obtain ⟨es, hes⟩ := exists_start (i := i) sound r
  refine ⟨es ++ [.cancel], ?_⟩
  rw [run_append, hes, Console.ask, Console.performOrCancel]
  obtain ⟨text | stage, d⟩ := c.perform i r <;> rfl

theorem act_announce (c : Console) : (c.act i .announce).2 =
    (await { c with workspace := c.workspace.request.runTasks }).2.console := by
  cases hq : c.workspace.request.runTasks.startup.settled? with
  | none =>
    have he : c.workspace.startup.ensure.1 = none := hq
    simp only [Console.act, Console.announce, he, await, hq]
    rfl
  | some status =>
    have he : c.workspace.startup.ensure.1 = some status := hq
    simp only [Console.act, Console.announce, he, await, hq]
    rfl

theorem cancel_await (c : Console) : (await c).2.cancel = { console := (await c).2.console } := by
  cases hq : c.workspace.startup.settled? <;> simp [await, hq, cancel]

theorem exists_announce (sound : c.workspace.startup.Sound) :
    ∃ es, ({ console := c } : Terminal).run i es = { console := (c.act i .announce).2 } := by
  rw [act_announce, ← cancel_await]
  cases hq : c.workspace.request.startup.settled? with
  | some status =>
    rw [Workspace.runTasks_request sound hq]
    exact ⟨[.announce, .cancel], rfl⟩
  | none =>
    have hw : (await { c with workspace := c.workspace.request }).2 =
        { console := { c with workspace := c.workspace.request }
          pending := some .announcement } := by
      simp [await, hq]
    refine ⟨.announce :: (loads ++ [.look, .cancel]), ?_⟩
    rw [run_cons, step_announce, run_append, hw, run_loads]
    rfl

/-- What is done in a session is one of the orders in which things can go at a terminal. -/
theorem exists_act (sound : c.workspace.startup.Sound) (a : Console.Action) :
    ∃ es, ({ console := c } : Terminal).run i es = { console := (c.act i a).2 } := by
  cases a with
  | submit line =>
    obtain ⟨es, hes⟩ := exists_ask (i := i) sound (.submit line)
    refine ⟨.ask (.submit line) :: es, ?_⟩
    rw [run_cons, step_ask, hes, Console.act]
  | enter =>
    obtain ⟨es, hes⟩ := exists_ask (i := i) (c := c.takeInput.2) sound c.takeInput.1
    refine ⟨.enter :: es, ?_⟩
    rw [run_cons, step_enter, hes, Console.act]
  | script code =>
    obtain ⟨es, hes⟩ := exists_ask (i := i) sound (.script code)
    refine ⟨.ask (.script code) :: es, ?_⟩
    rw [run_cons, step_ask, hes, Console.act]
  | announce => exact exists_announce sound
  | setInput text => exact ⟨[.setInput text], rfl⟩
  | recallPrevious => exact ⟨[.recallPrevious], rfl⟩
  | recallNext => exact ⟨[.recallNext], rfl⟩

/-! Whatever happens at a terminal, its startup only goes on. -/

def GoesOn (c d : Console) : Prop := c.workspace.startup.Onward d.workspace.startup

theorem GoesOn.of_eq {d : Console} (h : d.workspace.startup = c.workspace.startup) : GoesOn c d := by
  rw [GoesOn, h]
  exact .refl

theorem goesOn_start (i : Interpreter) (c : Console) (r : Request) :
    GoesOn c (ofStanding (c.start i r)).2.console := by
  rw [console_ofStanding]
  obtain hs | hs := Console.startup_start i c r
  · exact .of_eq hs
  · rw [GoesOn, hs]
    exact .request .refl

theorem goesOn_await (c : Console) : GoesOn c (await c).2.console := by
  cases hq : c.workspace.startup.settled? <;> simp only [await, hq] <;> exact .refl

theorem goesOn_whenIdle {f : Console → Answer × Terminal} (h : ∀ c, GoesOn c (f c).2.console)
    (t : Terminal) : GoesOn t.console (t.whenIdle f).2.console :=
  whenIdle_keeps (R := GoesOn) (fun _ => .refl) h t

theorem goesOn_step (i : Interpreter) (t : Terminal) (e : Event) :
    GoesOn t.console (t.step i e).2.console := by
  cases e with
  | ask r => exact goesOn_whenIdle (fun c => goesOn_start i c r) t
  | enter => exact goesOn_whenIdle (fun c => goesOn_start i c.takeInput.2 c.takeInput.1) t
  | announce =>
    refine goesOn_whenIdle (fun c => ?_) t
    have asked : c.workspace.startup.Onward c.workspace.request.startup := .request .refl
    exact asked.trans (goesOn_await { c with workspace := c.workspace.request })
  | look =>
    exact look_keeps (R := GoesOn) (fun _ => .refl)
      (fun c stage => .of_eq (Console.startup_advance i c stage)) goesOn_await t
  | cancel =>
    refine cancel_keeps (R := GoesOn) (fun _ => .refl) (fun c stage => .of_eq ?_) t
    cases stage <;> rfl
  | setInput _ | recallPrevious | recallNext | edit _ | claim _ | release _ =>
    refine goesOn_whenIdle (fun c => .of_eq ?_) t
    rfl
  | request => exact .request .refl
  | allowFinish => exact .allowFinish .refl
  | load => exact .work .refl
  | write buffer chunk => exact .refl
  | emit chunk => exact .of_eq (Workspace.startup_writeAll t.console.workspace [chunk])

theorem goesOn_run (i : Interpreter) (t : Terminal) (es : List Event) :
    GoesOn t.console (t.run i es).console := by
  induction es generalizing t with
  | nil => exact .refl
  | cons e es ih => exact (goesOn_step i t e).trans (ih (t.step i e).2)

/-- Whatever happens at a terminal, the startup stays sound. -/
theorem sound_run (sound : t.console.workspace.startup.Sound) (es : List Event) :
    (t.run i es).console.workspace.startup.Sound :=
  (goesOn_run i t es).sound sound

/-- A session is one of the orders in which things can go at a terminal. -/
theorem exists_session (sound : c.workspace.startup.Sound) (as : List Console.Action) :
    ∃ es, ({ console := c } : Terminal).run i es = { console := c.session i as } := by
  induction as generalizing c with
  | nil => exact ⟨[], rfl⟩
  | cons a as ih =>
    obtain ⟨es, hes⟩ := exists_act (i := i) sound a
    have acted : (c.act i a).2.workspace.startup.Sound := by
      have hs := sound_run (i := i) (t := { console := c }) sound es
      rwa [hes] at hs
    obtain ⟨es', hes'⟩ := ih acted
    exact ⟨es ++ es', by rw [run_append, hes, hes']; rfl⟩

end Terminal

end Workpad
