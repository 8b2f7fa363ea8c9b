import Workpad.Plot.Plotter
import Workpad.Run.Interpreter
import Workpad.Startup.Basic

/-!
Running a piece of code. A run waits for the interpreter, prepares the code for plotting, has its
imports resolved and has it evaluated; it may be suspended, and cancelled, wherever it waits. What a
run touches is the workspace. The steps are made one by one by whoever knows what the interpreter
answers; `advance` and `run` make them for an interpreter whose replies are known.
-/
namespace Workpad

structure Workspace where
  startup : Startup
  plotter : Plotter
  sinks : Sinks := {}
  calls : List Call := []
  transcript : Transcript := {}

structure Job where
  prepared : Prepared
  buffer : Nat
deriving DecidableEq, Repr

inductive Stage where
  | awaiting (code : String)
  | resolving (job : Job)
  | evaluating (job : Job)
deriving DecidableEq, Repr

inductive Progress where
  | suspended (stage : Stage)
  | finished (report : Report)

namespace Workspace

def ofSettings (s : Settings) (supply : Supply) (loader : String → LoadAnswer)
    (mayFinish : Bool) (transcript : Transcript) : Workspace where
  startup := { location := s.runtimeLocation, loader, mayFinish }
  plotter := Plotter.ofSettings s supply
  transcript

def call (w : Workspace) (c : Call) : Workspace := { w with calls := w.calls ++ [c] }

def install (w : Workspace) (buffer : Nat) (stream : Stream) : Workspace :=
  { w with sinks := w.sinks.install buffer stream }.call (.install stream buffer)

def capture (w : Workspace) : Nat × Workspace :=
  let buffer := w.sinks.next
  (buffer, ({ w with sinks := w.sinks.add }.install buffer .out).install buffer .err)

def launch (w : Workspace) (code : String) : Job × Workspace :=
  let (prepared, plotter, transcript) := w.plotter.prepare code w.transcript
  let (buffer, w) := { w with plotter, transcript }.capture
  ({ prepared, buffer }, w.call (.resolve prepared.code))

def proceed (w : Workspace) (code : String) : Progress × Workspace :=
  match w.startup.settled? with
  | none => (.suspended (.awaiting code), w)
  | some status =>
    if !status.isReady then (.finished (Report.ofFault .notLoaded), w)
    else if !w.startup.hasInterpreter then (.finished (Report.ofFault .notLoaded), w)
    else
      let (job, w) := w.launch code
      (.suspended (.resolving job), w)

def request (w : Workspace) : Workspace := { w with startup := w.startup.request }

def conclude (w : Workspace) (job : Job) (outcome : Outcome) : Progress × Workspace :=
  let (plotter, transcript) := w.plotter.finish job.prepared w.transcript
  (.finished ⟨w.sinks.contents job.buffer, outcome⟩,
    { w with plotter, transcript, sinks := w.sinks.drain job.buffer })

def resolved (w : Workspace) (job : Job) : Except String Unit → Progress × Workspace
  | .error m => w.conclude job (.error (.dependency m))
  | .ok () =>
    (.suspended (.evaluating job), w.call (.evaluate job.prepared.code))

def evaluated (w : Workspace) (job : Job) : Except String (Option String) → Progress × Workspace
  | .error m => w.conclude job (.error (.evaluation m))
  | .ok v => w.conclude job (.ok v)

/-- A run that nobody waits for any more: the slot comes back, the target stays. -/
def cancel (w : Workspace) : Stage → Workspace
  | .awaiting _ => w
  | .resolving job | .evaluating job => { w with plotter := w.plotter.abandon job.prepared }

def allowFinish (w : Workspace) : Workspace := { w with startup := w.startup.allowFinish }

def clear (w : Workspace) : Nat × Workspace :=
  let (removed, transcript) := w.transcript.clear
  (removed, { w with transcript })

def write (w : Workspace) (buffer : Nat) (c : Chunk) : Workspace :=
  { w with sinks := w.sinks.write buffer c }

def writeInstalled (w : Workspace) (c : Chunk) : Workspace :=
  match w.sinks.installed? c.stream with
  | some buffer => w.write buffer c
  | none => w

def writeAll (w : Workspace) (cs : List Chunk) : Workspace := cs.foldl writeInstalled w

def resolution (i : Interpreter) (w : Workspace) (job : Job) : Reply Unit :=
  i.resolve w.calls job.prepared.code

def evaluation (i : Interpreter) (w : Workspace) (job : Job) : Reply (Option String) :=
  i.evaluate w.calls job.prepared.code

/-- If the interpreter has just been called, it writes before anything else happens. -/
def hear (i : Interpreter) : Progress × Workspace → Progress × Workspace
  | (.suspended (.resolving job), w) =>
    (.suspended (.resolving job), w.writeAll (w.resolution i job).output)
  | (.suspended (.evaluating job), w) =>
    (.suspended (.evaluating job), w.writeAll (w.evaluation i job).output)
  | other => other

def advance (i : Interpreter) (w : Workspace) : Stage → Progress × Workspace
  | .awaiting code => hear i (w.proceed code)
  | .resolving job =>
    match (w.resolution i job).answer with
    | none => (.suspended (.resolving job), w)
    | some answer => hear i (w.resolved job answer)
  | .evaluating job =>
    match (w.evaluation i job).answer with
    | none => (.suspended (.evaluating job), w)
    | some answer => w.evaluated job answer

def start (i : Interpreter) (w : Workspace) (code : String) : Progress × Workspace :=
  w.request.advance i (.awaiting code)

def further (i : Interpreter) : Progress × Workspace → Progress × Workspace
  | (.suspended stage, w) => w.advance i stage
  | (.finished report, w) => (.finished report, w)

def load (w : Workspace) : Workspace := { w with startup := w.startup.work }

def runTasks (w : Workspace) : Workspace := { w with startup := w.startup.runTasks }

/-- Take a run as far as the load and the interpreter let it: no run waits more than three times. -/
def resume (i : Interpreter) (w : Workspace) (stage : Stage) : Progress × Workspace :=
  further i (further i (w.runTasks.advance i stage))

def run (i : Interpreter) (w : Workspace) (code : String) : Progress × Workspace :=
  w.request.resume i (.awaiting code)

def runOrCancel (i : Interpreter) (w : Workspace) (code : String) : Option Report × Workspace :=
  match w.run i code with
  | (.finished report, w) => (some report, w)
  | (.suspended stage, w) => (none, w.cancel stage)

end Workspace

end Workpad
