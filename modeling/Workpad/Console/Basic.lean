import Workpad.Console.Command
import Workpad.Console.HelpTable
import Workpad.Console.History
import Workpad.Run.Workspace

/-!
The console: lines are commands or code, and what they do is recorded in the transcript. A request
is either answered at once or leaves a run behind; a run may be suspended and cancelled, and only
one that ends leaves a fragment.
-/
namespace Workpad

def prompt : String := "> "

def runningMessage : String := "> Running code..."

def readyMessage : String := "Python environment ready."

structure Console where
  workspace : Workspace
  history : History := {}
  input : String := ""
  helpWidth : Nat

inductive Request where
  | submit (line : String)
  /-- A whole script: not kept in the history, and never a command. -/
  | script (code : String)
  | transcript
deriving DecidableEq, Repr

inductive Demand where
  | reply (text : Option String)
  | code (code : String)
deriving DecidableEq, Repr

inductive Standing where
  | replied (text : Option String)
  | suspended (stage : Stage)
deriving DecidableEq, Repr

namespace Console

def ofSettings (s : Settings) (workspace : Workspace) : Console where
  workspace
  helpWidth := s.helpWrapWidth.toNat

def transcript (c : Console) : Transcript := c.workspace.transcript

def mapTranscript (c : Console) (f : Transcript → Transcript) : Console :=
  { c with workspace := { c.workspace with transcript := f c.workspace.transcript } }

def respond (c : Console) (line reply : String) : Console :=
  c.mapTranscript fun t => (t.pushEcho (prompt ++ line)).pushFragment reply

def record (c : Console) (line : String) : Console :=
  { c with history := (c.history.push line).2, input := "" }

/-- All that is done for a request before code runs. A blank line does nothing at all. -/
def accept (c : Console) : Request → Demand × Console
  | .submit line =>
    match Command.ofLine? line with
    | none => (.reply none, c)
    | some .clear => (.reply none, (c.record line).mapTranscript fun t => t.clear.2)
    | some .help =>
      let table := HelpTable.render c.helpWidth
      (.reply (some table), (c.record line).respond line table)
    | some (.echo text) => (.reply (some text), (c.record line).respond line text)
    | some (.code code) =>
      (.code code, (c.record line).mapTranscript fun t => t.pushEcho (prompt ++ line))
  | .script code => (.code code, c.mapTranscript fun t => t.pushEcho runningMessage)
  | .transcript => (.reply (some c.transcript.text), c)

def settle (c : Console) : Progress × Workspace → Standing × Console
  | (.suspended stage, w) => (.suspended stage, { c with workspace := w })
  | (.finished report, w) =>
    (.replied (some report.fragment),
      { c with workspace := w }.mapTranscript fun t => t.pushFragment report.fragment)

def start (i : Interpreter) (c : Console) (r : Request) : Standing × Console :=
  match c.accept r with
  | (.reply text, c) => (.replied text, c)
  | (.code code, c) => c.settle (c.workspace.start i code)

def advance (i : Interpreter) (c : Console) (stage : Stage) : Standing × Console :=
  c.settle (c.workspace.advance i stage)

def perform (i : Interpreter) (c : Console) (r : Request) : Standing × Console :=
  match c.accept r with
  | (.reply text, c) => (.replied text, c)
  | (.code code, c) => c.settle (c.workspace.run i code)

def resume (i : Interpreter) (c : Console) (stage : Stage) : Standing × Console :=
  c.settle (c.workspace.resume i stage)

def cancel (c : Console) (stage : Stage) : Console :=
  { c with workspace := c.workspace.cancel stage }

def performOrCancel (i : Interpreter) (c : Console) (r : Request) :
    Option (Option String) × Console :=
  match c.perform i r with
  | (.replied text, c) => (some text, c)
  | (.suspended stage, c) => (none, c.cancel stage)

def takeInput (c : Console) : Request × Console := (.submit c.input, { c with input := "" })

def announcement : Status → String
  | .failed reason => "Error: " ++ reason
  | _ => readyMessage

def announce (c : Console) : Option Status × Console :=
  let (status, startup) := c.workspace.startup.ensure
  let c := { c with workspace := { c.workspace with startup } }
  match status with
  | none => (none, c)
  | some status => (some status, c.mapTranscript fun t => t.pushFragment (announcement status))

def allowFinish (c : Console) : Console := { c with workspace := c.workspace.allowFinish }

def load (c : Console) : Console := { c with workspace := c.workspace.load }

def runTasks (c : Console) : Console := { c with workspace := c.workspace.runTasks }

def setInput (c : Console) (text : String) : Console := { c with input := text }

/-- The entry before goes into the input line; without entries it stays as it is. -/
def recallPrevious (c : Console) : Console :=
  let (entry, history) := c.history.older
  { c with history, input := entry.getD c.input }

/-- The entry after goes into the input line, and nothing past the newest. -/
def recallNext (c : Console) : Console :=
  let (entry, history) := c.history.newer
  { c with history, input := entry.getD "" }

end Console

end Workpad
