import Workpad.Run.Workspace

/-!
Every way in which runs can go, one after another on one workspace, as a list of events: when the
load moves, what the interpreter writes and to which of its buffers, what it answers, and where a
run is given up. An event that does not apply changes nothing. The desk keeps a record of every run
that has ended.
-/
namespace Workpad

structure Course where
  code : String
  stage : Stage
  before : Workspace
  /-- The settled status that it was given when it asked for the interpreter. -/
  found : Option Status := none
  /-- What was written while its imports were resolved, and to which buffer. -/
  resolving : List (Nat × Chunk) := []
  /-- What was written while it was evaluated, and to which buffer. -/
  evaluating : List (Nat × Chunk) := []

/-- A run that has ended. One that was cancelled has no report. -/
structure Record where
  course : Course
  after : Workspace
  report : Option Report

structure Desk where
  workspace : Workspace
  current : Option Course := none
  past : List Record := []

namespace Course

def hear (c : Course) (buffer : Nat) (chunk : Chunk) : Course :=
  match c.stage with
  | .awaiting _ => c
  | .resolving _ => { c with resolving := c.resolving ++ [(buffer, chunk)] }
  | .evaluating _ => { c with evaluating := c.evaluating ++ [(buffer, chunk)] }

end Course

namespace Desk

inductive Event where
  /-- A run begins, if none is under way. -/
  | start (code : String)
  /-- A run that waits for the interpreter looks again. -/
  | look
  /-- Somebody else asks for the interpreter. -/
  | request
  | allowFinish
  | load
  /-- The interpreter writes to a buffer that it was given at some time. -/
  | write (buffer : Nat) (chunk : Chunk)
  /-- The interpreter writes to the buffer installed for the chunk's stream. -/
  | emit (chunk : Chunk)
  | resolved (answer : Except String Unit)
  | evaluated (answer : Except String (Option String))
  | cancel
  /-- The transcript is emptied between two runs. -/
  | clear
  | attach (id : TargetId) (control : Control)

def note (d : Desk) (c : Course) : Progress × Workspace → Desk
  | (.suspended stage, workspace) => { d with workspace, current := some { c with stage } }
  | (.finished report, workspace) =>
    { workspace, current := none, past := d.past ++ [⟨c, workspace, some report⟩] }

def look (d : Desk) (c : Course) : Desk :=
  d.note { c with found := d.workspace.startup.settled? } (d.workspace.proceed c.code)

def start (d : Desk) (code : String) : Desk :=
  match d.current with
  | some _ => d
  | none =>
    { d with workspace := d.workspace.request }.look
      { code, stage := .awaiting code, before := d.workspace }

def write (d : Desk) (buffer : Nat) (chunk : Chunk) : Desk :=
  if buffer < d.workspace.sinks.next then
    { d with
      workspace := d.workspace.write buffer chunk
      current := d.current.map fun c => c.hear buffer chunk }
  else d

def cancel (d : Desk) : Desk :=
  match d.current with
  | none => d
  | some c =>
    let workspace := d.workspace.cancel c.stage
    { workspace, current := none, past := d.past ++ [⟨c, workspace, none⟩] }

def edit (d : Desk) (f : Transcript → Transcript) : Desk :=
  match d.current with
  | some _ => d
  | none => { d with workspace := { d.workspace with transcript := f d.workspace.transcript } }

def step (d : Desk) : Event → Desk
  | .start code => d.start code
  | .look =>
    match d.current with
    | some c =>
      match c.stage with
      | .awaiting _ => d.look c
      | _ => d
    | none => d
  | .request => { d with workspace := d.workspace.request }
  | .allowFinish => { d with workspace := d.workspace.allowFinish }
  | .load => { d with workspace := d.workspace.load }
  | .write buffer chunk => d.write buffer chunk
  | .emit chunk =>
    match d.workspace.sinks.installed? chunk.stream with
    | some buffer => d.write buffer chunk
    | none => d
  | .resolved answer =>
    match d.current with
    | some c =>
      match c.stage with
      | .resolving job => d.note c (d.workspace.resolved job answer)
      | _ => d
    | none => d
  | .evaluated answer =>
    match d.current with
    | some c =>
      match c.stage with
      | .evaluating job => d.note c (d.workspace.evaluated job answer)
      | _ => d
    | none => d
  | .cancel => d.cancel
  | .clear => d.edit fun t => t.clear.2
  | .attach id control => d.edit fun t => (t.attachControl id control).2

def run (d : Desk) (es : List Event) : Desk := es.foldl step d

end Desk

end Workpad
