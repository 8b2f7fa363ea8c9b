import Workpad.Console.Basic
import Workpad.Transcript.View

/-!
A console and what is under way at it: one request at most, or somebody who waits to announce the
outcome of the load. Every order of beginning such things, of looking at them until they come to
their end or giving them up, of what can be done in between and of what may happen meanwhile is a
list of events. An event that does not apply changes nothing.
-/
namespace Workpad

inductive Pending where
  | run (stage : Stage)
  | announcement
deriving DecidableEq, Repr

def Console.mapSlot (c : Console) (f : Slot → Slot) : Console :=
  let plotter := { c.workspace.plotter with slot := f c.workspace.plotter.slot }
  { c with workspace := { c.workspace with plotter } }

structure Terminal where
  console : Console
  pending : Option Pending := none

namespace Terminal

inductive Event where
  | ask (r : Request)
  | enter
  | announce
  /-- What is under way goes on, if what it waits for is there. -/
  | look
  | cancel
  | setInput (text : String)
  | recallPrevious
  | recallNext
  | edit (e : Transcript.Edit)
  | claim (id : TargetId)
  | release (id : TargetId)
  /-- Somebody else asks for the interpreter. -/
  | request
  | allowFinish
  | load
  /-- The interpreter writes to a buffer that it was given at some time. -/
  | write (buffer : Nat) (chunk : Chunk)
  /-- The interpreter writes to the buffer installed for the chunk's stream. -/
  | emit (chunk : Chunk)

inductive Answer where
  | done
  /-- Something is under way and comes first. -/
  | busy
  | pending
  | replied (text : Option String)
  | announced (status : Status)
deriving DecidableEq, Repr

def ofStanding : Standing × Console → Answer × Terminal
  | (.replied text, console) => (.replied text, { console })
  | (.suspended stage, console) => (.pending, { console, pending := some (.run stage) })

def await (c : Console) : Answer × Terminal :=
  match c.workspace.startup.settled? with
  | none => (.pending, { console := c, pending := some .announcement })
  | some status =>
    (.announced status,
      { console := c.mapTranscript fun t => t.pushFragment (Console.announcement status) })

def look (i : Interpreter) (t : Terminal) : Answer × Terminal :=
  match t.pending with
  | none => (.done, t)
  | some (.run stage) => ofStanding (t.console.advance i stage)
  | some .announcement => await t.console

def cancel (t : Terminal) : Terminal :=
  match t.pending with
  | some (.run stage) => { console := t.console.cancel stage }
  | _ => { console := t.console }

def whenIdle (t : Terminal) (f : Console → Answer × Terminal) : Answer × Terminal :=
  match t.pending with
  | none => f t.console
  | some _ => (.busy, t)

def change (t : Terminal) (f : Console → Console) : Answer × Terminal :=
  t.whenIdle fun c => (.done, { console := f c })

def meanwhile (t : Terminal) (f : Workspace → Workspace) : Answer × Terminal :=
  (.done, { t with console := { t.console with workspace := f t.console.workspace } })

def step (i : Interpreter) (t : Terminal) : Event → Answer × Terminal
  | .ask r => t.whenIdle fun c => ofStanding (c.start i r)
  | .enter => t.whenIdle fun c => ofStanding (c.takeInput.2.start i c.takeInput.1)
  | .announce => t.whenIdle fun c => await { c with workspace := c.workspace.request }
  | .look => t.look i
  | .cancel => (.done, t.cancel)
  | .setInput text => t.change fun c => c.setInput text
  | .recallPrevious => t.change Console.recallPrevious
  | .recallNext => t.change Console.recallNext
  | .edit e => t.change fun c => c.mapTranscript fun t => t.edit e
  | .claim id => t.change fun c => c.mapSlot fun s => (s.claim id).toOption.getD s
  | .release id => t.change fun c => c.mapSlot fun s => (s.release id).2
  | .request => t.meanwhile Workspace.request
  | .allowFinish => t.meanwhile Workspace.allowFinish
  | .load => t.meanwhile Workspace.load
  | .write buffer chunk => t.meanwhile fun w => w.write buffer chunk
  | .emit chunk => t.meanwhile fun w => w.writeInstalled chunk

def run (i : Interpreter) (t : Terminal) (es : List Event) : Terminal :=
  es.foldl (fun t e => (t.step i e).2) t

end Terminal

end Workpad
