import Workpad.Console.Basic

/-!
A console behind a queue, for many callers. A caller's request enters the queue when there is room,
first come first served, and is then worked on whether or not anybody still waits for the reply.
The console works on one request after another; it stops when it is aborted, or once no caller can
come any more and the queue is empty.
-/
namespace Workpad

abbrev Ticket := Nat

inductive Life where
  | running
  /-- Told to stop: nothing is worked on any more. -/
  | aborting
  /-- Stopped before its work was done. -/
  | aborted
  /-- Everything is done and no caller is left. -/
  | finished
deriving DecidableEq, Repr

structure Queue where
  console : Console
  /-- Room in the queue, at least one. -/
  capacity : Nat
  /-- Requests that have entered and are not begun. -/
  queued : List (Ticket × Request) := []
  /-- Callers without room, in the order they came. -/
  waiting : List (Ticket × Request) := []
  /-- Every request that has ever entered, in order. -/
  entered : List (Ticket × Request) := []
  begun : List (Ticket × Request) := []
  current : Option (Ticket × Stage) := none
  replies : List (Ticket × Option String) := []
  handles : Nat := 1
  life : Life := .running

namespace Queue

inductive Answer where
  | pending
  | closed
  | replied (text : Option String)
deriving DecidableEq, Repr

def closedMessage : String := "console is no longer accepting submissions"

def ofConsole (c : Console) (depth : Nat) : Queue where
  console := c
  capacity := max depth 1

def isClosed (q : Queue) : Bool := q.life == .aborted || q.life == .finished

def hasRoom (q : Queue) : Bool := q.queued.length + q.waiting.length < q.capacity

def enter (q : Queue) (rs : List (Ticket × Request)) : Queue :=
  { q with queued := q.queued ++ rs, entered := q.entered ++ rs }

/-- A caller makes its request: it enters if there is room for it beside all who wait already. -/
def send (q : Queue) (t : Ticket) (r : Request) : Queue :=
  if q.isClosed then q
  else if q.hasRoom then q.enter [(t, r)]
  else { q with waiting := q.waiting ++ [(t, r)] }

def room (q : Queue) : Nat := q.capacity - q.queued.length

def admitted? (q : Queue) (t : Ticket) : Option (Ticket × Request) :=
  (q.waiting.take q.room).find? fun w => w.1 == t

def unlist (q : Queue) (t : Ticket) : Queue :=
  { q with waiting := q.waiting.filter fun w => w.1 != t }

/-- A waiting caller looks again: it enters if it is among those who have room. -/
def retry (q : Queue) (t : Ticket) : Queue :=
  if q.isClosed then q
  else match q.admitted? t with
    | some w => (q.unlist t).enter [w]
    | none => q

/-- A caller goes away. What has entered the queue stays there. -/
def leave (q : Queue) (t : Ticket) : Queue := q.unlist t

def letIn (q : Queue) : Queue :=
  if q.isClosed then q
  else { q with waiting := q.waiting.drop q.room }.enter (q.waiting.take q.room)

def note (q : Queue) (t : Ticket) : Standing × Console → Queue
  | (.suspended stage, console) => { q with console, current := some (t, stage) }
  | (.replied text, console) =>
    { q with console, current := none, replies := q.replies ++ [(t, text)] }

def takeUp (i : Interpreter) (q : Queue) (t : Ticket) (r : Request) : Queue :=
  { q with queued := q.queued.tail, begun := q.begun ++ [(t, r)] }.note t (q.console.start i r)

/-- The console stops before its work is done. What is queued and who waits gets no reply. -/
def die (q : Queue) : Queue :=
  { q with
    life := .aborted
    console := match q.current with
      | some (_, stage) => q.console.cancel stage
      | none => q.console
    current := none, queued := [], waiting := [] }

def work (i : Interpreter) (q : Queue) : Queue :=
  match q.life with
  | .running =>
    match q.current, q.queued with
    | some (t, stage), _ => q.note t (q.console.advance i stage)
    | none, (t, r) :: _ => q.takeUp i t r
    | none, [] => if q.handles = 0 then { q with life := .finished } else q
  | .aborting => q.die
  | .aborted | .finished => q

/-- The console is told to stop; it does so before it works again. -/
def abort (q : Queue) : Queue := if q.life = .running then { q with life := .aborting } else q

def clone (q : Queue) : Queue := { q with handles := q.handles + 1 }

def dropHandle (q : Queue) : Queue := { q with handles := q.handles - 1 }

def answer (q : Queue) (t : Ticket) : Answer :=
  match q.replies.lookup t with
  | some text => .replied text
  | none => if q.isClosed then .closed else .pending

def allowFinish (q : Queue) : Queue :=
  { q with console := q.console.allowFinish }

def load (q : Queue) : Queue := { q with console := q.console.load }

def runTasks (q : Queue) : Queue := { q with console := q.console.runTasks }

def workOff (i : Interpreter) : Nat → Queue → Queue
  | 0, q => q
  | n + 1, q => workOff i n (q.runTasks.work i).letIn

/-- Work and let in until nothing moves: a request waits three times at most. -/
def runIdle (i : Interpreter) (q : Queue) : Queue :=
  q.workOff i (4 * (q.queued.length + q.waiting.length + 1) + 1)

end Queue

end Workpad
