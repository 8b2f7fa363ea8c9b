/-!
Bringing up the interpreter, once. The first caller asks for the load; it is made by a task of its
own, so callers may come and go meanwhile. That task runs the loader in yet another one, so that it
lives on if the loader crashes. It stores the outcome and publishes a status; whoever looks after
that sees the same outcome. What a load comes to is given by the loader; when it may come to an end
is up to the world.
-/
namespace Workpad

inductive LoadAnswer where
  | ready
  | failed (reason : String)
  | crashed (text : String)
deriving DecidableEq, Repr

/-- Quotes, backslashes and the control characters of ASCII are escaped. -/
def quoted (s : List Char) : List Char :=
  let escape (c : Char) : List Char :=
    if c = '"' ∨ c = '\\' then ['\\', c]
    else if c = '\n' then ['\\', 'n']
    else if c = '\r' then ['\\', 'r']
    else if c = '\t' then ['\\', 't']
    else if c.toNat = 0 then ['\\', '0']
    else if c.toNat < 0x20 ∨ c.toNat = 0x7F then
      ['\\', 'u', '\x7b'] ++ Nat.toDigits 16 c.toNat ++ ['\x7d']
    else [c]
  '"' :: s.flatMap escape ++ ['"']

/-- The outcome of a load. A task that crashes has failed, too; its number is not told. -/
def LoadAnswer.outcome : LoadAnswer → Except String Unit
  | .ready => .ok ()
  | .failed reason => .error reason
  | .crashed text =>
    .error ("runtime loader task failed: task # panicked with message " ++
      String.ofList (quoted text.toList))

inductive LoadTask where
  | absent
  /-- The load task is there and has not run yet. -/
  | spawned
  /-- It has made a task of its own for the loader and waits for that. -/
  | delegated
  | loading
  /-- The loader's task is over; the load task does not know yet. -/
  | ended (answer : LoadAnswer)
  | done
deriving DecidableEq, Repr

inductive Status where
  | uninitialized
  | loading
  | ready
  | failed (reason : String)
deriving DecidableEq, Repr

namespace Status

def isReady (s : Status) : Bool := s == .ready

def isSettled : Status → Bool
  | .ready | .failed _ => true
  | _ => false

def ofOutcome : Except String Unit → Status
  | .ok () => .ready
  | .error reason => .failed reason

end Status

structure Startup where
  location : String
  loader : String → LoadAnswer
  /-- Whether a loader at work may come to an end. -/
  mayFinish : Bool := true
  asked : Bool := false
  task : LoadTask := .absent
  outcome : Option (Except String Unit) := none
  status : Status := .uninitialized
  version : Nat := 0
  loads : Nat := 0

namespace Startup

def hasInterpreter (s : Startup) : Bool :=
  match s.outcome with
  | some (.ok _) => true
  | _ => false

def publish (s : Startup) (status : Status) : Startup :=
  { s with status, version := s.version + 1 }

def store (s : Startup) (outcome : Except String Unit) : Startup :=
  { s with outcome := s.outcome.or (some outcome) }

/-- First the outcome is stored, then its status is published. -/
def settle (s : Startup) (outcome : Except String Unit) : Startup :=
  (s.store outcome).publish (.ofOutcome outcome)

/-- Ask for the load. Only the first to ask starts it. -/
def request (s : Startup) : Startup :=
  if s.asked then s else { s with asked := true, task := .spawned }.publish .loading

def work (s : Startup) : Startup :=
  match s.task with
  | .absent | .done => s
  | .spawned => { s with task := .delegated }
  | .delegated => { s with task := .loading, loads := s.loads + 1 }
  | .loading => if s.mayFinish then { s with task := .ended (s.loader s.location) } else s
  | .ended answer => { s with task := .done }.settle answer.outcome

def allowFinish (s : Startup) : Startup := { s with mayFinish := true }

/-- Let the tasks run as far as they can: four turns bring a load to its end. -/
def runTasks (s : Startup) : Startup := s.work.work.work.work

def settled? (s : Startup) : Option Status :=
  if s.status.isSettled then some s.status else none

def ensure (s : Startup) : Option Status × Startup :=
  let s := s.request.runTasks
  (s.settled?, s)

end Startup

end Workpad
