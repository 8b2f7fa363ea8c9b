import Workpad.Queue.Basic

/-!
A queue with its callers. A caller makes a request with a handle, polls it until it is answered and
may drop it at any time; the handle lives at least as long. Every order in which callers, console and
load can take turns is a list of events. An event that does not apply changes nothing.
-/
namespace Workpad

structure Clients where
  queue : Queue
  /-- Every request that was made; a request's ticket is its place here. -/
  made : List Request := []
  /-- The requests that are neither answered nor dropped. Until it is polled, a request is still with
  its caller. -/
  asking : List (Ticket × Option Request) := []
  told : List (Ticket × Queue.Answer) := []

namespace Clients

inductive Event where
  | make (r : Request)
  | poll (t : Ticket)
  | drop (t : Ticket)
  | clone
  | dropHandle
  | work
  | load
  | allowFinish
  | abort
deriving DecidableEq, Repr

def ofConsole (c : Console) (depth : Nat) : Clients where
  queue := Queue.ofConsole c depth

def make (s : Clients) (r : Request) : Clients :=
  if s.queue.handles = 0 then s
  else { s with made := s.made ++ [r], asking := s.asking ++ [(s.made.length, some r)] }

def forget (s : Clients) (t : Ticket) : Clients :=
  { s with asking := s.asking.filter fun a => a.1 != t }

def look (s : Clients) (t : Ticket) : Clients :=
  match s.queue.answer t with
  | .pending => { s with asking := (t, none) :: (s.forget t).asking }
  | answer => { s.forget t with told := s.told ++ [(t, answer)] }

/-- The first poll makes the request of the queue, each further one looks for room and a reply. -/
def poll (s : Clients) (t : Ticket) : Clients :=
  match s.asking.lookup t with
  | none => s
  | some (some r) => { s with queue := s.queue.send t r }.look t
  | some none => { s with queue := s.queue.retry t }.look t

def drop (s : Clients) (t : Ticket) : Clients := { s.forget t with queue := s.queue.leave t }

/-- A handle goes away; the last one only when no request needs it. -/
def dropHandle (s : Clients) : Clients :=
  if s.queue.handles = 1 ∧ s.asking ≠ [] then s else { s with queue := s.queue.dropHandle }

def clone (s : Clients) : Clients :=
  if s.queue.handles = 0 then s else { s with queue := s.queue.clone }

def step (i : Interpreter) (s : Clients) : Event → Clients
  | .make r => s.make r
  | .poll t => s.poll t
  | .drop t => s.drop t
  | .clone => s.clone
  | .dropHandle => s.dropHandle
  | .work => { s with queue := s.queue.work i }
  | .load => { s with queue := s.queue.load }
  | .allowFinish => { s with queue := s.queue.allowFinish }
  | .abort => { s with queue := s.queue.abort }

def run (i : Interpreter) (s : Clients) (es : List Event) : Clients := es.foldl (step i) s

end Clients

end Workpad
