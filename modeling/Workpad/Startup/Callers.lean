import Workpad.Startup.Basic

/-!
Callers that wait for the interpreter and watchers of its status, by name. Every order of making,
asking and dropping, of running the load's tasks and of letting the load end is a list of events.
-/
namespace Workpad

structure Callers where
  startup : Startup
  /-- Callers that were made and have neither been answered nor dropped, with the status version
  each saw last; none before it has asked. -/
  waiting : List (String × Option Nat) := []
  watchers : List (String × Nat) := []

namespace Callers

inductive Event where
  | make (caller : String)
  | ask (caller : String)
  | drop (caller : String)
  | allowFinish
  | work
  | subscribe (watcher : String)
  | watch (watcher : String)
deriving DecidableEq, Repr

inductive Answer where
  | done
  | gone
  | pending
  | resolved (status : Status)
  | dropped (existed : Bool)
  | seen (changed : Bool) (status : Status)
deriving DecidableEq, Repr

def forget (c : Callers) (caller : String) : Callers :=
  { c with waiting := c.waiting.filter (·.1 != caller) }

def enlist (c : Callers) (caller : String) (seen : Option Nat) : Callers :=
  { c with waiting := (caller, seen) :: (c.forget caller).waiting }

def look (c : Callers) (caller : String) : Answer × Callers :=
  match c.startup.settled? with
  | some status => (.resolved status, c.forget caller)
  | none => (.pending, c.enlist caller (some c.startup.version))

/-- A caller asks for the load when its turn comes first; later it looks only at what is new. -/
def ask (c : Callers) (caller : String) : Answer × Callers :=
  match c.waiting.lookup caller with
  | none => (.gone, c)
  | some none => { c with startup := c.startup.request }.look caller
  | some (some version) =>
    if version = c.startup.version then (.pending, c) else c.look caller

def mark (c : Callers) (watcher : String) : Callers :=
  { c with watchers := (watcher, c.startup.version) :: c.watchers.filter (·.1 != watcher) }

def step (c : Callers) : Event → Answer × Callers
  | .make caller => (.done, c.enlist caller none)
  | .ask caller => c.ask caller
  | .drop caller => (.dropped (c.waiting.lookup caller).isSome, c.forget caller)
  | .allowFinish => (.done, { c with startup := c.startup.allowFinish })
  | .work => (.done, { c with startup := c.startup.work })
  | .subscribe watcher => (.done, c.mark watcher)
  | .watch watcher =>
    match c.watchers.lookup watcher with
    | some version => (.seen (version != c.startup.version) c.startup.status, c.mark watcher)
    | none => (.gone, c)

def run (c : Callers) : List Event → List Answer × Callers
  | [] => ([], c)
  | e :: es =>
    let (a, c) := c.step e
    let (as, c) := c.run es
    (a :: as, c)

end Callers

end Workpad
