import Workpad.Plot.Plotter

/-!
Several pieces of prepared code at once, by name, beside others who claim and release the slot. Every
order of preparing, finishing and dropping code, of claims from outside and of clearing the
transcript is a list of events.
-/
namespace Workpad

structure Bench where
  plotter : Plotter
  transcript : Transcript := {}
  alive : List (String × Prepared) := []

namespace Bench

inductive Event where
  /-- Code already prepared under the name is dropped afterwards. -/
  | prepare (name code : String)
  | finish (name : String)
  | drop (name : String)
  | attach (name : String) (control : Control)
  | claim (id : TargetId)
  | release (id : TargetId)
  | releaseFor (name : String)
  | clear
deriving DecidableEq, Repr

inductive Answer where
  | done
  | prepared (p : Prepared)
  | attached (found : Bool)
  | claimed
  | held (holder : TargetId)
  | released (held : Bool)
  | cleared (targets : Nat)
deriving DecidableEq, Repr

def alive? (b : Bench) (name : String) : Option Prepared := b.alive.lookup name

def target? (b : Bench) (name : String) : Option TargetId :=
  (b.alive? name).bind (·.target)

def forget (b : Bench) (name : String) : Bench :=
  { b with alive := b.alive.filter (·.1 != name) }

def drop (b : Bench) (name : String) : Bench :=
  match b.alive? name with
  | some p => { b.forget name with plotter := b.plotter.abandon p }
  | none => b

/-- Prepare code. What was alive under its name goes once the new code is there. -/
def prepare (b : Bench) (name code : String) : Prepared × Bench :=
  let (p, plotter, transcript) := b.plotter.prepare code b.transcript
  let b := { b with plotter, transcript }.drop name
  (p, { b with alive := (name, p) :: b.alive })

def finish (b : Bench) (name : String) : Bench :=
  match b.alive? name with
  | some p =>
    let (plotter, transcript) := b.plotter.finish p b.transcript
    { b.forget name with plotter, transcript }
  | none => b

def attach (b : Bench) (name : String) (c : Control) : Bool × Bench :=
  match b.target? name with
  | some id =>
    let (found, transcript) := b.transcript.attachControl id c
    (found, { b with transcript })
  | none => (false, b)

def withSlot (b : Bench) (slot : Slot) : Bench := { b with plotter := { b.plotter with slot } }

def claim (b : Bench) (id : TargetId) : Answer × Bench :=
  match b.plotter.slot.claim id with
  | .error holder => (.held holder, b)
  | .ok slot => (.claimed, b.withSlot slot)

def release (b : Bench) (id : TargetId) : Answer × Bench :=
  let (held, slot) := b.plotter.slot.release id
  (.released held, b.withSlot slot)

def step (b : Bench) : Event → Answer × Bench
  | .prepare name code =>
    let (p, b) := b.prepare name code
    (.prepared p, b)
  | .finish name => (.done, b.finish name)
  | .drop name => (.done, b.drop name)
  | .attach name c =>
    let (found, b) := b.attach name c
    (.attached found, b)
  | .claim id => b.claim id
  | .release id => b.release id
  | .releaseFor name =>
    match b.target? name with
    | some id => b.release id
    | none => (.done, b)
  | .clear =>
    let (targets, transcript) := b.transcript.clear
    (.cleared targets, { b with transcript })

def run (b : Bench) (es : List Event) : Bench := es.foldl (fun b e => (b.step e).2) b

end Bench

end Workpad
