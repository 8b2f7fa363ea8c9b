import Workpad.Plot.Slot
import Workpad.Settings.Basic
import Workpad.Text.Search

/-!
Code that plots is pointed at a target of its own: a fresh target joins the transcript, takes the
slot, and its id goes into the prelude put before the code. Afterwards the save controls of that
target get the configured labels and the slot is free again. If the slot is held the code runs as it
is, without a target.
-/
namespace Workpad

structure Plotter where
  keyword : String
  prelude : String
  icons : Icons
  supply : Supply
  /-- How many ids have been taken from the supply. -/
  minted : Nat := 0
  slot : Slot := {}

structure Prepared where
  code : String
  target : Option TargetId := none
deriving DecidableEq, Repr

def Icons.label? (i : Icons) : Action → Option String
  | .saveImage => some i.image
  | .saveVector => some i.vector
  | .saveDocument => some i.document
  | .other _ => none

def Control.relabel (i : Icons) (c : Control) : Control :=
  { c with label := (i.label? c.action).getD c.label }

def Target.relabel (i : Icons) (t : Target) : Target :=
  { t with controls := t.controls.map (Control.relabel i) }

namespace Plotter

def ofSettings (s : Settings) (supply : Supply) : Plotter where
  keyword := s.plotKeyword
  prelude := s.plotPrelude
  icons := s.icons
  supply

def detects (p : Plotter) (code : String) : Bool :=
  Text.occursIn p.keyword.toList code.toList

def nextId (p : Plotter) : TargetId := p.supply.id p.minted

def mint (p : Plotter) : Plotter := { p with minted := p.minted + 1 }

/-- The prelude with its placeholders filled in, ended by a newline unless it is empty. -/
def fill (p : Plotter) (id : TargetId) : List Char :=
  let text := Text.replaceAll targetPlaceholder.toList id.text.toList p.prelude.toList
  if text.isEmpty || text.getLast? == some '\n' then text else text ++ ['\n']

def redirect (p : Plotter) (id : TargetId) (code : String) : String :=
  String.ofList (p.fill id) ++ code

/-- Code that does not plot stays as it is, and so does all code while the slot is held. -/
def prepare (p : Plotter) (code : String) (t : Transcript) : Prepared × Plotter × Transcript :=
  if p.detects code then
    let id := p.nextId
    match p.slot.claim id with
    | .error _ => ({ code }, p, t)
    | .ok slot =>
      ({ code := p.redirect id code, target := some id }, { p.mint with slot },
        t.attachTarget { id })
  else ({ code }, p, t)

/-- Give the slot back without touching the transcript. -/
def abandon (p : Plotter) (prepared : Prepared) : Plotter :=
  match prepared.target with
  | none => p
  | some id => { p with slot := (p.slot.release id).2 }

/-- Label the target's save controls, if it is still there, and give the slot back. -/
def finish (p : Plotter) (prepared : Prepared) (t : Transcript) : Plotter × Transcript :=
  match prepared.target with
  | none => (p, t)
  | some id => (p.abandon prepared, t.changeTarget id (Target.relabel p.icons))

end Plotter

end Workpad
