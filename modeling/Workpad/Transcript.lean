/-!
The record of everything shown in the console pane: echoes, fragments and plot targets, in order. A
view, if there is one, is told of every change and can rebuild the pane from what it was told.
Entries go only when all of them go.
-/
namespace Workpad

structure TargetId where
  text : String
deriving DecidableEq, Repr

inductive Action where
  | saveImage
  | saveVector
  | saveDocument
  | other (name : String)
deriving DecidableEq, Repr

structure Control where
  action : Action
  label : String
deriving DecidableEq, Repr

structure Target where
  id : TargetId
  controls : List Control := []
deriving DecidableEq, Repr

def Target.attach (t : Target) (c : Control) : Target := { t with controls := t.controls ++ [c] }

inductive Entry where
  | echo (text : String)
  | fragment (text : String)
  | target (t : Target)
deriving DecidableEq, Repr

def Entry.target? : Entry → Option Target
  | .target t => some t
  | _ => none

def Entry.text? : Entry → Option String
  | .echo s => some s
  | .fragment s => some s
  | .target _ => none

inductive ViewEvent where
  | append (text : String)
  | attach (id : TargetId)
  | clear
deriving DecidableEq, Repr

structure Transcript where
  entries : List Entry := []
  /-- What the view was told, in order; none without a view. -/
  told : Option (List ViewEvent) := some []
deriving DecidableEq, Repr

namespace Transcript

def tell (t : Transcript) (e : ViewEvent) : Transcript :=
  { t with told := t.told.map fun es => es ++ [e] }

def pushEcho (t : Transcript) (line : String) : Transcript :=
  { t.tell (.append line) with entries := t.entries ++ [.echo line] }

def pushFragment (t : Transcript) (text : String) : Transcript :=
  { t.tell (.append text) with entries := t.entries ++ [.fragment text] }

def attachTarget (t : Transcript) (target : Target) : Transcript :=
  { t.tell (.attach target.id) with entries := t.entries ++ [.target target] }

def targets (t : Transcript) : List Target := t.entries.filterMap Entry.target?

def hasTarget (t : Transcript) (id : TargetId) : Bool := t.targets.any fun x => x.id == id

def changeFirst (id : TargetId) (f : Target → Target) : List Entry → List Entry
  | [] => []
  | .target x :: r => if x.id = id then .target (f x) :: r else .target x :: changeFirst id f r
  | e :: r => e :: changeFirst id f r

/-- Change a target in its place. The view is told nothing. -/
def changeTarget (t : Transcript) (id : TargetId) (f : Target → Target) : Transcript :=
  { t with entries := changeFirst id f t.entries }

/-- Attach a control to a target, and tell whether the target is there. -/
def attachControl (t : Transcript) (id : TargetId) (c : Control) : Bool × Transcript :=
  (t.hasTarget id, t.changeTarget id (·.attach c))

/-- Remove everything, and tell how many targets went with it. -/
def clear (t : Transcript) : Nat × Transcript :=
  (t.targets.length, { t.tell .clear with entries := [] })

def text (t : Transcript) : String := "\n".intercalate (t.entries.filterMap Entry.text?)

end Transcript

end Workpad
