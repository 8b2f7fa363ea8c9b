import Workpad.Transcript

/-!
What a view shows if it does as it is told, and all that can be done to a transcript. A view keeps
texts and the ids of targets; it does not tell echoes from fragments and knows nothing of controls.
-/
namespace Workpad

inductive Block where
  | text (text : String)
  | target (id : TargetId)
deriving DecidableEq, Repr

def Block.text? : Block → Option String
  | .text s => some s
  | .target _ => none

def Block.id? : Block → Option TargetId
  | .text _ => none
  | .target id => some id

def Entry.block : Entry → Block
  | .echo s => .text s
  | .fragment s => .text s
  | .target t => .target t.id

def ViewEvent.follow (shown : List Block) : ViewEvent → List Block
  | .append s => shown ++ [.text s]
  | .attach id => shown ++ [.target id]
  | .clear => []

def replay (told : List ViewEvent) : List Block := told.foldl ViewEvent.follow []

namespace Transcript

inductive Edit where
  | echo (line : String)
  | fragment (text : String)
  | attach (target : Target)
  /-- The first target of that id becomes another in its place, perhaps with another id. -/
  | change (id : TargetId) (f : Target → Target)
  | clear

def Edit.KeepsIds : Edit → Prop
  | .change id f => ∀ x : Target, x.id = id → (f x).id = id
  | _ => True

def edit (t : Transcript) : Edit → Transcript
  | .echo line => t.pushEcho line
  | .fragment text => t.pushFragment text
  | .attach target => t.attachTarget target
  | .change id f => t.changeTarget id f
  | .clear => t.clear.2

def editAll (t : Transcript) (es : List Edit) : Transcript := es.foldl edit t

end Transcript

end Workpad
