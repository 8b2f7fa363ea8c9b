import Workpad.Editor.Buffer

/-!
Any number of editors over the same files. Each has code of its own, and what one of them saves another
may load. Every order of edits, imports, loads and saves is a list of events.
-/
namespace Workpad

structure Editors (ι : Type) where
  editor : ι → Editor
  files : Files

namespace Editors
variable {ι : Type}

inductive Event (ι : Type) where
  | change (who : ι) (text : String)
  | importText (who : ι) (text : String)
  | load (who : ι) (path : Path)
  | save (who : ι) (path : Path)
deriving DecidableEq, Repr

inductive Answer where
  | done
  | failed (why : FileFault)
deriving DecidableEq, Repr

variable [DecidableEq ι]

def put (s : Editors ι) (who : ι) (e : Editor) : Editors ι :=
  { s with editor := fun i => if i = who then e else s.editor i }

def step (s : Editors ι) : Event ι → Answer × Editors ι
  | .change who text => (.done, s.put who ((s.editor who).change text))
  | .importText who text => (.done, s.put who ((s.editor who).importText text))
  | .load who path =>
    match (s.editor who).load s.files path with
    | .ok e => (.done, s.put who e)
    | .error why => (.failed why, s)
  | .save who path =>
    match (s.editor who).save s.files path with
    | .ok files => (.done, { s with files })
    | .error why => (.failed why, s)

def run (s : Editors ι) (xs : List (Event ι)) : Editors ι := xs.foldl (fun s x => (s.step x).2) s

end Editors

end Workpad
