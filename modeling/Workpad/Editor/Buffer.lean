import Workpad.Completion.Symbols
import Workpad.Files

/-!
The code being edited and its completion. An editor is a buffer together with what its surface was
told to show; only an edit tells the surface anything.
-/
namespace Workpad

def welcomeCode : String :=
  "# Welcome to the Python Pad!\n" ++
  "# Type your Python code here and click \"Run\".\n\n" ++
  "import numpy as np\n\n" ++
  "a = np.array([1, 2, 3])\n" ++
  "print(f\"Here is a numpy array: \x7ba\x7d\")\n\n" ++
  "# The result of the last expression is also displayed\n" ++
  "[x * 2 for x in range(10)]\n"

structure Buffer where
  code : String := welcomeCode
  suggestion : Option Suggestion := none
  symbols : List Symbol := Completion.pythonSymbols
deriving DecidableEq, Repr

namespace Buffer

def ghost (b : Buffer) : String := (b.suggestion.map (·.ghost)).getD ""

def edit (b : Buffer) (text : String) : Buffer :=
  { b with code := text, suggestion := suggest? b.symbols text }

def replace (b : Buffer) (text : String) : Buffer := { b with code := text, suggestion := none }

end Buffer

structure Editor where
  buffer : Buffer := {}
  /-- The ghosts the surface was told to show, in order. -/
  shown : List String := []
deriving DecidableEq, Repr

namespace Editor

def change (e : Editor) (text : String) : Editor :=
  let b := e.buffer.edit text
  { buffer := b, shown := e.shown ++ [b.ghost] }

def importText (e : Editor) (text : String) : Editor :=
  { e with buffer := e.buffer.replace text }

def exportText (e : Editor) : String := e.buffer.code

/-- Import a text file. A file that cannot be read changes nothing. -/
def load (e : Editor) (fs : Files) (p : Path) : Except FileFault Editor :=
  (fs.readText p).map e.importText

def save (e : Editor) (fs : Files) (p : Path) : Except FileFault Files :=
  fs.writeText p e.exportText

end Editor

end Workpad
