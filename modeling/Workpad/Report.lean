import Workpad.Text.Blank

/-!
What running a piece of code leaves: the output in the order it was written, and how the run ended.
The fragment is the text of it all; the value or the fault stands on a line of its own at the end.
-/
namespace Workpad

inductive Stream where
  | out
  | err
deriving DecidableEq, Repr

structure Chunk where
  stream : Stream
  text : String
deriving DecidableEq, Repr

inductive Fault where
  /-- The interpreter is not there, so nothing was attempted. -/
  | notLoaded
  /-- A library that the code imports could not be had. -/
  | dependency (message : String)
  | evaluation (message : String)
deriving DecidableEq, Repr

def notLoadedMessage : String := "Error: Python runtime is not loaded."

def valueMark : String := "<-- "

def Fault.message : Fault → String
  | .notLoaded => notLoadedMessage
  | .dependency m => "DependencyError: " ++ m
  | .evaluation m => "PythonError: " ++ m

/-- How a run ended: with a fault, with a value, or with neither. -/
abbrev Outcome := Except Fault (Option String)

structure Report where
  output : List Chunk
  outcome : Outcome

namespace Report

def ofFault (f : Fault) : Report := ⟨[], .error f⟩

def value? (r : Report) : Option String := r.outcome.toOption.join

def fault? (r : Report) : Option Fault :=
  match r.outcome with
  | .error f => some f
  | .ok _ => none

def closeLine (s : List Char) : List Char :=
  if s.getLast? == some '\n' then s else s ++ ['\n']

def body (r : Report) : List Char := r.output.flatMap fun c => closeLine c.text.toList

def ending : Outcome → List Char
  | .ok (some v) => valueMark.toList ++ v.toList
  | .ok none => []
  | .error f => f.message.toList

def fragment (r : Report) : String := String.ofList (Text.trimEnd (r.body ++ ending r.outcome))

end Report

end Workpad
