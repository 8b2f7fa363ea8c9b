import Workpad.Report

/-!
The interpreter as the pad sees it: it resolves what code imports and evaluates code, and both may
write output first and may never answer. Output goes into the buffer installed for its stream; each
run makes one buffer for both streams, and the interpreter may keep the buffers of earlier runs.
-/
namespace Workpad

/-- What the interpreter does when it is called: write, then answer, unless it hangs. -/
structure Reply (α : Type) where
  output : List Chunk := []
  answer : Option (Except String α)

inductive Call where
  | install (stream : Stream) (buffer : Nat)
  | resolve (code : String)
  | evaluate (code : String)
deriving DecidableEq, Repr

/-- An interpreter. It may remember every call made of it; the last one is the one to reply to. -/
structure Interpreter where
  resolve : List Call → String → Reply Unit
  evaluate : List Call → String → Reply (Option String)

structure Sinks where
  buffers : List (List Chunk) := []
  out : Option Nat := none
  err : Option Nat := none
deriving DecidableEq, Repr

namespace Sinks

def installed? (s : Sinks) : Stream → Option Nat
  | .out => s.out
  | .err => s.err

def next (s : Sinks) : Nat := s.buffers.length

def add (s : Sinks) : Sinks := { s with buffers := s.buffers ++ [[]] }

def install (s : Sinks) (buffer : Nat) : Stream → Sinks
  | .out => { s with out := some buffer }
  | .err => { s with err := some buffer }

/-- Write to one of the buffers, be it installed or left over from an earlier run. -/
def write (s : Sinks) (buffer : Nat) (c : Chunk) : Sinks :=
  { s with buffers := s.buffers.modify buffer (· ++ [c]) }

def contents (s : Sinks) (buffer : Nat) : List Chunk := (s.buffers[buffer]?).getD []

def drain (s : Sinks) (buffer : Nat) : Sinks :=
  { s with buffers := s.buffers.modify buffer fun _ => [] }

end Sinks

end Workpad
