import Workpad.Text.Blank

/-!
The table shown by `help`: two columns in a border, descriptions wrapped to a width. Words longer
than the width are cut; all others are packed greedily. Widths count characters.
-/
namespace Workpad

structure Builtin where
  command : String
  description : String
deriving DecidableEq, Repr

namespace HelpTable

def builtins : List Builtin := [
  ⟨"help, man", "Show this list of console commands."⟩,
  ⟨"clear, cls", "Clear the console output and remove every plot drawn in it."⟩,
  ⟨"echo <text>", "Print the given text to the console."⟩,
  ⟨"<code>", "Anything else is run as Python code; the value of a trailing expression is " ++
    "shown after <--."⟩]

def commandHeader : String := "Command"

def descriptionHeader : String := "Description"

/-- A word cut into full pieces of `w + 1` characters and a last piece that is not longer. -/
def cut (w : Nat) (word : List Char) : List (List Char) × List Char :=
  if w + 1 < word.length then
    let (full, last) := cut w (word.drop (w + 1))
    (word.take (w + 1) :: full, last)
  else ([], word)
termination_by word.length
decreasing_by simp; omega

def close (line : List Char) : List (List Char) := if line.isEmpty then [] else [line]

def pack (w : Nat) : List Char → List (List Char) → List (List Char)
  | line, [] => close line
  | line, word :: rest =>
    let (full, last) := cut w word
    if !full.isEmpty then close line ++ full ++ pack w last rest
    else if line.isEmpty then pack w last rest
    else if line.length + 1 + last.length ≤ w + 1 then pack w (line ++ ' ' :: last) rest
    else line :: pack w last rest

/-- The text in lines of at most `width` characters, at least one; a blank text is one empty
line. -/
def wrap (width : Nat) (text : List Char) : List (List Char) :=
  match pack (width - 1) [] (Text.words text) with
  | [] => [[]]
  | lines => lines

def pad (width : Nat) (text : List Char) : List Char :=
  text ++ List.replicate (width - text.length) ' '

def row (commandWidth descriptionWidth : Nat) (command description : List Char) : List Char :=
  ['|', ' '] ++ pad commandWidth command ++ [' ', '|', ' '] ++
    pad descriptionWidth description ++ [' ', '|']

def border (commandWidth descriptionWidth : Nat) : List Char :=
  ['+'] ++ List.replicate (commandWidth + 2) '-' ++ ['+'] ++
    List.replicate (descriptionWidth + 2) '-' ++ ['+']

/-- The rows of one command: only the first names it. -/
def group (commandWidth descriptionWidth : Nat) (command : List Char)
    (lines : List (List Char)) : List (List Char) :=
  match lines with
  | [] => []
  | first :: rest =>
    row commandWidth descriptionWidth command first ::
      rest.map (row commandWidth descriptionWidth [])

def longest (texts : List (List Char)) : Nat := (texts.map List.length).foldr max 0

def commandWidth : Nat :=
  longest (commandHeader.toList :: builtins.map (·.command.toList))

def descriptionWidth (wrapWidth : Nat) : Nat :=
  longest (descriptionHeader.toList ::
    builtins.flatMap fun b => wrap wrapWidth b.description.toList)

def lines (wrapWidth : Nat) : List (List Char) :=
  let c := commandWidth
  let d := descriptionWidth wrapWidth
  [border c d, row c d commandHeader.toList descriptionHeader.toList, border c d] ++
    builtins.flatMap (fun b => group c d b.command.toList (wrap wrapWidth b.description.toList)) ++
    [border c d]

def render (wrapWidth : Nat) : String :=
  "\n".intercalate ((lines wrapWidth).map String.ofList)

end HelpTable

end Workpad
