import Workpad.Text.Blank

/-!
Submitted lines and a cursor that recalls them. The cursor runs from the oldest entry to one past
the newest, which stands for the fresh line.
-/
namespace Workpad

structure History where
  entries : List String := []
  cursor : Nat := 0
deriving DecidableEq, Repr

namespace History

def accepts (h : History) (line : String) : Bool :=
  !Text.allBlank line.toList && h.entries.getLast? != some line

/-- Keep the line if it is accepted, and tell whether it was. The cursor goes to the fresh line in
any case. -/
def push (h : History) (line : String) : Bool × History :=
  let entries := if h.accepts line then h.entries ++ [line] else h.entries
  (h.accepts line, { entries, cursor := entries.length })

/-- One entry back, and the entry there; the oldest is given again and again. -/
def older (h : History) : Option String × History :=
  if h.entries.isEmpty then (none, h)
  else (h.entries[h.cursor - 1]?, { h with cursor := h.cursor - 1 })

/-- One entry forward, and the entry there; none on the fresh line. -/
def newer (h : History) : Option String × History :=
  if h.cursor + 1 < h.entries.length then
    (h.entries[h.cursor + 1]?, { h with cursor := h.cursor + 1 })
  else (none, { h with cursor := h.entries.length })

end History

end Workpad
