import Workpad.Text.Blank
import Workpad.Text.Case

/-!
What a submitted line asks for. The first word of the trimmed line decides, case aside; a line that
names no command is code and is kept as it was typed.
-/
namespace Workpad

inductive Command where
  | help
  | clear
  | echo (text : String)
  | code (line : String)
deriving DecidableEq, Repr

namespace Command

/-- The text before the first white space, and what follows that one character. -/
def splitToken (s : List Char) : List Char × List Char :=
  (s.takeWhile fun c => !Text.isBlank c, (s.dropWhile fun c => !Text.isBlank c).drop 1)

def ofLine? (line : String) : Option Command :=
  let (token, rest) := splitToken (Text.trim line.toList)
  if token.isEmpty then none
  else
    let word := String.ofList (Text.lower token)
    if word = "help" ∨ word = "man" then some .help
    else if word = "clear" ∨ word = "cls" then some .clear
    else if word = "echo" then some (.echo (String.ofList (Text.trimStart rest)))
    else some (.code line)

end Command

end Workpad
