/-!
Writing JSON text: quoted strings and plain numbers. Only the quote, the backslash and the control
characters below the space are escaped, in the shortest way there is.
-/
namespace Workpad.Json

def hexDigit (n : Nat) : Char := if n < 10 then Char.ofNat (48 + n) else Char.ofNat (87 + n)

def escape (c : Char) : List Char :=
  if c = '"' then ['\\', '"']
  else if c = '\\' then ['\\', '\\']
  else if c = '\x08' then ['\\', 'b']
  else if c = '\x0c' then ['\\', 'f']
  else if c = '\n' then ['\\', 'n']
  else if c = '\r' then ['\\', 'r']
  else if c = '\t' then ['\\', 't']
  else if c.toNat < 0x20 then
    ['\\', 'u', '0', '0', hexDigit (c.toNat / 16), hexDigit (c.toNat % 16)]
  else [c]

def quote (s : List Char) : List Char := '"' :: s.flatMap escape ++ ['"']

def writeNat (n : Nat) : List Char := Nat.toDigits 10 n

def writeObject (members : List (List Char × List Char)) : List Char :=
  '{' :: [','].intercalate (members.map fun m => quote m.1 ++ ':' :: m.2) ++ ['}']

end Workpad.Json
