import Workpad.Text.CaseData

/-!
Case mapping of text in full: a character may become several, and a capital sigma becomes the
final form at the end of a word. Everything else is mapped character by character.
-/
namespace Workpad.Text

def isAscii (c : Char) : Bool := c.toNat.ble 0x7F

def lowerChar (c : Char) : List Char :=
  if isAscii c then [c.toLower]
  else match lowerExpansions.lookup c.toNat with
    | some image => image.map Char.ofNat
    | none => [((lookup lowerRuns c.toNat).map Char.ofNat).getD c]

def upperChar (c : Char) : List Char :=
  if isAscii c then [c.toUpper]
  else match upperExpansions.lookup c.toNat with
    | some image => image.map Char.ofNat
    | none => [((lookup upperRuns c.toNat).map Char.ofNat).getD c]

def isUppercase (c : Char) : Bool :=
  if isAscii c then c.isUpper else inSpans uppercaseSpans c.toNat

def isCased (c : Char) : Bool :=
  if isAscii c then c.isAlpha else inSpans casedSpans c.toNat

def isCaseIgnorable (c : Char) : Bool :=
  if isAscii c then ['\'', '.', ':', '^', '\x60'].contains c
  else inSpans caseIgnorableSpans c.toNat

def startsCased (s : List Char) : Bool :=
  (s.dropWhile isCaseIgnorable).head?.any isCased

/-- `afterCased`: the last character that counts, before this text, is cased. -/
def lowerFrom (afterCased : Bool) : List Char → List Char
  | [] => []
  | c :: r =>
    let here :=
      if c == 'Σ' then [if afterCased && !startsCased r then 'ς' else 'σ'] else lowerChar c
    here ++ lowerFrom (if isCaseIgnorable c then afterCased else isCased c) r

/-- A sigma is final when a cased character stands before it and none after it. -/
def lower (s : List Char) : List Char := lowerFrom false s

def upper (s : List Char) : List Char := s.flatMap upperChar

end Workpad.Text
