import Workpad.Json.Number

/-!
Passing over a value that nobody looks at. The value has to be well formed; it may be nested to any
depth, and its numbers may have any size. The brackets that are open stand on a stack.
-/
namespace Workpad.Json

inductive Bracket where
  | array
  | object
deriving DecidableEq, Repr

def Bracket.closer : Bracket → Char
  | .array => ']'
  | .object => '}'

def skipDigits (s : List Char) : Except Refusal (List Char) :=
  if (s.takeWhile isDigit).isEmpty then .error .malformed else .ok (s.dropWhile isDigit)

def skipExponent : List Char → Except Refusal (List Char)
  | [] => .ok []
  | c :: r => if isExponentMark c then skipDigits (readSign r).2 else .ok (c :: r)

def skipFraction : List Char → Except Refusal (List Char)
  | [] => .ok []
  | c :: r =>
    if c = '.' then skipDigits r >>= skipExponent else skipExponent (c :: r)

/-- A number behind its sign. One that is cut short is malformed here, also at the end. -/
def skipNumber (s : List Char) : Except Refusal (List Char) :=
  let digits := s.takeWhile isDigit
  if digits.isEmpty then .error .malformed
  else if digits.head? = some '0' ∧ 1 < digits.length then .error .malformed
  else skipFraction (s.dropWhile isDigit)

def skipScalar (c : Char) (r : List Char) : Except Refusal (List Char) :=
  if c = '"' then skipString r
  else if c = '-' then skipNumber r
  else if isDigit c then skipNumber (c :: r)
  else match literalTail? c with
    | some tail => skipExact tail r
    | none => .error .malformed

def skipKey (s : List Char) : Except Refusal (List Char) :=
  match skipSpace s with
  | [] => .error .unexpectedEnd
  | c :: r =>
    if c = '"' then
      match skipString r with
      | .error e => .error e
      | .ok rest =>
        match skipSpace rest with
        | [] => .error .unexpectedEnd
        | d :: rest => if d = ':' then .ok rest else .error .malformed
    else .error .malformed

/-- What stands before a value inside a bracket: a key in an object, nothing in an array. -/
def skipLead : Bracket → List Char → Except Refusal (List Char)
  | .array, s => .ok s
  | .object, s => skipKey s

mutual

/-- A value, then what closes the brackets of `stack`. -/
def skipFrom : Nat → List Bracket → List Char → Except Refusal (List Char)
  | 0, _, _ => .error .malformed
  | fuel + 1, stack, s =>
    match skipSpace s with
    | [] => .error .unexpectedEnd
    | c :: r =>
      if c = '[' then skipOpened fuel .array stack r
      else if c = '{' then skipOpened fuel .object stack r
      else match skipScalar c r with
        | .error e => .error e
        | .ok rest => skipClosing fuel stack rest

def skipOpened : Nat → Bracket → List Bracket → List Char → Except Refusal (List Char)
  | 0, _, _, _ => .error .malformed
  | fuel + 1, b, stack, s =>
    match skipSpace s with
    | [] => .error .unexpectedEnd
    | c :: r =>
      if c = b.closer then skipClosing fuel stack r
      else match skipLead b (c :: r) with
        | .error e => .error e
        | .ok rest => skipFrom fuel (b :: stack) rest

def skipClosing : Nat → List Bracket → List Char → Except Refusal (List Char)
  | 0, _, _ => .error .malformed
  | _ + 1, [], s => .ok s
  | fuel + 1, b :: stack, s =>
    match skipSpace s with
    | [] => .error .unexpectedEnd
    | c :: r =>
      if c = ',' then
        match skipLead b r with
        | .error e => .error e
        | .ok rest => skipFrom fuel (b :: stack) rest
      else if c = b.closer then skipClosing fuel stack r
      else .error .malformed

end

/-- Each step takes a character or is followed by one that does, so the fuel suffices. -/
def skipValue (s : List Char) : Except Refusal (List Char) := skipFrom (2 * s.length + 3) [] s

end Workpad.Json
