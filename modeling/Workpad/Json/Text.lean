/-!
The pieces of JSON text that know no nesting: space between tokens, the three literals and quoted
strings. A reader takes its piece from the front of the text, and the first fault from the left is
the one reported.
-/
namespace Workpad.Json

inductive Refusal where
  /-- The text ends inside a value. -/
  | unexpectedEnd
  /-- A well-formed value of the wrong kind, a number out of range, or a key given twice. -/
  | wrongKind
  | malformed
deriving DecidableEq, Repr

abbrev Read (α : Type) := Except Refusal (α × List Char)

/-- Takes a value, and the space before it, from the front of a text. -/
abbrev Reader (α : Type) := List Char → Read α

def isSpace (c : Char) : Bool := c == ' ' || c == '\n' || c == '\t' || c == '\r'

def skipSpace (s : List Char) : List Char := s.dropWhile isSpace

def skipExact : List Char → List Char → Except Refusal (List Char)
  | [], s => .ok s
  | _ :: _, [] => .error .unexpectedEnd
  | e :: es, c :: r => if c = e then skipExact es r else .error .malformed

/-- Literals by their first letter: what has to follow. -/
def literalTail? (c : Char) : Option (List Char) :=
  if c = 'n' then some ['u', 'l', 'l']
  else if c = 't' then some ['r', 'u', 'e']
  else if c = 'f' then some ['a', 'l', 's', 'e']
  else none

def hexValue? (c : Char) : Option Nat :=
  if '0' ≤ c ∧ c ≤ '9' then some (c.toNat - 48)
  else if 'a' ≤ c ∧ c ≤ 'f' then some (c.toNat - 87)
  else if 'A' ≤ c ∧ c ≤ 'F' then some (c.toNat - 55)
  else none

/-- Four hexadecimal digits. With fewer than four bytes left it is the text that is too short. -/
def readHex4 (s : List Char) : Read Nat :=
  match s.take 4 |>.mapM hexValue? with
  | some [a, b, c, d] => .ok (((a * 16 + b) * 16 + c) * 16 + d, s.drop 4)
  | _ =>
    if (s.take 4).foldl (fun n c => n + c.utf8Size) 0 < 4 then .error .unexpectedEnd else .error .malformed

def shortEscape? (c : Char) : Option Char :=
  if c = '"' then some '"'
  else if c = '\\' then some '\\'
  else if c = '/' then some '/'
  else if c = 'b' then some '\x08'
  else if c = 'f' then some '\x0c'
  else if c = 'n' then some '\n'
  else if c = 'r' then some '\r'
  else if c = 't' then some '\t'
  else none

def isHighSurrogate (n : Nat) : Bool := Nat.ble 0xD800 n && n.ble 0xDBFF

def isLowSurrogate (n : Nat) : Bool := Nat.ble 0xDC00 n && n.ble 0xDFFF

def readLowHalf (high : Nat) : List Char → Read Char
  | [] => .error .unexpectedEnd
  | ['\\'] => .error .unexpectedEnd
  | '\\' :: 'u' :: r =>
    match readHex4 r with
    | .error e => .error e
    | .ok (low, rest) =>
      if isLowSurrogate low then
        .ok (Char.ofNat (0x10000 + (high - 0xD800) * 0x400 + (low - 0xDC00)), rest)
      else .error .malformed
  | _ :: _ => .error .malformed

/-- The character named behind a backslash; surrogates have to come in pairs. -/
def readEscape : List Char → Read Char
  | [] => .error .unexpectedEnd
  | c :: r =>
    if c = 'u' then
      match readHex4 r with
      | .error e => .error e
      | .ok (n, rest) =>
        if isLowSurrogate n then .error .malformed
        else if isHighSurrogate n then readLowHalf n rest
        else .ok (Char.ofNat n, rest)
    else
      match shortEscape? c with
      | some x => .ok (x, r)
      | none => .error .malformed

theorem readHex4_shorter {s r : List Char} {n : Nat} (h : readHex4 s = .ok (n, r)) :
    r.length ≤ s.length := by
  unfold readHex4 at h
  split at h
  · cases h; simp
  · split at h <;> cases h

theorem readLowHalf_shorter {n : Nat} {s r : List Char} {c : Char}
    (h : readLowHalf n s = .ok (c, r)) : r.length ≤ s.length := by
  unfold readLowHalf at h
  split at h
  · cases h
  · cases h
  · split at h
    · cases h
    · rename_i hx
      have := readHex4_shorter hx
      split at h
      · simp only [Except.ok.injEq, Prod.mk.injEq] at h
        obtain ⟨-, rfl⟩ := h
        simp only [List.length_cons]; omega
      · cases h
  · cases h

theorem readEscape_shorter {s r : List Char} {c : Char} (h : readEscape s = .ok (c, r)) :
    r.length < s.length := by
  unfold readEscape at h
  split at h
  · cases h
  · split at h
    · split at h
      · cases h
      · rename_i hx
        have := readHex4_shorter hx
        split at h
        · cases h
        · split at h
          · have := readLowHalf_shorter h
            simp only [List.length_cons]; omega
          · simp only [Except.ok.injEq, Prod.mk.injEq] at h
            obtain ⟨-, rfl⟩ := h
            simp only [List.length_cons]; omega
    · split at h
      · cases h; simp
      · cases h

def push (c : Char) : Read (List Char) → Read (List Char)
  | .ok (s, rest) => .ok (c :: s, rest)
  | .error e => .error e

def readString : Reader (List Char)
  | [] => .error .unexpectedEnd
  | c :: r =>
    if c = '"' then .ok ([], r)
    else if c = '\\' then
      match _h : readEscape r with
      | .error e => .error e
      | .ok (x, rest) => push x (readString rest)
    else if c.toNat < 0x20 then .error .malformed
    else push c (readString r)
termination_by s => s.length
decreasing_by
  · have := readEscape_shorter _h
    simp only [List.length_cons]; omega
  · simp only [List.length_cons]; omega

/-- A string that nobody looks at: surrogates may stand alone. -/
def skipString : List Char → Except Refusal (List Char)
  | [] => .error .unexpectedEnd
  | c :: r =>
    if c = '"' then .ok r
    else if c = '\\' then
      match r with
      | [] => .error .unexpectedEnd
      | e :: r =>
        if e = 'u' then
          match _h : readHex4 r with
          | .error e => .error e
          | .ok (_, rest) => skipString rest
        else if (shortEscape? e).isSome then skipString r
        else .error .malformed
    else if c.toNat < 0x20 then .error .malformed
    else skipString r
termination_by s => s.length
decreasing_by
  · have := readHex4_shorter _h
    simp only [List.length_cons]; omega
  · simp only [List.length_cons]; omega
  · simp only [List.length_cons]; omega

end Workpad.Json
