import Workpad.Json.Skip

/-!
Reading a record: an object whose known keys change a default, or an array of the same fields in
their order. Unknown keys are passed over, missing ones keep the default, and a known key given
twice is refused before its value is looked at.
-/
namespace Workpad.Json

structure KnownKey (σ : Type) where
  name : String
  read : Reader (σ → σ)

def KnownKey.of {σ α : Type} (name : String) (read : Reader α) (set : α → σ → σ) :
    KnownKey σ where
  name
  read s := (read s).map fun (a, rest) => (set a, rest)

/-- Why a value that is not of the wanted kind is refused: literals, numbers and strings are read
first and may have faults of their own. -/
def refuse : List Char → Refusal
  | [] => .unexpectedEnd
  | c :: r =>
    let kind {α : Type} : Except Refusal α → Refusal
      | .error e => e
      | .ok _ => .wrongKind
    if c = '"' then kind (readString r)
    else if c = '-' then kind (readNumber r)
    else if isDigit c then kind (readNumber (c :: r))
    else if c = '[' ∨ c = '{' then .wrongKind
    else match literalTail? c with
      | some tail => kind (skipExact tail r)
      | none => .malformed

def string : Reader String := fun s =>
  match skipSpace s with
  | [] => .error .unexpectedEnd
  | c :: r =>
    if c = '"' then (readString r).map fun (t, rest) => (String.ofList t, rest)
    else .error (refuse (c :: r))

/-- A plain number where only a plain number will do; a sign makes it the wrong kind. -/
def natural : Reader Nat := fun s =>
  match skipSpace s with
  | [] => .error .unexpectedEnd
  | c :: r =>
    if isDigit c then
      match readNumber (c :: r) with
      | .error e => .error e
      | .ok (some n, rest) => .ok (n, rest)
      | .ok (none, _) => .error .wrongKind
    else .error (refuse (c :: r))

section Record

variable {σ : Type} (fields : List (KnownKey σ))

def skipColon (s : List Char) : Except Refusal (List Char) :=
  match skipSpace s with
  | [] => .error .unexpectedEnd
  | c :: r => if c = ':' then .ok r else .error .malformed

def nextKey (first : Bool) (s : List Char) : Read (Option (List Char)) :=
  let quoted : List Char → Read (Option (List Char))
    | [] => .error .unexpectedEnd
    | c :: r =>
      if c = '"' then
        match readString r with
        | .error e => .error e
        | .ok (key, rest) => .ok (some key, rest)
      else .error .malformed
  match skipSpace s with
  | [] => .error .unexpectedEnd
  | c :: r =>
    if c = '}' then .ok (none, r)
    else if first then quoted (c :: r)
    else if c = ',' then quoted (skipSpace r)
    else .error .malformed

def member (key : List Char) (seen : List String) (acc : σ) (s : List Char) :
    Except Refusal (List String × σ × List Char) :=
  let name := String.ofList key
  match fields.find? fun f => f.name == name with
  | none =>
    match skipColon s with
    | .error e => .error e
    | .ok rest =>
      match skipValue rest with
      | .error e => .error e
      | .ok rest => .ok (seen, acc, rest)
  | some f =>
    if seen.contains name then .error .wrongKind
    else match skipColon s with
      | .error e => .error e
      | .ok rest =>
        match f.read rest with
        | .error e => .error e
        | .ok (change, rest) => .ok (name :: seen, change acc, rest)

def members : Nat → Bool → List String → σ → List Char → Read σ
  | 0, _, _, _, _ => .error .malformed
  | fuel + 1, first, seen, acc, s =>
    match nextKey first s with
    | .error e => .error e
    | .ok (none, rest) => .ok (acc, rest)
    | .ok (some key, rest) =>
      match member fields key seen acc rest with
      | .error e => .error e
      | .ok (seen, acc, rest) => members fuel false seen acc rest

def closeArray (s : List Char) : Except Refusal (List Char) :=
  match skipSpace s with
  | [] => .error .unexpectedEnd
  | c :: r => if c = ']' then .ok r else .error .malformed

def nextElement (first : Bool) (s : List Char) : Read Bool :=
  match skipSpace s with
  | [] => .error .unexpectedEnd
  | c :: r =>
    if c = ']' then .ok (false, c :: r)
    else if first then .ok (true, c :: r)
    else if c = ',' then
      match skipSpace r with
      | [] => .error .unexpectedEnd
      | d :: r => if d = ']' then .error .malformed else .ok (true, d :: r)
    else .error .malformed

/-- The elements of an array, one for each field while there are any. -/
def elements : List (KnownKey σ) → Bool → σ → List Char → Read σ
  | [], _, acc, s =>
    match closeArray s with
    | .error e => .error e
    | .ok rest => .ok (acc, rest)
  | f :: fs, first, acc, s =>
    match nextElement first s with
    | .error e => .error e
    | .ok (false, rest) =>
      match closeArray rest with
      | .error e => .error e
      | .ok rest => .ok (acc, rest)
    | .ok (true, rest) =>
      match f.read rest with
      | .error e => .error e
      | .ok (change, rest) => elements fs false (change acc) rest

def record (start : σ) : Reader σ := fun s =>
  match skipSpace s with
  | [] => .error .unexpectedEnd
  | c :: r =>
    if c = '{' then members fields (r.length + 1) true [] start r
    else if c = '[' then elements fields true start r
    else .error (refuse (c :: r))

end Record

def document {α : Type} (read : Reader α) (s : List Char) : Except Refusal α :=
  match read s with
  | .error e => .error e
  | .ok (a, rest) => if (skipSpace rest).isEmpty then .ok a else .error .malformed

end Workpad.Json
