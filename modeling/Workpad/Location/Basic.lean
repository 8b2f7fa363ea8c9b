import Workpad.Location.Host

/-!
Locations as absolute URLs. A text is a scheme and what follows it; in schemes that name servers a
host has to follow, elsewhere it may. Written back, a location that names a server has its normal form,
without the name and password of a user.
-/
namespace Workpad

structure Location where
  scheme : List Char
  host : Option Host := none
  portNumber : Option Nat := none
  /-- With its slashes. -/
  path : List Char := []
  query : Option (List Char) := none
  fragment : Option (List Char) := none
deriving DecidableEq, Repr

namespace Location

/-- Schemes that name servers, and the number that each implies behind its host. -/
def serverSchemes : List (List Char × Nat) := [
  ("http".toList, 80), ("https".toList, 443), ("ws".toList, 80), ("wss".toList, 443),
  ("ftp".toList, 21)]

def isSchemeChar (c : Char) : Bool := c.isAlphanum || c == '+' || c == '-' || c == '.'

/-- Control characters and spaces at both ends, and line breaks and tabs anywhere, do not count. -/
def clean (s : List Char) : List Char :=
  let edge (c : Char) : Bool := c.toNat ≤ 0x20
  let inner := ((s.dropWhile edge).reverse.dropWhile edge).reverse
  inner.filter fun c => c != '\t' && c != '\n' && c != '\r'

def splitScheme? (s : List Char) : Option (List Char × List Char) :=
  match s.head?, s.dropWhile isSchemeChar with
  | some c, ':' :: r =>
    if c.isAlpha then some ((s.takeWhile isSchemeChar).map Char.toLower, r) else none
  | _, _ => none

def isSlash (c : Char) : Bool := c == '/' || c == '\\'

def endsAuthority (server : Bool) (c : Char) : Bool :=
  c == '/' || c == '?' || c == '#' || (server && c == '\\')

/-- The text behind the last at sign, and whether a user was named. An at sign with neither a user
before it nor a host behind it leaves the host empty. -/
def dropUser (server : Bool) (authority tail : List Char) :
    Except LocationError (Bool × List Char) :=
  let host := (authority.reverse.takeWhile (· != '@')).reverse
  if host.length = authority.length then .ok (false, host)
  else
    let user := authority.take (authority.length - host.length - 1)
    if user.isEmpty ∧ host.isEmpty ∧ tail.head?.any (endsAuthority server) then .error .emptyHost
    else .ok (user.any (· != ':') || 1 < user.length, host)

/-- The host's text up to a colon outside brackets, and what follows it. -/
def splitHost : Bool → List Char → List Char × List Char
  | _, [] => ([], [])
  | inside, c :: r =>
    if c = ':' ∧ inside = false then ([], c :: r)
    else
      let (host, rest) := splitHost (if c = '[' then true else if c = ']' then false else inside) r
      (c :: host, rest)

def readPortNumber (s : List Char) : Except LocationError (Option Nat) :=
  let digits := s.takeWhile Char.isDigit
  let n := digits.foldl (fun n c => n * 10 + (c.toNat - 48)) 0
  if 65535 < n then .error .invalidPort
  else match s.dropWhile Char.isDigit with
    | [] => .ok (if digits.isEmpty then none else some n)
    | c :: _ =>
      if c = '\\' then .ok (if digits.isEmpty then none else some n) else .error .invalidPort

def readAuthority (server : Bool) (authority tail : List Char) :
    Except LocationError (Option Host × Option Nat) := do
  let (named, rest) ← dropUser server authority tail
  let (text, after) := splitHost false rest
  let host ← if server then Host.ofText text else Host.ofOpaque text
  if host = .domain [] ∧ (after.head? = some ':' ∨ named = true) then throw .emptyHost
  let number ← if after.head? = some ':' then readPortNumber after.tail else pure none
  return (some host, number)

/-! Normal form of what follows the host -/

/-- Controls, everything beyond ASCII, and the characters given are written as bytes. -/
def percentEncode (also : List Char) (s : List Char) : List Char :=
  let digit (n : Nat) : Char := if n < 10 then Char.ofNat (48 + n) else Char.ofNat (55 + n)
  s.flatMap fun c =>
    if c.toNat < 0x20 ∨ 0x7F ≤ c.toNat ∨ also.contains c then
      (String.singleton c).toUTF8.toList.flatMap fun b =>
        ['%', digit (b.toNat / 16), digit (b.toNat % 16)]
    else [c]

def isDot (s : List Char) : Bool :=
  [".".toList, "%2e".toList].contains (s.map Char.toLower)

def isDoubleDot (s : List Char) : Bool :=
  ["..".toList, ".%2e".toList, "%2e.".toList, "%2e%2e".toList].contains (s.map Char.toLower)

/-- Segments with dots resolved; a dot at the end leaves an empty segment. -/
def resolveDots (done : List (List Char)) : List (List Char) → List (List Char)
  | [] => done
  | s :: rest =>
    let keep (base : List (List Char)) := if rest.isEmpty then base ++ [[]] else base
    if isDoubleDot s then resolveDots (keep done.dropLast) rest
    else if isDot s then resolveDots (keep done) rest
    else resolveDots (done ++ [percentEncode " \"#<>?\x60\x7b\x7d".toList s]) rest

def serverPath (s : List Char) : List Char :=
  let segments := (s.drop 1).splitOnP isSlash
  '/' :: ['/'].intercalate (resolveDots [] segments)

def cutAt (c : Char) (s : List Char) : List Char × Option (List Char) :=
  match s.dropWhile (· != c) with
  | [] => (s, none)
  | _ :: r => (s.takeWhile (· != c), some r)

def withTail (l : Location) (server : Bool) (s : List Char) : Location :=
  let (s, fragment) := cutAt '#' s
  let (path, query) := cutAt '?' s
  { l with
    path := if server then serverPath path else path
    query := query.map (percentEncode (if server then " \"#<>'" else " \"#<>").toList)
    fragment := fragment.map (percentEncode " \"<>\x60".toList) }

def behindSlashes (scheme s : List Char) : Except LocationError Location := do
  let implied := serverSchemes.lookup scheme
  let server := implied.isSome
  let authority := s.takeWhile fun c => !endsAuthority server c
  let tail := s.dropWhile fun c => !endsAuthority server c
  let (host, number) ← readAuthority server authority tail
  let portNumber := if number = implied then none else number
  return withTail { scheme, host, portNumber } server tail

/-- A drive letter stands where a host might. -/
def isDriveLetter (s : List Char) : Bool :=
  match s with
  | [a, b] => a.isAlpha && (b == ':' || b == '|')
  | _ => false

def ofFilePart (s : List Char) : Except LocationError Location := do
  let scheme := "file".toList
  match s with
  | a :: b :: r =>
    if isSlash a && isSlash b then
      let text := r.takeWhile fun c => !endsAuthority true c
      let tail := r.dropWhile fun c => !endsAuthority true c
      if isDriveLetter text || text.isEmpty then return withTail { scheme } false r
      return withTail { scheme, host := some (← Host.ofText text) } false tail
    return withTail { scheme } false s
  | _ => return withTail { scheme } false s

def ofText (text : String) : Except LocationError Location :=
  match splitScheme? (clean text.toList) with
  | none => .error .relative
  | some (scheme, rest) =>
    if scheme = "file".toList then ofFilePart rest
    else if (serverSchemes.lookup scheme).isSome then
      behindSlashes scheme (rest.dropWhile isSlash)
    else match rest with
      | '/' :: '/' :: r => behindSlashes scheme r
      | _ => .ok (withTail { scheme } false rest)

def render (l : Location) : String :=
  let host := match l.host with
    | some h => ['/', '/'] ++ h.render
    | none => []
  let number := match l.portNumber with
    | some n => ':' :: Nat.toDigits 10 n
    | none => []
  let behind (mark : Char) : Option (List Char) → List Char
    | some s => mark :: s
    | none => []
  String.ofList (l.scheme ++ [':'] ++ host ++ number ++ l.path ++ behind '?' l.query ++
    behind '#' l.fragment)

end Location

end Workpad
