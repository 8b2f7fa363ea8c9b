/-!
The host of a location: a domain name, or an address of either family. In the schemes that name
servers a domain that ends in a number has to be an address, and domains are read in ASCII alone: an
international name is refused there, in letters of its own as in the form that begins with `xn--`.
-/
namespace Workpad

inductive LocationError where
  | relative
  | emptyHost
  | invalidDomain
  | invalidCharacter
  | invalidPort
  | invalidIpv4
  | invalidIpv6
deriving DecidableEq, Repr

def LocationError.message : LocationError → String
  | .relative => "relative URL without a base"
  | .emptyHost => "empty host"
  | .invalidDomain => "invalid international domain name"
  | .invalidCharacter => "invalid domain character"
  | .invalidPort => "invalid port number"
  | .invalidIpv4 => "invalid IPv4 address"
  | .invalidIpv6 => "invalid IPv6 address"

inductive Host where
  | domain (name : List Char)
  | ipv4 (address : Nat)
  /-- Eight pieces of 16 bits. -/
  | ipv6 (pieces : List Nat)
deriving DecidableEq, Repr

namespace Host

def digits? (base : Nat) (s : List Char) : Option Nat :=
  s.foldl (fun acc c => do
    let n ← acc
    let d ←
      if '0' ≤ c ∧ c ≤ '9' then some (c.toNat - 48)
      else if 'a' ≤ c ∧ c ≤ 'f' then some (c.toNat - 87)
      else if 'A' ≤ c ∧ c ≤ 'F' then some (c.toNat - 55)
      else none
    if d < base then some (n * base + d) else none) (some 0)

/-! Addresses of four bytes -/

/-- A part of an address: hexadecimal behind `0x`, octal behind `0`, otherwise decimal. -/
def ipv4Part? : List Char → Option Nat
  | [] => none
  | '0' :: 'x' :: r | '0' :: 'X' :: r => digits? 16 r
  | ['0'] => some 0
  | '0' :: r => digits? 8 r
  | s => digits? 10 s

/-- The parts between dots, without an empty one at the end. -/
def dotParts (s : List Char) : List (List Char) :=
  let parts := s.splitOnP (· == '.')
  if parts.getLast? = some [] ∧ 1 < parts.length then parts.dropLast else parts

/-- Whether the last part can only be meant as a number. -/
def endsInNumber (s : List Char) : Bool :=
  match (dotParts s).getLast? with
  | some last => (!last.isEmpty && last.all Char.isDigit) || (ipv4Part? last).isSome
  | none => false

/-- The last part fills what the others leave; each of the others is a byte. -/
def ipv4? (s : List Char) : Option Nat := do
  let parts ← (dotParts s).mapM ipv4Part?
  let last ← parts.getLast?
  let init := parts.dropLast
  let room := Nat.pow 256 (4 - init.length)
  if init.length ≤ 3 ∧ init.all (· ≤ 255) ∧ last < room then
    some (init.foldl (fun n b => n * 256 + b) 0 * room + last)
  else none

/-! Addresses of eight pieces -/

/-- Four bytes in decimal, without leading zeros, as the two last pieces. -/
def ipv6Tail? (s : List Char) : Option (List Nat) := do
  let parts := s.splitOnP (· == '.')
  let bytes ← parts.mapM fun p => do
    let n ← digits? 10 p
    if p.isEmpty ∨ (p.head? = some '0' ∧ 1 < p.length) ∨ 255 < n then none else some n
  match bytes with
  | [a, b, c, d] => some [a * 256 + b, c * 256 + d]
  | _ => none

def ipv6Pieces? : List (List Char) → Option (List Nat)
  | [] => some []
  | [last] =>
    if last.contains '.' then ipv6Tail? last
    else if last.isEmpty ∨ 4 < last.length then none
    else (digits? 16 last).map ([·])
  | p :: rest => do
    if p.isEmpty ∨ 4 < p.length then none
    else some ((← digits? 16 p) :: (← ipv6Pieces? rest))

def splitGap : List Char → Option (List Char × List Char)
  | ':' :: ':' :: r => some ([], r)
  | c :: r => (splitGap r).map fun (a, b) => (c :: a, b)
  | [] => none

def colonParts (s : List Char) : List (List Char) :=
  if s.isEmpty then [] else s.splitOnP (· == ':')

/-- Eight pieces, or fewer around one gap that stands for zeros. -/
def ipv6? (s : List Char) : Option (List Nat) :=
  match splitGap s with
  | none => do
    let pieces ← ipv6Pieces? (colonParts s)
    if pieces.length = 8 then some pieces else none
  | some (before, after) => do
    if before.contains '.' then none
    let front ← ipv6Pieces? (colonParts before)
    let back ← ipv6Pieces? (colonParts after)
    if front.length + back.length ≤ 7 then
      some (front ++ List.replicate (8 - front.length - back.length) 0 ++ back)
    else none

/-! Domain names -/

def percentDecode : List Char → List Char
  | '%' :: a :: b :: r =>
    match digits? 16 [a, b] with
    | some n => Char.ofNat n :: percentDecode r
    | none => '%' :: percentDecode (a :: b :: r)
  | c :: r => c :: percentDecode r
  | [] => []

/-- Characters that no domain holds, and those beyond ASCII. -/
def isForbidden (c : Char) : Bool :=
  c.toNat ≤ 0x20 || 0x7F ≤ c.toNat || "#%/:<>?@[\\]^|".toList.contains c

def domain? (s : List Char) : Option (List Char) :=
  let name := (percentDecode s).map Char.toLower
  let labels := name.splitOnP (· == '.')
  if name.any isForbidden || labels.any ("xn--".toList.isPrefixOf ·) then none else some name

def ofBrackets (s : List Char) : Except LocationError Host :=
  if s.getLast? = some ']' then
    match ipv6? s.tail.dropLast with
    | some pieces => .ok (.ipv6 pieces)
    | none => .error .invalidIpv6
  else .error .invalidIpv6

def ofText (s : List Char) : Except LocationError Host :=
  if s.isEmpty then .error .emptyHost
  else if s.head? = some '[' then ofBrackets s
  else match domain? s with
    | none => .error .invalidDomain
    | some name =>
      if name.isEmpty then .error .emptyHost
      else if endsInNumber name then
        match ipv4? name with
        | some address => .ok (.ipv4 address)
        | none => .error .invalidIpv4
      else .ok (.domain name)

def isForbiddenAnywhere (c : Char) : Bool :=
  [0x00, 0x09, 0x0A, 0x0D, 0x20].contains c.toNat || "#/:<>?@[\\]^|".toList.contains c

/-- The host of any other scheme; it may be empty. -/
def ofOpaque (s : List Char) : Except LocationError Host :=
  if s.head? = some '[' then ofBrackets s
  else if s.any isForbiddenAnywhere then .error .invalidCharacter
  else .ok (.domain s)

/-! Writing -/

def renderIpv4 (n : Nat) : List Char :=
  ['.'].intercalate ([n / 0x1000000, n / 0x10000 % 256, n / 0x100 % 256, n % 256].map
    (Nat.toDigits 10))

def zeros (pieces : List Nat) : Nat := (pieces.takeWhile (· == 0)).length

/-- The place and length of the first of the longest runs of zeros. -/
def longestZeros : Nat → List Nat → Nat × Nat
  | _, [] => (0, 0)
  | i, p :: r =>
    let here := zeros (p :: r)
    let (j, n) := longestZeros (i + 1) r
    if n ≤ here ∧ 0 < here then (i, here) else (j, n)

def renderIpv6 (pieces : List Nat) : List Char :=
  let join (ps : List Nat) := [':'].intercalate (ps.map (Nat.toDigits 16))
  let (i, n) := longestZeros 0 pieces
  if 1 < n then join (pieces.take i) ++ [':', ':'] ++ join (pieces.drop (i + n))
  else join pieces

def render : Host → List Char
  | .domain name => name
  | .ipv4 address => renderIpv4 address
  | .ipv6 pieces => '[' :: renderIpv6 pieces ++ [']']

end Host

end Workpad
