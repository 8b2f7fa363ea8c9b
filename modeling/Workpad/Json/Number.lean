import Workpad.Json.Text

/-!
Numbers of JSON text. A plain number, without fraction and exponent and below 2^64, is read to its
value; every other number only has to lie in the range of binary64. Which numbers lie there is
decided on integers: the significand keeps its leading digits while they fit 64 bits.
-/
namespace Workpad.Json

def isDigit (c : Char) : Bool := Nat.ble 48 c.toNat && c.toNat.ble 57

def digitValue (c : Char) : Nat := c.toNat - 48

/-- A number as `significand * 10 ^ exponent`; `full` once a digit no longer fitted. -/
structure Decimal where
  significand : Nat
  exponent : Int
  full : Bool
deriving DecidableEq, Repr

namespace Decimal

def fits (d : Decimal) (digit : Nat) : Bool :=
  !d.full && Nat.blt (d.significand * 10 + digit) (Nat.pow 2 64)

/-- One more digit before the point; one that does not fit counts as a zero. -/
def whole (d : Decimal) (c : Char) : Decimal :=
  if d.fits (digitValue c) then { d with significand := d.significand * 10 + digitValue c }
  else { d with exponent := d.exponent + 1, full := true }

/-- One more digit behind the point; one that does not fit is dropped. -/
def part (d : Decimal) (c : Char) : Decimal :=
  if d.fits (digitValue c) then
    { d with significand := d.significand * 10 + digitValue c, exponent := d.exponent - 1 }
  else { d with full := true }

def ofDigits (digits : List Char) : Decimal := digits.foldl whole ⟨0, 0, false⟩

def withFraction (d : Decimal) (digits : List Char) : Decimal :=
  digits.foldl part { d with full := false }

/-- The nearest integer with at most 53 leading bits; a tie goes to the even neighbour. -/
def nearest (n : Nat) : Nat :=
  let unit := Nat.pow 2 (n.log2 + 1 - 53)
  let q := n / unit
  let r := n % unit
  if unit < 2 * r ∨ (2 * r = unit ∧ q % 2 = 1) then (q + 1) * unit else q * unit

/-- Too large for binary64: the product of the rounded factors would round to infinity. -/
def overflows (d : Decimal) : Bool :=
  d.significand != 0 && (decide (308 < d.exponent) ||
    (decide (0 ≤ d.exponent) &&
      Nat.ble (Nat.pow 2 1024 - Nat.pow 2 970)
        (nearest d.significand * nearest (Nat.pow 10 d.exponent.toNat))))

end Decimal

/-- The value of a plain number, or none for one that is not plain. -/
abbrev Number := Option Nat

def checkRange (d : Decimal) (rest : List Char) : Read Number :=
  if d.overflows then .error .malformed else .ok (none, rest)

def natValue (digits : List Char) : Nat :=
  digits.foldl (fun n c => n * 10 + digitValue c) 0

def readSign : List Char → Bool × List Char
  | '+' :: r => (false, r)
  | '-' :: r => (true, r)
  | s => (false, s)

def readExponent (d : Decimal) (s : List Char) : Read Number :=
  let (negative, r) := readSign s
  let digits := r.takeWhile isDigit
  let rest := r.dropWhile isDigit
  if digits.isEmpty then
    if rest.isEmpty then .error .unexpectedEnd else .error .malformed
  else
    let e : Int := natValue digits
    checkRange { d with exponent := if negative then d.exponent - e else d.exponent + e } rest

def isExponentMark (c : Char) : Bool := c == 'e' || c == 'E'

def readAfterFraction (d : Decimal) : List Char → Read Number
  | [] => checkRange d []
  | c :: r => if isExponentMark c then readExponent d r else checkRange d (c :: r)

def readFraction (d : Decimal) (s : List Char) : Read Number :=
  let digits := s.takeWhile isDigit
  let rest := s.dropWhile isDigit
  if digits.isEmpty then
    if rest.isEmpty then .error .unexpectedEnd else .error .malformed
  else readAfterFraction (d.withFraction digits) rest

def readAfterWhole (d : Decimal) (s : List Char) : Read Number :=
  let plain := if d.full then checkRange d s else .ok (some d.significand, s)
  match s with
  | [] => plain
  | c :: r =>
    if c = '.' then readFraction d r
    else if isExponentMark c then readExponent d r
    else plain

/-- A number behind its sign. Only zero itself begins with a zero. -/
def readNumber (s : List Char) : Read Number :=
  let digits := s.takeWhile isDigit
  let rest := s.dropWhile isDigit
  if digits.isEmpty then
    if rest.isEmpty then .error .unexpectedEnd else .error .malformed
  else if digits.head? = some '0' ∧ 1 < digits.length then .error .malformed
  else readAfterWhole (Decimal.ofDigits digits) rest

end Workpad.Json
