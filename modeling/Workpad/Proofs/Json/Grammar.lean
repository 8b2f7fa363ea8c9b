import Mathlib.Tactic.FinCases
import Workpad.Json.Record

/-!
The texts of JSON: gaps between tokens, strings in all their spellings, numbers, and values nested to
any depth. They are said without the readers, which are then shown to take them whole.
-/
namespace Workpad.Json

def Gap (s : List Char) : Prop := ∀ c ∈ s, c ∈ [' ', '\t', '\n', '\r']

def hexDigits : List (Char × Nat) :=
  "0123456789abcdef".toList.zipIdx ++ "ABCDEF".toList.zipIdx 10

inductive Hex4 : List Char → Nat → Prop
  | mk {a b c d : Char} {w x y z : Nat} (first : (a, w) ∈ hexDigits) (second : (b, x) ∈ hexDigits)
    (third : (c, y) ∈ hexDigits) (fourth : (d, z) ∈ hexDigits) :
    Hex4 [a, b, c, d] (((w * 16 + x) * 16 + y) * 16 + z)

def shortEscapes : List (Char × Char) :=
  [('"', '"'), ('\\', '\\'), ('/', '/'), ('b', '\x08'), ('f', '\x0c'), ('n', '\n'), ('r', '\r'),
    ('t', '\t')]

def Plain (c : Char) : Prop := c ≠ '"' ∧ c ≠ '\\' ∧ 0x20 ≤ c.toNat

/-- What may stand between the quotes to say a text. A character outside the basic plane may be
spelled in two halves. -/
inductive Spells : List Char → List Char → Prop
  | nil : Spells [] []
  | plain {c : Char} {text s : List Char} (plain : Plain c) (rest : Spells text s) :
    Spells (c :: text) (c :: s)
  | short {e x : Char} {text s : List Char} (named : (e, x) ∈ shortEscapes) (rest : Spells text s) :
    Spells ('\\' :: e :: text) (x :: s)
  | unicode {hex text s : List Char} {n : Nat} (digits : Hex4 hex n)
    (whole : n < 0xD800 ∨ 0xDFFF < n) (rest : Spells text s) :
    Spells ('\\' :: 'u' :: (hex ++ text)) (Char.ofNat n :: s)
  | halves {hex hex' text s : List Char} {high low : Nat} (digits : Hex4 hex high)
    (digits' : Hex4 hex' low) (first : 0xD800 ≤ high ∧ high ≤ 0xDBFF)
    (second : 0xDC00 ≤ low ∧ low ≤ 0xDFFF) (rest : Spells text s) :
    Spells ('\\' :: 'u' :: (hex ++ '\\' :: 'u' :: (hex' ++ text)))
      (Char.ofNat (0x10000 + (high - 0xD800) * 0x400 + (low - 0xDC00)) :: s)

def StringText (text : List Char) (s : String) : Prop :=
  ∃ inner, text = '"' :: inner ++ ['"'] ∧ Spells inner s.toList

/-- What may stand between quotes where nobody asks for a text: halves of characters may stand
alone. -/
inductive Loose : List Char → Prop
  | nil : Loose []
  | plain {c : Char} {text : List Char} (plain : Plain c) (rest : Loose text) : Loose (c :: text)
  | short {e x : Char} {text : List Char} (named : (e, x) ∈ shortEscapes) (rest : Loose text) :
    Loose ('\\' :: e :: text)
  | unicode {hex text : List Char} {n : Nat} (digits : Hex4 hex n) (rest : Loose text) :
    Loose ('\\' :: 'u' :: (hex ++ text))

def decimalDigits : List Char := ['0', '1', '2', '3', '4', '5', '6', '7', '8', '9']

def Digits (s : List Char) : Prop := s ≠ [] ∧ ∀ c ∈ s, c ∈ decimalDigits

/-- The whole part of a number has no zeros in front. -/
def Whole (s : List Char) : Prop := Digits s ∧ (s.head? = some '0' → s = ['0'])

def Fraction (s : List Char) : Prop := s = [] ∨ ∃ digits, Digits digits ∧ s = '.' :: digits

def Exponent (s : List Char) : Prop :=
  s = [] ∨ ∃ mark sign digits, mark ∈ ['e', 'E'] ∧ sign ∈ [[], ['+'], ['-']] ∧ Digits digits ∧
    s = mark :: (sign ++ digits)

inductive Scalar : List Char → Prop
  | literal {text : String} (named : text ∈ ["null", "true", "false"]) : Scalar text.toList
  | string {inner : List Char} (loose : Loose inner) : Scalar ('"' :: inner ++ ['"'])
  | number {whole fraction exponent : List Char} (negative : Bool) (hw : Whole whole)
    (hf : Fraction fraction) (he : Exponent exponent) :
    Scalar ((if negative then ['-'] else []) ++ (whole ++ (fraction ++ exponent)))

def Bracket.opener : Bracket → Char
  | .array => '['
  | .object => '{'

inductive Lead : Bracket → List Char → Prop
  | array : Lead .array []
  | object {gap inner gap' : List Char} (hg : Gap gap) (loose : Loose inner) (hg' : Gap gap') :
    Lead .object (gap ++ ('"' :: inner ++ '"' :: (gap' ++ [':'])))

inductive Part where
  | value
  | items (b : Bracket)

inductive Written : Part → List Char → Prop
  | scalar {text : List Char} (scalar : Scalar text) : Written .value text
  | empty {gap : List Char} (b : Bracket) (hg : Gap gap) :
    Written .value (b.opener :: (gap ++ [b.closer]))
  | filled {b : Bracket} {items : List Char} (inside : Written (.items b) items) :
    Written .value (b.opener :: (items ++ [b.closer]))
  | last {b : Bracket} {lead gap value gap' : List Char} (hl : Lead b lead) (hg : Gap gap)
    (hv : Written .value value) (hg' : Gap gap') :
    Written (.items b) (lead ++ (gap ++ (value ++ gap')))
  | more {b : Bracket} {lead gap value gap' items : List Char} (hl : Lead b lead) (hg : Gap gap)
    (hv : Written .value value) (hg' : Gap gap') (hi : Written (.items b) items) :
    Written (.items b) (lead ++ (gap ++ (value ++ (gap' ++ ',' :: items))))

/-! Gaps are skipped. -/

theorem isSpace_of_mem {c : Char} (h : c ∈ [' ', '\t', '\n', '\r']) : isSpace c = true := by
  fin_cases h <;> rfl

theorem gap_nil : Gap [] := by simp [Gap]

theorem Gap.skip {gap : List Char} (h : Gap gap) (s : List Char) :
    skipSpace (gap ++ s) = skipSpace s :=
  List.dropWhile_append_of_pos fun c hc => isSpace_of_mem (h c hc)

/-! Strings are read, or skipped, up to their second quote. -/

theorem hexValue?_of_mem {c : Char} {n : Nat} (h : (c, n) ∈ hexDigits) : hexValue? c = some n := by
  have all : ∀ x ∈ hexDigits, hexValue? x.1 = some x.2 := by decide
  exact all _ h

theorem Hex4.read {hex : List Char} {n : Nat} (h : Hex4 hex n) (rest : List Char) :
    readHex4 (hex ++ rest) = .ok (n, rest) := by
  cases h with
  | mk a b c d =>
    simp [readHex4, hexValue?_of_mem a, hexValue?_of_mem b, hexValue?_of_mem c, hexValue?_of_mem d]

theorem shortEscape?_of_mem {e x : Char} (h : (e, x) ∈ shortEscapes) :
    shortEscape? e = some x ∧ e ≠ 'u' := by
  have all : ∀ x ∈ shortEscapes, shortEscape? x.1 = some x.2 ∧ x.1 ≠ 'u' := by decide
  exact all _ h

theorem readString_close (r : List Char) : readString ('"' :: r) = .ok ([], r) := by
  rw [readString]
  simp

theorem readString_escape {r rest : List Char} {x : Char} (h : readEscape r = .ok (x, rest)) :
    readString ('\\' :: r) = push x (readString rest) := by
  rw [readString, if_neg (by decide), if_pos rfl]
  split
  · simp_all
  · simp_all

theorem readString_plain {c : Char} (h : Plain c) (r : List Char) :
    readString (c :: r) = push c (readString r) := by
  obtain ⟨quote, backslash, control⟩ := h
  rw [readString, if_neg quote, if_neg backslash, if_neg (by omega)]

theorem readEscape_short {e x : Char} (h : (e, x) ∈ shortEscapes) (r : List Char) :
    readEscape (e :: r) = .ok (x, r) := by
  obtain ⟨named, other⟩ := shortEscape?_of_mem h
  simp [readEscape, named, other]

theorem isHighSurrogate_iff (n : Nat) : isHighSurrogate n = true ↔ 0xD800 ≤ n ∧ n ≤ 0xDBFF := by
  simp [isHighSurrogate]

theorem isLowSurrogate_iff (n : Nat) : isLowSurrogate n = true ↔ 0xDC00 ≤ n ∧ n ≤ 0xDFFF := by
  simp [isLowSurrogate]

theorem readEscape_unicode {hex : List Char} {n : Nat} (digits : Hex4 hex n)
    (whole : n < 0xD800 ∨ 0xDFFF < n) (r : List Char) :
    readEscape ('u' :: (hex ++ r)) = .ok (Char.ofNat n, r) := by
  have notLow : isLowSurrogate n = false := by
    rw [Bool.eq_false_iff, ne_eq, isLowSurrogate_iff]
    omega
  have notHigh : isHighSurrogate n = false := by
    rw [Bool.eq_false_iff, ne_eq, isHighSurrogate_iff]
    omega
  simp [readEscape, digits.read, notLow, notHigh]

theorem readEscape_halves {hex hex' : List Char} {high low : Nat} (digits : Hex4 hex high)
    (digits' : Hex4 hex' low) (first : 0xD800 ≤ high ∧ high ≤ 0xDBFF)
    (second : 0xDC00 ≤ low ∧ low ≤ 0xDFFF) (r : List Char) :
    readEscape ('u' :: (hex ++ '\\' :: 'u' :: (hex' ++ r))) =
      .ok (Char.ofNat (0x10000 + (high - 0xD800) * 0x400 + (low - 0xDC00)), r) := by
  have notLow : isLowSurrogate high = false := by
    rw [Bool.eq_false_iff, ne_eq, isLowSurrogate_iff]
    omega
  have isHigh := (isHighSurrogate_iff high).mpr first
  have isLow := (isLowSurrogate_iff low).mpr second
  simp [readEscape, digits.read, notLow, isHigh, readLowHalf, digits'.read, isLow]

theorem Spells.read {inner s : List Char} (h : Spells inner s) (rest : List Char) :
    readString (inner ++ '"' :: rest) = .ok (s, rest) := by
  induction h with
  | nil => exact readString_close rest
  | plain plain _ ih =>
    rw [List.cons_append, readString_plain plain, ih]
    rfl
  | short named _ ih =>
    rw [List.cons_append, List.cons_append, readString_escape (readEscape_short named _), ih]
    rfl
  | unicode digits whole _ ih =>
    rw [List.cons_append, List.cons_append, List.append_assoc,
      readString_escape (readEscape_unicode digits whole _), ih]
    rfl
  | halves digits digits' first second _ ih =>
    rw [List.cons_append, List.cons_append, List.append_assoc, List.cons_append, List.cons_append,
      List.append_assoc, readString_escape (readEscape_halves digits digits' first second _), ih]
    rfl

theorem Loose.skip {inner : List Char} (h : Loose inner) (rest : List Char) :
    skipString (inner ++ '"' :: rest) = .ok rest := by
  induction h with
  | nil =>
    rw [List.nil_append, skipString.eq_def]
    simp
  | @plain c _ plain _ ih =>
    obtain ⟨quote, backslash, control⟩ := plain
    have printed : ¬c.toNat < 0x20 := by omega
    rw [List.cons_append, skipString.eq_def]
    simp only [quote, backslash, printed, if_false]
    exact ih
  | short named _ ih =>
    obtain ⟨named, other⟩ := shortEscape?_of_mem named
    rw [List.cons_append, List.cons_append, skipString.eq_def]
    simp [other, named, ih]
  | unicode digits _ ih =>
    rw [List.cons_append, List.cons_append, List.append_assoc, skipString.eq_def]
    simp only [Char.reduceEq, if_false, if_true]
    split
    next e he => simp [digits.read] at he
    next n r he =>
      rw [digits.read] at he
      obtain ⟨-, rfl⟩ := Prod.mk.inj (Except.ok.inj he)
      exact ih

end Workpad.Json
