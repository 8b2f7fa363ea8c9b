import Mathlib.Algebra.Group.Nat.Defs
import Workpad.Json.Quote
import Workpad.Json.Record
import Workpad.Proofs.Json.Passed

/-!
Texts that are taken for a value: a string in any spelling, among them the one that is written, and a
plain number to its value.
-/
namespace Workpad.Json

/-- The text is taken for the value, behind any gap and wherever it ends. -/
def Reads {α : Type} (read : Reader α) (text : List Char) (a : α) : Prop :=
  ∀ gap rest, Gap gap → Ends rest → read (gap ++ (text ++ rest)) = .ok (a, rest)

theorem Reads.of {σ α : Type} {read : Reader α} {text : List Char} {a : α} (h : Reads read text a)
    (name : String) (set : α → σ → σ) : Reads (KnownKey.of name read set).read text (set a) := by
  intro gap rest hg hr
  simp [KnownKey.of, h gap rest hg hr, Except.map]

theorem document_of_reads {α : Type} {read : Reader α} {gap text gap' : List Char} {a : α}
    (h : Reads read text a) (hg : Gap gap) (hg' : Gap gap') :
    document read (gap ++ (text ++ gap')) = .ok a := by
  have ends : Ends (gap' ++ []) := hg'.ends ends_nil
  have blank : skipSpace (gap' ++ []) = [] := hg'.skip []
  rw [List.append_nil] at ends blank
  simp [document, h gap gap' hg ends, blank]

/-! Strings. -/

theorem hexDigit_mem : ∀ n < 16, (hexDigit n, n) ∈ hexDigits := by decide

theorem hex4_of_lt {n : Nat} (h : n < 0x20) :
    Hex4 ['0', '0', hexDigit (n / 16), hexDigit (n % 16)] n := by
  have zero : ('0', 0) ∈ hexDigits := by decide
  have value : ((0 * 16 + 0) * 16 + n / 16) * 16 + n % 16 = n := by omega
  have hex := Hex4.mk zero zero (hexDigit_mem (n / 16) (by omega)) (hexDigit_mem (n % 16) (by omega))
  rwa [value] at hex

/-- What is written for a character spells it. -/
theorem Spells.escape {text s : List Char} (h : Spells text s) (c : Char) :
    Spells (escape c ++ text) (c :: s) := by
  unfold Json.escape
  iterate 7
    split
    next hc =>
      subst hc
      exact .short (by decide) h
  split
  next control =>
    have spelled := Spells.unicode (hex4_of_lt control) (.inl (by omega)) h
    rwa [Char.ofNat_toNat] at spelled
  next quote backslash _ _ _ _ _ control => exact .plain ⟨quote, backslash, by omega⟩ h

theorem spells_flatMap_escape (s : List Char) : Spells (s.flatMap escape) s := by
  induction s with
  | nil => exact .nil
  | cons c s ih => exact ih.escape c

theorem stringText_quote (s : String) : StringText (quote s.toList) s :=
  ⟨s.toList.flatMap escape, rfl, spells_flatMap_escape s.toList⟩

theorem StringText.reads {text : List Char} {s : String} (h : StringText text s) :
    Reads string text s := by
  obtain ⟨inner, rfl, spelled⟩ := h
  intro gap rest hg _
  have text : ('"' :: inner ++ ['"']) ++ rest = '"' :: (inner ++ '"' :: rest) := by simp
  rw [string, hg.skip, text, skipSpace_of_head rfl]
  simp [spelled.read, Except.map]

/-! Plain numbers. -/

theorem isSpace_of_isDigit {c : Char} (h : isDigit c = true) : isSpace c = false := by
  rw [Bool.eq_false_iff]
  intro hs
  simp only [isSpace, Bool.or_eq_true, beq_iff_eq] at hs
  rcases hs with ((rfl | rfl) | rfl) | rfl <;> contradiction

theorem writeNat_ne_nil (n : Nat) : writeNat n ≠ [] := Nat.toDigits_ne_nil

theorem writeNat_eq (n : Nat) : writeNat n =
    if n < 10 then [n.digitChar] else writeNat (n / 10) ++ [(n % 10).digitChar] :=
  Nat.toDigits_eq_if (by decide)

theorem digits_writeNat (n : Nat) : Digits (writeNat n) := by
  have one : ∀ d < 10, d.digitChar ∈ decimalDigits := by decide
  refine ⟨writeNat_ne_nil n, ?_⟩
  induction n using Nat.strongRecOn with
  | ind n ih =>
    rw [writeNat_eq]
    split
    next hn => simpa using one n hn
    next hn =>
      have last := one (n % 10) (Nat.mod_lt n (by decide))
      exact List.forall_mem_append.mpr ⟨ih (n / 10) (by omega), by simpa using last⟩

theorem digitValue_digitChar : ∀ n < 10, digitValue n.digitChar = n := by decide

/-- Only zero is written with a zero in front. -/
theorem head?_writeNat {n : Nat} (h : 0 < n) : (writeNat n).head? ≠ some '0' := by
  induction n using Nat.strongRecOn with
  | ind n ih =>
    rw [writeNat_eq]
    split
    next hn =>
      have hd : ∀ n < 10, 0 < n → n.digitChar ≠ '0' := by decide
      simpa using hd n hn h
    next hn =>
      have hh := ih (n / 10) (by omega) (by omega)
      rwa [List.head?_append_of_ne_nil _ (writeNat_ne_nil _)]

theorem Decimal.whole_digitChar {m d : Nat} (hd : d < 10) (h : m * 10 + d < 2 ^ 64) :
    whole ⟨m, 0, false⟩ d.digitChar = ⟨m * 10 + d, 0, false⟩ := by
  have hf : fits ⟨m, 0, false⟩ d = true := by
    simp only [fits, Bool.not_false, Bool.true_and]
    exact Nat.blt_eq.mpr h
  simp [whole, digitValue_digitChar d hd, hf]

theorem ofDigits_writeNat {n : Nat} (h : n < 2 ^ 64) :
    Decimal.ofDigits (writeNat n) = ⟨n, 0, false⟩ := by
  induction n using Nat.strongRecOn with
  | ind n ih =>
    rw [writeNat_eq]
    split
    next hn =>
      have hw := Decimal.whole_digitChar (m := 0) hn (by omega)
      simpa [Decimal.ofDigits] using hw
    next hn =>
      have hd := ih (n / 10) (by omega) (by omega)
      have hv : n / 10 * 10 + n % 10 = n := by omega
      have hw := Decimal.whole_digitChar (m := n / 10) (Nat.mod_lt n (by decide)) (by omega)
      rw [hv, ← hd] at hw
      simpa [Decimal.ofDigits] using hw

theorem readNumber_writeNat {n : Nat} (h : n < 2 ^ 64) {rest : List Char} (hr : Ends rest) :
    readNumber (writeNat n ++ rest) = .ok (some n, rest) := by
  obtain ⟨digits, behind⟩ := (digits_writeNat n).scan fun c hc => (hr c hc).1
  have lead : ¬((writeNat n).head? = some '0' ∧ 1 < (writeNat n).length) := by
    rintro ⟨hz, hl⟩
    obtain rfl | hn := Nat.eq_zero_or_pos n
    · simp [writeNat] at hl
    · exact head?_writeNat hn hz
  rw [readNumber, digits, behind, if_neg (by simp [writeNat_ne_nil]), if_neg lead, ofDigits_writeNat h]
  cases rest with
  | nil => rfl
  | cons c rest =>
    obtain ⟨-, point, mark⟩ := hr c rfl
    simp [readAfterWhole, point, mark]

theorem reads_natural {n : Nat} (h : n < 2 ^ 64) : Reads natural (writeNat n) n := by
  intro gap rest hg hr
  have hn := readNumber_writeNat h hr
  obtain ⟨c, digits, hc⟩ := List.exists_cons_of_ne_nil (writeNat_ne_nil n)
  have hd : isDigit c = true := isDigit_of_mem ((digits_writeNat n).2 c (hc ▸ List.mem_cons_self))
  rw [natural, hg.skip]
  rw [hc, List.cons_append] at hn ⊢
  rw [skipSpace_of_head (isSpace_of_isDigit hd)]
  simp [hd, hn]

end Workpad.Json
