import Workpad.Proofs.Text.Case
import Workpad.Proofs.Text.Sigma

/-!
What case mapping leaves alone. Only capitals and title-case letters have small letters, and these are
neither; a text is its own upper case just if each of its characters is.
-/
namespace Workpad.Text

/-! Spans. -/

theorem Span.contains_iff (s : Span) (n : Nat) : s.contains n = true ↔
    s.first ≤ n ∧ n ≤ s.last ∧ (n - s.first) % s.stride = 0 := by
  simp [contains, and_assoc]

def Span.members (s : Span) : List Nat :=
  (List.range ((s.last - s.first) / s.stride + 1)).map fun i => s.first + s.stride * i

theorem Span.mem_members {s : Span} {n : Nat} (h : s.contains n = true) : n ∈ s.members := by
  obtain ⟨first, last, step⟩ := (s.contains_iff n).mp h
  have place := Nat.mul_div_cancel' (Nat.dvd_of_mod_eq_zero step)
  refine List.mem_map.mpr ⟨(n - s.first) / s.stride, List.mem_range.mpr ?_, by omega⟩
  exact Nat.lt_succ_of_le (Nat.div_le_div_right (Nat.sub_le_sub_right last s.first))

theorem Span.contains_of_mem_members {s : Span} (ordered : s.first ≤ s.last) {n : Nat}
    (h : n ∈ s.members) : s.contains n = true := by
  obtain ⟨i, hi, rfl⟩ := List.mem_map.mp h
  have place : s.stride * i ≤ s.last - s.first :=
    Nat.le_trans (Nat.mul_le_mul_left s.stride (Nat.lt_succ_iff.mp (List.mem_range.mp hi)))
      (Nat.mul_div_le _ _)
  refine (s.contains_iff _).mpr ⟨Nat.le_add_right _ _, by omega, ?_⟩
  rw [Nat.add_sub_cancel_left, Nat.mul_mod_right]

/-! Code points as the bits of a number. Two tables are compared by one operation on such numbers. -/

def bits (ns : List Nat) : Nat := ns.foldr (fun n m => 1 <<< n ||| m) 0

def spanBits (spans : List Span) : Nat := spans.foldr (fun s m => bits s.members ||| m) 0

theorem testBit_bits (ns : List Nat) (n : Nat) : (bits ns).testBit n = true ↔ n ∈ ns := by
  induction ns with
  | nil => simp [bits]
  | cons k ns ih =>
    rw [bits, List.foldr_cons, ← bits, Nat.testBit_or, Nat.one_shiftLeft, Nat.testBit_two_pow,
      Bool.or_eq_true, decide_eq_true_iff, ih, List.mem_cons, eq_comm]

theorem testBit_spanBits (spans : List Span) (n : Nat) :
    (spanBits spans).testBit n = true ↔ ∃ s ∈ spans, n ∈ s.members := by
  induction spans with
  | nil => simp [spanBits]
  | cons s spans ih =>
    rw [spanBits, List.foldr_cons, ← spanBits, Nat.testBit_or, Bool.or_eq_true, testBit_bits, ih]
    simp only [List.mem_cons, exists_eq_or_imp]

theorem testBit_of_inSpans {spans : List Span} {n : Nat} (h : inSpans spans n = true) :
    (spanBits spans).testBit n = true := by
  obtain ⟨s, hs, hn⟩ := List.any_eq_true.mp h
  exact (testBit_spanBits spans n).mpr ⟨s, hs, Span.mem_members hn⟩

theorem inSpans_of_subset {a b : List Span} (ordered : ∀ s ∈ b, s.first ≤ s.last)
    (subset : spanBits a &&& spanBits b = spanBits a) {n : Nat} (h : inSpans a n = true) :
    inSpans b n = true := by
  have both := testBit_of_inSpans h
  rw [← subset, Nat.testBit_and, Bool.and_eq_true] at both
  obtain ⟨s, hs, hn⟩ := (testBit_spanBits b n).mp both.2
  exact List.any_eq_true.mpr ⟨s, hs, Span.contains_of_mem_members (ordered s hs) hn⟩

theorem not_inSpans_of_disjoint {a b : List Span} (disjoint : spanBits a &&& spanBits b = 0) {n : Nat}
    (h : inSpans a n = true) : inSpans b n = false := by
  rw [Bool.eq_false_iff]
  intro both
  have bit := Nat.testBit_and (spanBits a) (spanBits b) n
  rw [disjoint, Nat.zero_testBit, testBit_of_inSpans h, testBit_of_inSpans both] at bit
  exact Bool.false_ne_true bit

theorem exists_contains_of_lookup {runs : List MapRun} {n m : Nat} (h : lookup runs n = some m) :
    ∃ r ∈ runs, r.span.contains n = true ∧ m = r.image + (n - r.span.first) := by
  obtain ⟨r, hr, rfl⟩ := Option.map_eq_some_iff.mp h
  exact ⟨r, List.mem_of_find?_eq_some hr,
    List.find?_some (p := fun r : MapRun => r.span.contains n) hr, rfl⟩

/-! Capitals. -/

/-- The letters of category `Lt`: a capital with what goes with it in small letters. They are neither
upper case nor lower case. -/
def titlecaseSpans : List Span := [
    ⟨0x1C5, 0x1CB, 3⟩, ⟨0x1F2, 0x1F2, 1⟩, ⟨0x1F88, 0x1F8F, 1⟩, ⟨0x1F98, 0x1F9F, 1⟩,
    ⟨0x1FA8, 0x1FAF, 1⟩, ⟨0x1FBC, 0x1FCC, 16⟩, ⟨0x1FFC, 0x1FFC, 1⟩]

def isTitlecase (c : Char) : Bool := inSpans titlecaseSpans c.toNat

def capitalSpans : List Span := uppercaseSpans ++ titlecaseSpans

def MapRun.images (r : MapRun) : Span :=
  ⟨r.image, r.image + (r.span.last - r.span.first), r.span.stride⟩

theorem MapRun.images_contains {r : MapRun} {n : Nat} (h : r.span.contains n = true) :
    r.images.contains (r.image + (n - r.span.first)) = true := by
  obtain ⟨first, last, step⟩ := (r.span.contains_iff n).mp h
  refine (r.images.contains_iff _).mpr ⟨Nat.le_add_right _ _, ?_, ?_⟩
  · exact Nat.add_le_add_left (Nat.sub_le_sub_right last _) _
  · rw [images, Nat.add_sub_cancel_left]
    exact step

/-- What has a small letter is a capital, and a small letter is none. -/
theorem capitalSpans_table :
    (∀ s ∈ capitalSpans, 128 ≤ s.first ∧ s.first ≤ s.last) ∧
      spanBits (lowerRuns.map (·.span)) &&& spanBits capitalSpans =
        spanBits (lowerRuns.map (·.span)) ∧
      spanBits (lowerRuns.map (·.images)) &&& spanBits capitalSpans = 0 := by
  decide +kernel

theorem inSpans_of_lookup {n m : Nat} (h : lookup lowerRuns n = some m) :
    inSpans capitalSpans n = true ∧ inSpans capitalSpans m = false := by
  obtain ⟨ordered, subset, disjoint⟩ := capitalSpans_table
  obtain ⟨r, hr, hn, rfl⟩ := exists_contains_of_lookup h
  constructor
  · refine inSpans_of_subset (fun s hs => (ordered s hs).2) subset ?_
    exact List.any_eq_true.mpr ⟨r.span, List.mem_map_of_mem hr, hn⟩
  · refine not_inSpans_of_disjoint disjoint ?_
    exact List.any_eq_true.mpr ⟨r.images, List.mem_map_of_mem hr, MapRun.images_contains hn⟩

theorem not_inSpans_of_isAscii {c : Char} (h : isAscii c = true) :
    inSpans capitalSpans c.toNat = false := by
  rw [inSpans, List.any_eq_false]
  intro s hs member
  have low := (isAscii_iff c).mp h
  have high := (capitalSpans_table.1 s hs).1
  exact absurd ((s.contains_iff _).mp member).1 (by omega)

theorem not_capital_iff (c : Char) : isUppercase c = false ∧ isTitlecase c = false ↔
    (isAscii c = true → c.isUpper = false) ∧ inSpans capitalSpans c.toNat = false := by
  have parts : inSpans capitalSpans c.toNat =
      (inSpans uppercaseSpans c.toNat || isTitlecase c) := List.any_append
  rw [parts, Bool.or_eq_false_iff, isUppercase]
  by_cases hc : isAscii c = true
  · have none := not_inSpans_of_isAscii hc
    rw [parts, Bool.or_eq_false_iff] at none
    simp [hc, none]
  · simp [hc]

/-- A character that is neither a capital nor title case has no small letter. -/
theorem lowerChar_of_not_capital {c : Char} (hu : isUppercase c = false)
    (ht : isTitlecase c = false) : lowerChar c = [c] := by
  obtain ⟨small, none⟩ := (not_capital_iff c).mp ⟨hu, ht⟩
  by_cases hc : isAscii c = true
  · rw [lowerChar, if_pos hc, toLower_of_not_isUpper hc (small hc)]
  rw [lowerChar, if_neg hc]
  cases he : lowerExpansions.lookup c.toNat with
  | some image =>
    have table : ∀ e ∈ lowerExpansions, inSpans capitalSpans e.1 = true := by decide
    obtain ⟨before, after, hl, -⟩ := List.lookup_eq_some_iff.mp he
    have capital := table (c.toNat, image) (by simp [hl])
    exact absurd (none.symm.trans capital) Bool.false_ne_true
  | none =>
    cases hl : lookup lowerRuns c.toNat with
    | some m => exact absurd (none.symm.trans (inSpans_of_lookup hl).1) Bool.false_ne_true
    | none => rfl

/-- A title-case letter is in neither case. -/
theorem maps_of_isTitlecase {c : Char} (h : isTitlecase c = true) :
    upperChar c ≠ [c] ∧ lowerChar c ≠ [c] := by
  have table : ∀ s ∈ titlecaseSpans, ∀ n ∈ s.members,
      upperChar (Char.ofNat n) ≠ [Char.ofNat n] ∧ lowerChar (Char.ofNat n) ≠ [Char.ofNat n] := by
    decide +kernel
  obtain ⟨s, hs, hn⟩ := List.any_eq_true.mp h
  have here := table s hs c.toNat (Span.mem_members hn)
  rwa [Char.ofNat_toNat] at here

/-! Small letters. -/

/-- Small letters are no capitals. -/
theorem not_capital_of_mem_lowerChar {c d : Char} (hd : d ∈ lowerChar c) (changed : lowerChar c ≠ [c]) :
    isUppercase d = false ∧ isTitlecase d = false := by
  rw [not_capital_iff]
  by_cases hc : isAscii c = true
  · rw [lowerChar, if_pos hc, List.mem_singleton] at hd
    subst hd
    have small := forall_isAscii (P := fun c => c.toLower.isUpper = false) (by decide) hc
    exact ⟨fun _ => small, not_inSpans_of_isAscii (isAscii_toLower hc)⟩
  rw [lowerChar, if_neg hc] at hd changed
  cases he : lowerExpansions.lookup c.toNat with
  | some image =>
    -- over code points, as deciding over characters can mean going through all there are
    have table : ∀ e ∈ lowerExpansions, ∀ n ∈ e.2,
        (Char.ofNat n).isUpper = false ∧ inSpans capitalSpans (Char.ofNat n).toNat = false := by
      decide
    obtain ⟨before, after, hl, -⟩ := List.lookup_eq_some_iff.mp he
    rw [he] at hd
    obtain ⟨n, hn, rfl⟩ := List.mem_map.mp hd
    obtain ⟨small, none⟩ := table (c.toNat, image) (by simp [hl]) n hn
    exact ⟨fun _ => small, none⟩
  | none =>
    rw [he] at hd changed
    cases hl : lookup lowerRuns c.toNat with
    | none =>
      rw [hl] at changed
      exact absurd rfl changed
    | some m =>
      rw [hl] at hd
      obtain rfl : d = Char.ofNat m := List.mem_singleton.mp hd
      have none := (inSpans_of_lookup hl).2
      obtain ⟨r, hr, first, last, rfl⟩ := exists_of_lookup hl
      obtain leaves | ⟨hf, ht⟩ := lowerRuns_leavesAscii r hr
      · simp only [MapRun.leavesAscii, Bool.and_eq_true, Bool.or_eq_true, Nat.ble_eq,
          Nat.blt_eq] at leaves
        have valid : (r.image + (c.toNat - r.span.first)).isValidChar := by
          rw [Nat.isValidChar]
          omega
        have wide := isAscii_ofNat (by omega) valid
        refine ⟨fun ascii => absurd (wide.symm.trans ascii) Bool.false_ne_true, ?_⟩
        rwa [Char.ofNat, dif_pos valid]
      · have point : c.toNat = 0x212A := by omega
        have small : lookup lowerRuns 0x212A = some 0x6B := by decide
        rw [point, small] at hl
        rw [point, ← Option.some.inj hl]
        exact ⟨fun _ => by decide, not_inSpans_of_isAscii (by decide)⟩

/-- Lower-casing a character of a lower case does nothing. -/
theorem lowerChar_of_mem_lowerChar {c d : Char} (hd : d ∈ lowerChar c) : lowerChar d = [d] := by
  by_cases changed : lowerChar c = [c]
  · rw [changed, List.mem_singleton] at hd
    rwa [hd]
  · obtain ⟨hu, ht⟩ := not_capital_of_mem_lowerChar hd changed
    exact lowerChar_of_not_capital hu ht

theorem lowerChar_of_mem_lower {s : List Char} : ∀ d ∈ lower s, lowerChar d = [d] := by
  have each (after : Bool) : ∀ d ∈ lowerFrom after s, lowerChar d = [d] := by
    induction s generalizing after with
    | nil => simp [lowerFrom]
    | cons c s ih =>
      rw [lowerFrom]
      refine List.forall_mem_append.mpr ⟨?_, ih _⟩
      split
      · have sigmas : lowerChar 'ς' = ['ς'] ∧ lowerChar 'σ' = ['σ'] := by decide
        rw [List.forall_mem_singleton]
        split
        · exact sigmas.1
        · exact sigmas.2
      · exact fun d hd => lowerChar_of_mem_lowerChar hd
  exact each false

/-! Whole texts. -/

theorem upperChar_ne_nil (c : Char) : upperChar c ≠ [] := by
  unfold upperChar
  split
  · exact List.cons_ne_nil _ _
  · cases he : upperExpansions.lookup c.toNat with
    | some image =>
      have filled : ∀ e ∈ upperExpansions, e.2 ≠ [] := by decide
      obtain ⟨before, after, hl, -⟩ := List.lookup_eq_some_iff.mp he
      have here := filled (c.toNat, image) (by simp [hl])
      simpa using here
    | none => exact List.cons_ne_nil _ _

/-- With no image empty, a text is what it is mapped to only if every character is. -/
theorem flatMap_eq_self_iff {f : Char → List Char} (hf : ∀ c, f c ≠ []) (s : List Char) :
    s.flatMap f = s ↔ ∀ c ∈ s, f c = [c] := by
  have long (s : List Char) : s.length ≤ (s.flatMap f).length := by
    induction s with
    | nil => exact Nat.zero_le _
    | cons c s ih =>
      have := List.length_pos_iff.mpr (hf c)
      rw [List.flatMap_cons, List.length_append, List.length_cons]
      omega
  constructor
  · intro h
    induction s with
    | nil => simp
    | cons c s ih =>
      obtain ⟨d, image, hc⟩ := List.exists_cons_of_ne_nil (hf c)
      rw [List.flatMap_cons, hc, List.cons_append] at h
      obtain ⟨rfl, rest⟩ := List.cons.inj h
      have none : image = [] := by
        have lengths := congrArg List.length rest
        have := long s
        rw [List.length_append] at lengths
        exact List.eq_nil_of_length_eq_zero (by omega)
      rw [none] at hc rest
      exact List.forall_mem_cons.mpr ⟨hc, ih rest⟩
  · intro h
    rw [List.flatMap_def, List.map_congr_left h, ← List.flatMap_def]
    exact List.flatMap_singleton' s

theorem upper_eq_self_iff (s : List Char) : upper s = s ↔ ∀ c ∈ s, upperChar c = [c] :=
  flatMap_eq_self_iff upperChar_ne_nil s

/-- Without a capital sigma, lower-casing goes character by character. -/
theorem lower_eq_flatMap {s : List Char} (h : 'Σ' ∉ s) : lower s = s.flatMap lowerChar := by
  have each (after : Bool) : lowerFrom after s = s.flatMap lowerChar := by
    induction s generalizing after with
    | nil => rfl
    | cons c s ih =>
      rw [List.mem_cons, not_or] at h
      rw [lowerFrom, if_neg (by simpa using Ne.symm h.1), ih h.2, List.flatMap_cons]
  exact each false

theorem lower_eq_self_iff_of_no_sigma {s : List Char} (h : 'Σ' ∉ s) :
    lower s = s ↔ ∀ c ∈ s, lowerChar c = [c] := by
  rw [lower_eq_flatMap h]
  exact flatMap_eq_self_iff lowerChar_ne_nil s

end Workpad.Text
