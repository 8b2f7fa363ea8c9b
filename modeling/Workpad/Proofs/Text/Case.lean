import Workpad.Text.Case

/-!
Case mapping where the lower case is ASCII: there every character is mapped by itself, to a single
one. Beyond ASCII only the Kelvin sign has such a lower case.
-/
namespace Workpad.Text

def kelvin : Char := '\u212A'

def lowersToAscii (c : Char) : Bool := isAscii c || c == kelvin

def lowerOne (c : Char) : Char := if c = kelvin then 'k' else c.toLower

theorem isAscii_iff (c : Char) : isAscii c = true ↔ c.toNat < 128 := by
  simp [isAscii, Nat.lt_succ_iff]

/-- What holds of the first 128 characters holds of those that are ASCII. -/
theorem forall_isAscii {P : Char → Prop} (h : ∀ n < 128, P (Char.ofNat n)) {c : Char}
    (hc : isAscii c = true) : P c := by
  have hn := h c.toNat ((isAscii_iff c).mp hc)
  rwa [Char.ofNat_toNat] at hn

theorem lowersToAscii_of_isAscii {c : Char} (h : isAscii c = true) : lowersToAscii c = true := by
  simp [lowersToAscii, h]

theorem lowersToAscii_iff (c : Char) :
    lowersToAscii c = true ↔ isAscii c = true ∨ c = kelvin := by
  simp [lowersToAscii]

theorem ne_sigma {c : Char} (h : lowersToAscii c = true) : c ≠ 'Σ' := by
  rintro rfl
  revert h
  decide

theorem lowerOne_of_isAscii {c : Char} (h : isAscii c = true) : lowerOne c = c.toLower := by
  have hk : c ≠ kelvin := by
    rintro rfl
    revert h
    decide
  rw [lowerOne, if_neg hk]

theorem lowerChar_eq {c : Char} (h : lowersToAscii c = true) : lowerChar c = [lowerOne c] := by
  obtain h | rfl := (lowersToAscii_iff c).mp h
  · rw [lowerOne_of_isAscii h, lowerChar, if_pos h]
  · decide

theorem upperChar_eq {c : Char} (h : lowersToAscii c = true) : upperChar c = [c.toUpper] := by
  obtain h | rfl := (lowersToAscii_iff c).mp h
  · rw [upperChar, if_pos h]
  · decide

theorem lowerFrom_eq_map {s : List Char} (h : ∀ c ∈ s, lowersToAscii c = true) (after : Bool) :
    lowerFrom after s = s.map lowerOne := by
  induction s generalizing after with
  | nil => rfl
  | cons c r ih =>
    have hc := h c List.mem_cons_self
    have hr := ih fun d hd => h d (List.mem_cons_of_mem c hd)
    simp [lowerFrom, ne_sigma hc, lowerChar_eq hc, hr]

theorem lower_eq_map {s : List Char} (h : ∀ c ∈ s, lowersToAscii c = true) :
    lower s = s.map lowerOne := lowerFrom_eq_map h false

theorem upper_eq_map {s : List Char} (h : ∀ c ∈ s, lowersToAscii c = true) :
    upper s = s.map Char.toUpper := by
  induction s with
  | nil => rfl
  | cons c r ih =>
    have hc := h c List.mem_cons_self
    have hr := ih fun d hd => h d (List.mem_cons_of_mem c hd)
    rw [upper] at hr ⊢
    rw [List.flatMap_cons, upperChar_eq hc, hr, List.map_cons, List.singleton_append]

theorem length_lower {s : List Char} (h : ∀ c ∈ s, lowersToAscii c = true) :
    (lower s).length = s.length := by
  rw [lower_eq_map h, List.length_map]

theorem length_upper {s : List Char} (h : ∀ c ∈ s, lowersToAscii c = true) :
    (upper s).length = s.length := by
  rw [upper_eq_map h, List.length_map]

theorem lower_append {s t : List Char} (hs : ∀ c ∈ s, lowersToAscii c = true)
    (ht : ∀ c ∈ t, lowersToAscii c = true) : lower (s ++ t) = lower s ++ lower t := by
  rw [lower_eq_map hs, lower_eq_map ht, lower_eq_map (List.forall_mem_append.mpr ⟨hs, ht⟩),
    List.map_append]

theorem lower_drop {s : List Char} (h : ∀ c ∈ s, lowersToAscii c = true) (n : Nat) :
    lower (s.drop n) = (lower s).drop n := by
  rw [lower_eq_map h, lower_eq_map fun c hc => h c (List.mem_of_mem_drop hc), List.map_drop]

theorem upper_take {s : List Char} (h : ∀ c ∈ s, lowersToAscii c = true) (n : Nat) :
    upper (s.take n) = (upper s).take n := by
  rw [upper_eq_map h, upper_eq_map fun c hc => h c (List.mem_of_mem_take hc), List.map_take]

/-- A text is its own lower case just if both its parts are. -/
theorem lower_append_eq_iff {s t : List Char} (hs : ∀ c ∈ s, lowersToAscii c = true)
    (ht : ∀ c ∈ t, lowersToAscii c = true) :
    lower (s ++ t) = s ++ t ↔ lower s = s ∧ lower t = t := by
  rw [lower_append hs ht]
  constructor
  · exact fun h => List.append_inj h (length_lower hs)
  · rintro ⟨h, h'⟩
    rw [h, h']

theorem upper_append_eq_iff {s : List Char} (hs : ∀ c ∈ s, lowersToAscii c = true)
    (t : List Char) : upper (s ++ t) = s ++ t ↔ upper s = s ∧ upper t = t := by
  have parts : upper (s ++ t) = upper s ++ upper t := List.flatMap_append
  rw [parts]
  constructor
  · exact fun h => List.append_inj h (length_upper hs)
  · rintro ⟨h, h'⟩
    rw [h, h']

/-! ASCII text. -/

theorem forall_lowersToAscii {s : List Char} (h : ∀ c ∈ s, isAscii c = true) :
    ∀ c ∈ s, lowersToAscii c = true := fun c hc => lowersToAscii_of_isAscii (h c hc)

theorem lower_of_isAscii {s : List Char} (h : ∀ c ∈ s, isAscii c = true) :
    lower s = s.map Char.toLower := by
  rw [lower_eq_map (forall_lowersToAscii h)]
  exact List.map_congr_left fun c hc => lowerOne_of_isAscii (h c hc)

theorem isAscii_toLower {c : Char} (h : isAscii c = true) : isAscii c.toLower = true :=
  forall_isAscii (P := fun c => isAscii c.toLower = true) (by decide) h

theorem isAscii_toUpper {c : Char} (h : isAscii c = true) : isAscii c.toUpper = true :=
  forall_isAscii (P := fun c => isAscii c.toUpper = true) (by decide) h

theorem toLower_toLower {c : Char} (h : isAscii c = true) : c.toLower.toLower = c.toLower :=
  forall_isAscii (P := fun c => c.toLower.toLower = c.toLower) (by decide) h

theorem toUpper_toUpper {c : Char} (h : isAscii c = true) : c.toUpper.toUpper = c.toUpper :=
  forall_isAscii (P := fun c => c.toUpper.toUpper = c.toUpper) (by decide) h

theorem toLower_toUpper {c : Char} (h : isAscii c = true) : c.toUpper.toLower = c.toLower :=
  forall_isAscii (P := fun c => c.toUpper.toLower = c.toLower) (by decide) h

theorem toUpper_toLower {c : Char} (h : isAscii c = true) : c.toLower.toUpper = c.toUpper :=
  forall_isAscii (P := fun c => c.toLower.toUpper = c.toUpper) (by decide) h

theorem toUpper_of_not_isLower {c : Char} (h : isAscii c = true) (hl : c.isLower = false) :
    c.toUpper = c :=
  forall_isAscii (P := fun c => c.isLower = false → c.toUpper = c) (by decide) h hl

theorem toLower_of_not_isUpper {c : Char} (h : isAscii c = true) (hu : c.isUpper = false) :
    c.toLower = c :=
  forall_isAscii (P := fun c => c.isUpper = false → c.toLower = c) (by decide) h hu

theorem toUpper_of_isUpper {c : Char} (h : isAscii c = true) (hu : c.isUpper = true) :
    c.toUpper = c :=
  forall_isAscii (P := fun c => c.isUpper = true → c.toUpper = c) (by decide) h hu

/-- Text without small letters is its own upper case. -/
theorem upper_of_not_isLower {s : List Char} (h : ∀ c ∈ s, isAscii c = true)
    (hl : ∀ c ∈ s, c.isLower = false) : upper s = s := by
  rw [upper_eq_map (forall_lowersToAscii h)]
  refine (List.map_congr_left fun c hc => ?_).trans (List.map_id s)
  exact toUpper_of_not_isLower (h c hc) (hl c hc)

/-- Text without capitals is its own lower case. -/
theorem lower_of_not_isUpper {s : List Char} (h : ∀ c ∈ s, isAscii c = true)
    (hu : ∀ c ∈ s, c.isUpper = false) : lower s = s := by
  rw [lower_of_isAscii h]
  refine (List.map_congr_left fun c hc => ?_).trans (List.map_id s)
  exact toLower_of_not_isUpper (h c hc) (hu c hc)

theorem isAscii_of_mem_lower {s : List Char} (h : ∀ c ∈ s, isAscii c = true) :
    ∀ c ∈ lower s, isAscii c = true := by
  rw [lower_of_isAscii h]
  exact List.forall_mem_map.mpr fun c hc => isAscii_toLower (h c hc)

theorem isAscii_of_mem_upper {s : List Char} (h : ∀ c ∈ s, isAscii c = true) :
    ∀ c ∈ upper s, isAscii c = true := by
  rw [upper_eq_map (forall_lowersToAscii h)]
  exact List.forall_mem_map.mpr fun c hc => isAscii_toUpper (h c hc)

theorem upper_lower {s : List Char} (h : ∀ c ∈ s, isAscii c = true) :
    upper (lower s) = upper s := by
  rw [upper_eq_map (forall_lowersToAscii (isAscii_of_mem_lower h)), lower_of_isAscii h,
    upper_eq_map (forall_lowersToAscii h), List.map_map]
  exact List.map_congr_left fun c hc => toUpper_toLower (h c hc)

/-- Characters of a lower case are lower case. -/
theorem lower_eq_self {s t : List Char} (hs : ∀ c ∈ s, isAscii c = true)
    (ht : ∀ c ∈ t, c ∈ lower s) : lower t = t := by
  rw [lower_of_isAscii fun c hc => isAscii_of_mem_lower hs c (ht c hc)]
  rw [lower_of_isAscii hs] at ht
  refine (List.map_congr_left fun c hc => ?_).trans (List.map_id t)
  obtain ⟨d, hd, rfl⟩ := List.mem_map.mp (ht c hc)
  exact toLower_toLower (hs d hd)

theorem upper_eq_self {s t : List Char} (hs : ∀ c ∈ s, isAscii c = true)
    (ht : ∀ c ∈ t, c ∈ upper s) : upper t = t := by
  rw [upper_eq_map fun c hc => lowersToAscii_of_isAscii (isAscii_of_mem_upper hs c (ht c hc))]
  rw [upper_eq_map (forall_lowersToAscii hs)] at ht
  refine (List.map_congr_left fun c hc => ?_).trans (List.map_id t)
  obtain ⟨d, hd, rfl⟩ := List.mem_map.mp (ht c hc)
  exact toUpper_toUpper (hs d hd)

/-! The table of lower cases has no other way into ASCII. -/

theorem exists_of_lookup {runs : List MapRun} {n m : Nat} (h : lookup runs n = some m) :
    ∃ r ∈ runs, r.span.first ≤ n ∧ n ≤ r.span.last ∧ m = r.image + (n - r.span.first) := by
  obtain ⟨r, hr, rfl⟩ := Option.map_eq_some_iff.mp h
  have hn := List.find?_some (p := fun r : MapRun => r.span.contains n) hr
  simp only [Span.contains, Bool.and_eq_true, Nat.ble_eq] at hn
  exact ⟨r, List.mem_of_find?_eq_some hr, hn.1.1, hn.1.2, rfl⟩

def MapRun.leavesAscii (r : MapRun) : Bool :=
  (128).ble r.image && (Nat.blt (r.image + (r.span.last - r.span.first)) 0xD800 ||
    Nat.blt 0xDFFF r.image && Nat.blt (r.image + (r.span.last - r.span.first)) 0x110000)

theorem lowerRuns_leavesAscii :
    ∀ r ∈ lowerRuns, r.leavesAscii = true ∨ r.span.first = 0x212A ∧ r.span.last = 0x212A := by
  decide +kernel

theorem isAscii_ofNat {n : Nat} (h : 128 ≤ n) (valid : n.isValidChar) :
    isAscii (Char.ofNat n) = false := by
  have hn : (Char.ofNat n).toNat = n := by
    rw [Char.ofNat, dif_pos valid]
    rfl
  rw [Bool.eq_false_iff, Ne, isAscii_iff, hn]
  omega

theorem lowersToAscii_of_lowerChar {c : Char} (h : ∀ d ∈ lowerChar c, isAscii d = true) :
    lowersToAscii c = true := by
  rw [lowersToAscii_iff]
  by_cases hc : isAscii c = true
  · exact .inl hc
  rw [lowerChar, if_neg hc] at h
  cases he : lowerExpansions.lookup c.toNat with
  | some image =>
    have expanded : ∀ e ∈ lowerExpansions, 0x307 ∈ e.2 := by decide
    have hm : 0x307 ∈ image := by
      obtain ⟨before, after, hl, -⟩ := List.lookup_eq_some_iff.mp he
      exact expanded (c.toNat, image) (by simp [hl])
    rw [he] at h
    have ha := h _ (List.mem_map_of_mem hm)
    exact absurd ha (by decide)
  | none =>
    rw [he] at h
    simp only [List.mem_singleton, forall_eq] at h
    cases hl : lookup lowerRuns c.toNat with
    | none =>
      rw [hl] at h
      exact .inl h
    | some m =>
      rw [hl] at h
      obtain ⟨r, hr, first, last, rfl⟩ := exists_of_lookup hl
      obtain leaves | ⟨hf, ht⟩ := lowerRuns_leavesAscii r hr
      · simp only [MapRun.leavesAscii, Bool.and_eq_true, Bool.or_eq_true, Nat.ble_eq,
          Nat.blt_eq] at leaves
        have valid : (r.image + (c.toNat - r.span.first)).isValidChar := by
          rw [Nat.isValidChar]
          omega
        have hn := isAscii_ofNat (by omega) valid
        exact absurd h (by simp [hn])
      · right
        have hn : c.toNat = 0x212A := by omega
        rw [← Char.ofNat_toNat c, hn]
        rfl

/-- A text whose lower case is ASCII has only characters with such a lower case. -/
theorem lowersToAscii_of_lowerFrom {s : List Char} {after : Bool}
    (h : ∀ d ∈ lowerFrom after s, isAscii d = true) : ∀ c ∈ s, lowersToAscii c = true := by
  induction s generalizing after with
  | nil => simp
  | cons c r ih =>
    rw [lowerFrom] at h
    obtain ⟨here, rest⟩ := List.forall_mem_append.mp h
    refine List.forall_mem_cons.mpr ⟨?_, ih rest⟩
    by_cases hc : c = 'Σ'
    · subst hc
      exact absurd here (by simp; split <;> decide)
    · simp only [beq_iff_eq, hc, if_false] at here
      exact lowersToAscii_of_lowerChar here

/-! Spellings of a word in ASCII. -/

/-- Only capitals are changed, and they are in ASCII. -/
theorem isAscii_of_toLower {c : Char} (h : isAscii c.toLower = true) : isAscii c = true := by
  unfold Char.toLower at h
  split at h
  next capital =>
    have last : c.toNat ≤ 'Z'.toNat := UInt32.le_iff_toNat_le.mp capital.2
    have hZ : 'Z'.toNat = 90 := rfl
    rw [isAscii_iff]
    omega
  next => exact h

/-- Only the Kelvin sign could make a word of other characters, so a word without `k` is written in
ASCII or not at all. -/
theorem lower_eq_iff {s word : List Char} (ascii : ∀ c ∈ word, isAscii c = true)
    (noK : 'k' ∉ word) : lower s = word ↔ s.map Char.toLower = word := by
  constructor
  · intro h
    have hs : ∀ c ∈ s, lowersToAscii c = true := lowersToAscii_of_lowerFrom fun d hd => by
      rw [← h] at ascii
      exact ascii d hd
    rw [lower_eq_map hs] at h
    refine (List.map_congr_left fun c hc => ?_).trans h
    have hk : c ≠ kelvin := by
      rintro rfl
      exact noK (h ▸ List.mem_map_of_mem hc)
    rw [lowerOne, if_neg hk]
  · intro h
    have hs : ∀ c ∈ s, isAscii c = true := fun c hc =>
      isAscii_of_toLower (ascii _ (h ▸ List.mem_map_of_mem hc))
    rw [lower_of_isAscii hs, h]

end Workpad.Text
