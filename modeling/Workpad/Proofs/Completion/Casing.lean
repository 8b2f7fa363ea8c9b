import Workpad.Completion.Basic
import Workpad.Proofs.Text.Case

/-!
Words and the symbols in ASCII that they begin. A word begins a symbol until all of it has been
typed, and the casing of a word stays what it is while the word goes on as the symbol in that casing.
-/
namespace Workpad.Completion
open Text
variable {w p q s : List Char}

theorem begins_iff (w s : List Char) :
    begins w s = true ↔ lower w <+: lower s ∧ lower s ≠ lower w := by
  simp [begins, List.isPrefixOf_iff_prefix]

/-- The word that begins a symbol in ASCII is shorter, and its characters are mapped one by one. -/
theorem word_of_begins (hs : ∀ c ∈ s, isAscii c = true) (h : begins w s = true) :
    (∀ c ∈ w, lowersToAscii c = true) ∧ w.length < s.length := by
  obtain ⟨starts, differs⟩ := (begins_iff w s).mp h
  have hw : ∀ c ∈ w, lowersToAscii c = true :=
    lowersToAscii_of_lowerFrom fun d hd => isAscii_of_mem_lower hs d (starts.subset hd)
  refine ⟨hw, ?_⟩
  have hle := starts.length_le
  have hne : (lower w).length ≠ (lower s).length := fun hl => differs (starts.eq_of_length hl).symm
  rw [length_lower hw, length_lower (forall_lowersToAscii hs)] at hle hne
  omega

/-- Whatever a longer word begins, the shorter one begins, too. -/
theorem begins_of_append (hw : ∀ c ∈ w, lowersToAscii c = true)
    (hp : ∀ c ∈ p, lowersToAscii c = true) (h : begins (w ++ p) s = true) : begins w s = true := by
  rw [begins_iff, lower_append hw hp] at h
  obtain ⟨starts, differs⟩ := h
  refine (begins_iff w s).mpr ⟨(List.prefix_append _ _).trans starts, fun he => ?_⟩
  rw [he] at starts differs
  have hl := starts.length_le
  have hn : lower p = [] := by
    rw [List.length_append] at hl
    exact List.eq_nil_of_length_eq_zero (by omega)
  simp [hn] at differs

/-! Casing. -/

theorem isCapitalized_append_iff (hne : w ≠ []) (hw : ∀ c ∈ w, lowersToAscii c = true)
    (hp : ∀ c ∈ p, lowersToAscii c = true) :
    isCapitalized (w ++ p) = true ↔ isCapitalized w = true ∧ lower p = p := by
  cases w with
  | nil => contradiction
  | cons c r =>
    have hr : ∀ d ∈ r, lowersToAscii d = true := fun d hd => hw d (List.mem_cons_of_mem c hd)
    simp [isCapitalized, lower_append_eq_iff hr hp, and_assoc]

theorem capitalize_of_isAscii {c : Char} (hs : ∀ d ∈ c :: s, isAscii d = true) :
    capitalize (c :: s) = c.toUpper :: s.map Char.toLower := by
  rw [List.forall_mem_cons] at hs
  rw [capitalize, upperChar_eq (lowersToAscii_of_isAscii hs.1), lower_of_isAscii hs.2]
  rfl

theorem mem_adapt (hs : ∀ c ∈ s, isAscii c = true) {c : Char} (h : c ∈ adapt w s) :
    ∃ d ∈ s, c = d ∨ c = d.toLower ∨ c = d.toUpper := by
  unfold adapt at h
  split at h
  · rw [upper_eq_map (forall_lowersToAscii hs)] at h
    obtain ⟨d, hd, rfl⟩ := List.mem_map.mp h
    exact ⟨d, hd, .inr (.inr rfl)⟩
  · split at h
    · rw [lower_of_isAscii hs] at h
      obtain ⟨d, hd, rfl⟩ := List.mem_map.mp h
      exact ⟨d, hd, .inr (.inl rfl)⟩
    · split at h
      · cases s with
        | nil => simp [capitalize] at h
        | cons a r =>
          rw [capitalize_of_isAscii hs] at h
          obtain rfl | h := List.mem_cons.mp h
          · exact ⟨a, List.mem_cons_self, .inr (.inr rfl)⟩
          · obtain ⟨d, hd, rfl⟩ := List.mem_map.mp h
            exact ⟨d, List.mem_cons_of_mem a hd, .inr (.inl rfl)⟩
      · exact ⟨c, h, .inl rfl⟩

theorem isAscii_of_mem_adapt (hs : ∀ c ∈ s, isAscii c = true) :
    ∀ c ∈ adapt w s, isAscii c = true := by
  intro c hc
  obtain ⟨d, hd, rfl | rfl | rfl⟩ := mem_adapt hs hc
  · exact hs c hd
  · exact isAscii_toLower (hs d hd)
  · exact isAscii_toUpper (hs d hd)

theorem isAscii_of_mem_drop_adapt (hs : ∀ c ∈ s, isAscii c = true) (n : Nat) :
    ∀ c ∈ (adapt w s).drop n, isAscii c = true := fun c hc =>
  isAscii_of_mem_adapt hs c (List.mem_of_mem_drop hc)

theorem lower_adapt (hs : ∀ c ∈ s, isAscii c = true) : lower (adapt w s) = lower s := by
  have ascii := isAscii_of_mem_adapt (w := w) hs
  rw [lower_of_isAscii hs, lower_of_isAscii ascii]
  unfold adapt
  split
  · rw [upper_eq_map (forall_lowersToAscii hs), List.map_map]
    exact List.map_congr_left fun c hc => toLower_toUpper (hs c hc)
  · split
    · rw [lower_of_isAscii hs, List.map_map]
      exact List.map_congr_left fun c hc => toLower_toLower (hs c hc)
    · split
      · cases s with
        | nil => rfl
        | cons a r =>
          rw [capitalize_of_isAscii hs]
          rw [List.forall_mem_cons] at hs
          rw [List.map_cons, List.map_cons, toLower_toUpper hs.1, List.map_map]
          congr 1
          exact List.map_congr_left fun c hc => toLower_toLower (hs.2 c hc)
      · rfl

theorem length_adapt (hs : ∀ c ∈ s, isAscii c = true) : (adapt w s).length = s.length := by
  have hl := congrArg List.length (lower_adapt (w := w) hs)
  rwa [length_lower (forall_lowersToAscii (isAscii_of_mem_adapt hs)),
    length_lower (forall_lowersToAscii hs)] at hl

theorem mem_lower_of_mem_drop (hs : ∀ c ∈ s, isAscii c = true) {n : Nat} {c : Char}
    (h : c ∈ (capitalize s).drop (n + 1)) : c ∈ lower s := by
  cases s with
  | nil => simp [capitalize] at h
  | cons a r =>
    rw [capitalize_of_isAscii hs, List.drop_succ_cons] at h
    rw [lower_of_isAscii hs, List.map_cons]
    exact List.mem_cons_of_mem _ (List.mem_of_mem_drop h)

/-- The casing of a word stays what it is when the word goes on as the symbol in that casing. -/
theorem adapt_append (hs : ∀ c ∈ s, isAscii c = true) (hw : ∀ c ∈ w, lowersToAscii c = true)
    (hne : w ≠ []) (hp : ∀ c ∈ p, c ∈ (adapt w s).drop w.length) :
    adapt (w ++ p) s = adapt w s := by
  have hpl := forall_lowersToAscii fun c hc => isAscii_of_mem_drop_adapt hs w.length c (hp c hc)
  by_cases hu : upper w = w
  · have goesOn : upper p = p := upper_eq_self hs fun c hc => by
      simpa [adapt, hu] using List.mem_of_mem_drop (hp c hc)
    simp [adapt, upper_append_eq_iff hw, hu, goesOn]
  by_cases hl : lower w = w
  · have goesOn : lower p = p := lower_eq_self hs fun c hc => by
      simpa [adapt, hu, hl] using List.mem_of_mem_drop (hp c hc)
    simp [adapt, upper_append_eq_iff hw, hu, lower_append_eq_iff hw hpl, hl, goesOn]
  by_cases hc : isCapitalized w = true
  · have goesOn : lower p = p := lower_eq_self hs fun c hp' => by
      obtain ⟨b, r, rfl⟩ := List.exists_cons_of_ne_nil hne
      have later := hp c hp'
      rw [adapt, if_neg (by simpa using hu), if_neg (by simpa using hl), if_pos hc] at later
      exact mem_lower_of_mem_drop hs later
    simp [adapt, upper_append_eq_iff hw, hu, lower_append_eq_iff hw hpl, hl,
      isCapitalized_append_iff hne hw hpl, hc, goesOn]
  · simp [adapt, upper_append_eq_iff hw, hu, lower_append_eq_iff hw hpl, hl,
      isCapitalized_append_iff hne hw hpl, hc]

/-- What the word leaves of the symbol in its casing is what it leaves of the symbol, case aside. -/
theorem lower_append_lower_drop (hs : ∀ c ∈ s, isAscii c = true) (h : begins w s = true) :
    lower w ++ lower ((adapt w s).drop w.length) = lower s := by
  have hw := (word_of_begins hs h).1
  have starts := ((begins_iff w s).mp h).1
  calc
    lower w ++ lower ((adapt w s).drop w.length) = lower w ++ (lower s).drop w.length := by
      rw [lower_drop (forall_lowersToAscii (isAscii_of_mem_adapt hs)), lower_adapt hs]
    _ = lower s := by
      rw [← length_lower hw]
      exact List.prefix_iff_eq_append.mp starts

/-- A symbol that a word begins, it goes on to begin until all of the symbol has been typed. -/
theorem begins_append (hs : ∀ c ∈ s, isAscii c = true) (h : begins w s = true)
    (hp : (adapt w s).drop w.length = p ++ q) (hq : q ≠ []) : begins (w ++ p) s = true := by
  have hw := (word_of_begins hs h).1
  have hpq := forall_lowersToAscii (isAscii_of_mem_drop_adapt (w := w) hs w.length)
  rw [hp, List.forall_mem_append] at hpq
  obtain ⟨hpl, hql⟩ := hpq
  have typed : lower (w ++ p) ++ lower q = lower s := by
    rw [← lower_append_lower_drop hs h, hp, lower_append hw hpl, lower_append hpl hql,
      List.append_assoc]
  rw [begins_iff, ← typed]
  refine ⟨List.prefix_append _ _, fun he => ?_⟩
  have hn := congrArg List.length (List.append_right_eq_self.mp he)
  rw [length_lower hql] at hn
  exact hq (List.eq_nil_of_length_eq_zero hn)

theorem isBreak_of_mem_adapt (ascii : ∀ c ∈ s, isAscii c = true)
    (whole : ∀ c ∈ s, isBreak c = false) : ∀ c ∈ adapt w s, isBreak c = false := by
  intro c hc
  obtain ⟨d, hd, rfl | rfl | rfl⟩ := mem_adapt ascii hc
  · exact whole c hd
  · exact (forall_isAscii (P := fun c => isBreak c.toLower = isBreak c) (by decide +kernel)
      (ascii d hd)).trans (whole d hd)
  · exact (forall_isAscii (P := fun c => isBreak c.toUpper = isBreak c) (by decide +kernel)
      (ascii d hd)).trans (whole d hd)

end Workpad.Completion
