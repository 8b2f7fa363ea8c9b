import Workpad.Text.Search

/-!
Where a needle stands in a text, and what is in its places after they were filled. The text is cut
at the places found from the left; the pieces stay as they are, and the new text stands between them.
-/
namespace Workpad.Text
variable {needle new s r : List Char} {pieces other : List (List Char)}

theorem occursIn_iff (needle s : List Char) : occursIn needle s = true ↔ needle <:+: s := by
  induction s with
  | nil => simp [occursIn]
  | cons c r ih =>
    rw [occursIn, Bool.or_eq_true, List.isPrefixOf_iff_prefix, ih, List.infix_cons_iff]

/-! One place after the other. -/

theorem replaceFrom_eq (needle new s : List Char) (skip : Nat) :
    replaceFrom needle new skip s = replaceAll needle new (s.drop skip) := by
  induction s generalizing skip with
  | nil => cases skip <;> simp [replaceFrom, replaceAll]
  | cons c r ih =>
    cases skip with
    | zero => rfl
    | succ skip => exact ih skip

theorem replaceAll_append (hne : needle ≠ []) (new r : List Char) :
    replaceAll needle new (needle ++ r) = new ++ replaceAll needle new r := by
  obtain ⟨c, n, rfl⟩ := List.exists_cons_of_ne_nil hne
  have here : (c :: n).isPrefixOf (c :: (n ++ r)) = true :=
    List.isPrefixOf_iff_prefix.mpr (List.prefix_append (c :: n) r)
  rw [replaceAll, List.cons_append, replaceFrom, if_pos here, replaceFrom_eq]
  simp

theorem replaceAll_cons {c : Char} (h : ¬ needle <+: c :: r) (new : List Char) :
    replaceAll needle new (c :: r) = c :: replaceAll needle new r := by
  rw [replaceAll, replaceFrom, if_neg fun he => h (List.isPrefixOf_iff_prefix.mp he)]
  rfl

/-- The pieces of a text between the places of a needle. Each place is the first one in what is left
of the text, so places are taken from the left and do not overlap. -/
inductive Cut (needle : List Char) : List Char → List (List Char) → Prop where
  | whole {s : List Char} (absent : ¬ needle <:+: s) : Cut needle s [s]
  | place {s a r : List Char} {pieces : List (List Char)} (parts : s = a ++ needle ++ r)
      (first : ∀ b, b ++ needle <+: s → a.length ≤ b.length) (rest : Cut needle r pieces) :
      Cut needle s (a :: pieces)

theorem Cut.ne_nil (h : Cut needle s pieces) : pieces ≠ [] := by
  cases h <;> exact List.cons_ne_nil _ _

/-- A character at which no place starts joins the first piece. -/
theorem Cut.cons {c : Char} {p : List Char} (h : Cut needle r (p :: pieces))
    (here : ¬ needle <+: c :: r) : Cut needle (c :: r) ((c :: p) :: pieces) := by
  cases h with
  | whole absent =>
    refine .whole fun hi => ?_
    obtain h | h := List.infix_cons_iff.mp hi
    · exact here h
    · exact absent h
  | place parts first rest =>
    refine .place (by rw [parts]; rfl) (fun b hb => ?_) rest
    cases b with
    | nil => exact absurd hb here
    | cons d b =>
      have later := first b (List.cons_prefix_cons.mp hb).2
      simpa using later

/-- Every text can be cut, and replacing joins the pieces again with the new text between them. -/
theorem exists_cut (hne : needle ≠ []) (s : List Char) :
    ∃ pieces, Cut needle s pieces ∧ ∀ new, replaceAll needle new s = new.intercalate pieces := by
  induction hn : s.length using Nat.strongRecOn generalizing s with
  | ind n ih =>
    by_cases here : needle <+: s
    · obtain ⟨r, rfl⟩ := here
      have shorter : r.length < n := by
        have pos := List.length_pos_iff.mpr hne
        rw [List.length_append] at hn
        omega
      obtain ⟨pieces, cut, joined⟩ := ih r.length shorter r rfl
      refine ⟨[] :: pieces, .place rfl (fun b _ => Nat.zero_le _) cut, fun new => ?_⟩
      rw [replaceAll_append hne, joined, List.intercalate_cons_of_ne_nil cut.ne_nil]
      rfl
    cases s with
    | nil =>
      refine ⟨[[]], .whole fun hi => hne (List.eq_nil_of_infix_nil hi), fun new => ?_⟩
      rw [List.intercalate_singleton]
      rfl
    | cons c r =>
      obtain ⟨pieces, cut, joined⟩ := ih r.length (by rw [← hn]; exact Nat.lt_succ_self _) r rfl
      obtain ⟨p, pieces, rfl⟩ := List.exists_cons_of_ne_nil cut.ne_nil
      refine ⟨(c :: p) :: pieces, cut.cons here, fun new => ?_⟩
      rw [replaceAll_cons here, joined]
      cases pieces with
      | nil => simp
      | cons q pieces => simp [List.intercalate_cons_cons]

-- The parts around a place that is filled are not read together as a place of their own.
example : replaceAll "<>".toList "id".toList "<<>><>".toList = "<id>id".toList := by decide

/-- There is one way only to cut a text. -/
theorem Cut.unique (h : Cut needle s pieces) (h' : Cut needle s other) : other = pieces := by
  induction h generalizing other with
  | whole absent =>
    cases h' with
    | whole _ => rfl
    | @place _ a r _ parts _ _ => exact absurd ⟨a, r, parts.symm⟩ absent
  | @place s a r pieces parts first _ ih =>
    cases h' with
    | whole absent => exact absurd ⟨a, r, parts.symm⟩ absent
    | @place _ a' r' pieces' parts' first' rest' =>
      have before := first a' ⟨r', parts'.symm⟩
      have after := first' a ⟨r, parts.symm⟩
      obtain ⟨hp, hr⟩ := List.append_inj (parts'.symm.trans parts) (by simp; omega)
      obtain ⟨ha, -⟩ := List.append_inj hp (by omega)
      have same : pieces' = pieces := ih (hr ▸ rest')
      rw [ha, same]

theorem Cut.iff_eq (h : Cut needle s pieces) : Cut needle s other ↔ other = pieces :=
  ⟨h.unique, fun same => same ▸ h⟩

/-! No place is left, and none is made. -/

/-- A text that no place of the needle can run into from the left, and none can start in. -/
structure Foreign (needle new : List Char) : Prop where
  entry : ∃ c r, new = c :: r ∧ c ∉ needle
  start : ∃ c r, needle = c :: r ∧ c ∉ new

/-- Between texts without the needle, foreign text leaves none: a place would have to begin in front
of it and run into it, or to begin in it. -/
theorem Foreign.not_infix (h : Foreign needle new) {a b : List Char} (ha : ¬ needle <:+: a)
    (hb : ¬ needle <:+: b) : ¬ needle <:+: a ++ (new ++ b) := by
  obtain ⟨⟨c, n, rfl, hc⟩, ⟨d, m, rfl, hd⟩⟩ := h
  intro place
  rw [List.infix_append_iff, List.infix_append_iff] at place
  obtain inA | (inNew | inB | ⟨u, v, parts, hu, hv⟩) | ⟨u, v, parts, hu, hv⟩ := place
  · exact ha inA
  · exact hd (inNew.subset List.mem_cons_self)
  · exact hb inB
  · cases u with
    | nil => exact hb (parts ▸ hv.isInfix)
    | cons x u =>
      obtain ⟨rfl, -⟩ := List.cons.inj parts
      exact hd (hu.subset List.mem_cons_self)
  · cases v with
    | nil =>
      rw [List.append_nil] at parts
      exact ha (parts ▸ hu.isInfix)
    | cons x v =>
      obtain ⟨rfl, -⟩ := List.cons_prefix_cons.mp hv
      exact hc (parts ▸ List.mem_append_right u List.mem_cons_self)

/-- With foreign text in all its places, a text has no place any more. -/
theorem Cut.not_infix (h : Cut needle s pieces) (foreign : Foreign needle new) :
    ¬ needle <:+: new.intercalate pieces := by
  induction h with
  | whole absent => rwa [List.intercalate_singleton]
  | @place s a r pieces parts first rest ih =>
    have absent : ¬ needle <:+: a := by
      rintro ⟨u, v, rfl⟩
      have early := first u ⟨v ++ needle ++ r, by rw [parts]; simp⟩
      obtain ⟨d, m, rfl, -⟩ := foreign.start
      simp only [List.length_append, List.length_cons] at early
      omega
    rw [List.intercalate_cons_of_ne_nil rest.ne_nil, List.append_assoc]
    exact foreign.not_infix absent ih

end Workpad.Text
