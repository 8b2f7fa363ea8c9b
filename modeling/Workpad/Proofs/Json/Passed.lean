import Mathlib.Data.List.DropRight
import Workpad.Proofs.Json.Grammar

/-!
Values that nobody looks at. Every text of the grammar is passed over whole, however deep it nests,
and the fuel for that is there.
-/
namespace Workpad.Json

/-- Text behind a value that could not belong to the value, even if that is a number. -/
def Ends (rest : List Char) : Prop :=
  ∀ c ∈ rest.head?, isDigit c = false ∧ c ≠ '.' ∧ isExponentMark c = false

theorem ends_nil : Ends [] := by simp [Ends]

theorem ends_cons {c : Char} (h : isDigit c = false ∧ c ≠ '.' ∧ isExponentMark c = false)
    (rest : List Char) : Ends (c :: rest) := by
  intro d hd
  obtain rfl : c = d := by simpa using hd
  exact h

theorem Gap.ends {gap : List Char} (h : Gap gap) {rest : List Char} (hr : Ends rest) :
    Ends (gap ++ rest) := by
  cases gap with
  | nil => exact hr
  | cons c gap =>
    apply ends_cons
    have hc := h c List.mem_cons_self
    fin_cases hc <;> decide

/-! Numbers. -/

theorem isDigit_of_mem {c : Char} (h : c ∈ decimalDigits) : isDigit c = true := by
  have all : ∀ c ∈ decimalDigits, isDigit c = true := by simp [decimalDigits, isDigit]
  exact all c h

theorem Digits.scan {digits rest : List Char} (h : Digits digits)
    (hr : ∀ c ∈ rest.head?, isDigit c = false) :
    (digits ++ rest).takeWhile isDigit = digits ∧ (digits ++ rest).dropWhile isDigit = rest := by
  have hd : ∀ c ∈ digits, isDigit c = true := fun c hc => isDigit_of_mem (h.2 c hc)
  rw [List.takeWhile_append_of_pos hd, List.dropWhile_append_of_pos hd]
  cases rest with
  | nil => simp
  | cons c rest => simp [hr c rfl]

theorem Digits.skip {digits rest : List Char} (h : Digits digits)
    (hr : ∀ c ∈ rest.head?, isDigit c = false) : skipDigits (digits ++ rest) = .ok rest := by
  obtain ⟨taken, left⟩ := h.scan hr
  rw [skipDigits, taken, left, if_neg (by simpa using h.1)]

theorem readSign_append {sign digits : List Char} (hs : sign ∈ [[], ['+'], ['-']])
    (h : Digits digits) (rest : List Char) : (readSign (sign ++ (digits ++ rest))).2 = digits ++ rest := by
  fin_cases hs
  · obtain ⟨c, digits', rfl⟩ := List.exists_cons_of_ne_nil h.1
    have hc := h.2 c List.mem_cons_self
    fin_cases hc <;> rfl
  · rfl
  · rfl

theorem Exponent.skip {exponent rest : List Char} (h : Exponent exponent) (hr : Ends rest) :
    skipExponent (exponent ++ rest) = .ok rest := by
  obtain rfl | ⟨mark, sign, digits, hm, hs, hd, rfl⟩ := h
  · cases rest with
    | nil => rfl
    | cons c rest => simp [skipExponent, (hr c rfl).2.2]
  · have marks : isExponentMark mark = true := by fin_cases hm <;> rfl
    have sign := readSign_append hs hd rest
    rw [List.cons_append, List.append_assoc, skipExponent, if_pos marks, sign]
    exact hd.skip fun c hc => (hr c hc).1

/-- Neither a digit nor a point follows where an exponent may follow. -/
theorem Exponent.head {exponent rest : List Char} (h : Exponent exponent) (hr : Ends rest) :
    ∀ c ∈ (exponent ++ rest).head?, isDigit c = false ∧ c ≠ '.' := by
  obtain rfl | ⟨mark, sign, digits, hm, -, -, rfl⟩ := h
  · exact fun c hc => ⟨(hr c hc).1, (hr c hc).2.1⟩
  · intro c hc
    obtain rfl : mark = c := by simpa using hc
    fin_cases hm <;> decide

theorem Fraction.skip {fraction exponent rest : List Char} (h : Fraction fraction)
    (he : Exponent exponent) (hr : Ends rest) :
    skipFraction (fraction ++ (exponent ++ rest)) = .ok rest := by
  have head := he.head hr
  have skipped := he.skip hr
  obtain rfl | ⟨digits, hd, rfl⟩ := h
  · rw [List.nil_append]
    generalize exponent ++ rest = s at head skipped
    cases s with
    | nil => exact skipped
    | cons c r =>
      rw [skipFraction, if_neg (head c rfl).2]
      exact skipped
  · rw [List.cons_append, skipFraction, if_pos rfl, hd.skip fun c hc => (head c hc).1]
    exact skipped

theorem Fraction.head {fraction exponent rest : List Char} (h : Fraction fraction)
    (he : Exponent exponent) (hr : Ends rest) :
    ∀ c ∈ (fraction ++ (exponent ++ rest)).head?, isDigit c = false := by
  obtain rfl | ⟨digits, -, rfl⟩ := h
  · exact fun c hc => (he.head hr c hc).1
  · intro c hc
    obtain rfl : '.' = c := by simpa using hc
    rfl

theorem Whole.skip {whole fraction exponent rest : List Char} (h : Whole whole)
    (hf : Fraction fraction) (he : Exponent exponent) (hr : Ends rest) :
    skipNumber (whole ++ (fraction ++ (exponent ++ rest))) = .ok rest := by
  obtain ⟨taken, left⟩ := h.1.scan (hf.head he hr)
  have lead : ¬(whole.head? = some '0' ∧ 1 < whole.length) := by
    rintro ⟨zero, long⟩
    rw [h.2 zero] at long
    contradiction
  rw [skipNumber, taken, left, if_neg (by simpa using h.1.1), if_neg lead]
  exact hf.skip he hr

/-! Scalars. -/

theorem skipExact_append (tail rest : List Char) : skipExact tail (tail ++ rest) = .ok rest := by
  induction tail with
  | nil => cases rest <;> rfl
  | cons c tail ih => rw [List.cons_append, skipExact, if_pos rfl, ih]

/-- A scalar does not begin like white space or a bracket, and is taken whole. -/
theorem Scalar.skip {text : List Char} (h : Scalar text) : ∃ c r, text = c :: r ∧
    isSpace c = false ∧ c ≠ '[' ∧ c ≠ '{' ∧
      ∀ rest, Ends rest → skipScalar c (r ++ rest) = .ok rest := by
  cases h with
  | @literal text named =>
    have known (c : Char) (tail : List Char) (hc : literalTail? c = some tail)
        (plain : c ≠ '"' ∧ c ≠ '-' ∧ isDigit c = false) (rest : List Char) :
        skipScalar c (tail ++ rest) = .ok rest := by
      simp [skipScalar, plain, hc, skipExact_append]
    fin_cases named
    · exact ⟨'n', _, rfl, by decide, by decide, by decide, fun rest _ => known _ _ rfl (by decide) rest⟩
    · exact ⟨'t', _, rfl, by decide, by decide, by decide, fun rest _ => known _ _ rfl (by decide) rest⟩
    · exact ⟨'f', _, rfl, by decide, by decide, by decide, fun rest _ => known _ _ rfl (by decide) rest⟩
  | @string inner loose =>
    refine ⟨'"', _, rfl, by decide, by decide, by decide, fun rest _ => ?_⟩
    simp [skipScalar, loose.skip]
  | @number whole fraction exponent negative hw hf he =>
    have number (rest : List Char) (hr : Ends rest) := hw.skip hf he hr
    cases negative with
    | true =>
      refine ⟨'-', _, rfl, by decide, by decide, by decide, fun rest hr => ?_⟩
      simpa [skipScalar] using number rest hr
    | false =>
      obtain ⟨c, digits, rfl⟩ := List.exists_cons_of_ne_nil hw.1.1
      have hc := hw.1.2 c List.mem_cons_self
      have digit : isDigit c = true := isDigit_of_mem hc
      have apart : isSpace c = false ∧ c ≠ '[' ∧ c ≠ '{' ∧ c ≠ '"' ∧ c ≠ '-' := by
        fin_cases hc <;> decide
      refine ⟨c, _, rfl, apart.1, apart.2.1, apart.2.2.1, fun rest hr => ?_⟩
      simpa [skipScalar, apart, digit] using number rest hr

/-! Values, to any depth. -/

theorem skipSpace_of_head {c : Char} (h : isSpace c = false) (r : List Char) :
    skipSpace (c :: r) = c :: r := by
  simp [skipSpace, h]

theorem skipSpace_skipSpace (s : List Char) : skipSpace (skipSpace s) = skipSpace s :=
  List.dropWhile_idempotent isSpace s

theorem skipFrom_skipSpace (fuel : Nat) (stack : List Bracket) (s : List Char) :
    skipFrom fuel stack (skipSpace s) = skipFrom fuel stack s := by
  cases fuel with
  | zero => simp [skipFrom]
  | succ fuel => rw [skipFrom, skipFrom, skipSpace_skipSpace]

theorem skipLead_skipSpace (b : Bracket) (s : List Char) (fuel : Nat) (stack : List Bracket) :
    (skipLead b (skipSpace s)).bind (skipFrom fuel stack) =
      (skipLead b s).bind (skipFrom fuel stack) := by
  cases b with
  | array => exact skipFrom_skipSpace fuel stack s
  | object => rw [skipLead, skipLead, skipKey, skipKey, skipSpace_skipSpace]

theorem Lead.skip {b : Bracket} {lead : List Char} (h : Lead b lead) (rest : List Char) :
    skipLead b (lead ++ rest) = .ok rest := by
  cases h with
  | array => rfl
  | @object gap inner gap' hg loose hg' =>
    have text : gap ++ ('"' :: inner ++ '"' :: (gap' ++ [':'])) ++ rest =
        gap ++ '"' :: (inner ++ '"' :: (gap' ++ ':' :: rest)) := by simp
    rw [text, skipLead, skipKey, hg.skip, skipSpace_of_head rfl]
    simp only [if_true]
    rw [loose.skip]
    simp only [hg'.skip]
    rw [skipSpace_of_head rfl]
    simp

theorem skipSpace_closer (b : Bracket) (rest : List Char) :
    skipSpace (b.closer :: rest) = b.closer :: rest := by
  cases b <;> exact skipSpace_of_head rfl rest

theorem Bracket.ends_closer (b : Bracket) (rest : List Char) : Ends (b.closer :: rest) := by
  apply ends_cons
  cases b <;> decide

/-- A value cannot be taken for the end of an array. -/
theorem Written.head {text : List Char} (h : Written .value text) :
    ∃ c r, text = c :: r ∧ isSpace c = false ∧ c ≠ ']' := by
  cases h with
  | scalar scalar =>
    obtain ⟨c, r, rfl, solid, -, -, skipped⟩ := scalar.skip
    refine ⟨c, r, rfl, solid, ?_⟩
    rintro rfl
    have closed := skipped [] ends_nil
    simp [skipScalar, literalTail?, isDigit] at closed
  | empty b _ => cases b <;> exact ⟨_, _, rfl, rfl, by decide⟩
  | @filled b _ _ => cases b <;> exact ⟨_, _, rfl, rfl, by decide⟩

theorem Lead.head {b : Bracket} {lead gap value : List Char} (hl : Lead b lead) (hg : Gap gap)
    (hv : Written .value value) (rest : List Char) :
    ∃ c r, skipSpace (lead ++ (gap ++ (value ++ rest))) = c :: r ∧ c ≠ b.closer := by
  cases hl with
  | array =>
    obtain ⟨c, r, rfl, solid, inside⟩ := hv.head
    refine ⟨c, r ++ rest, ?_, inside⟩
    rw [List.nil_append, hg.skip, List.cons_append, skipSpace_of_head solid]
  | object hg' _ _ =>
    rw [List.append_assoc, hg'.skip, List.cons_append, List.cons_append, skipSpace_of_head rfl]
    exact ⟨_, _, rfl, by decide⟩

theorem Written.items_head {b : Bracket} {items : List Char} (h : Written (.items b) items)
    (rest : List Char) : ∃ c r, skipSpace (items ++ rest) = c :: r ∧ c ≠ b.closer := by
  cases h with
  | last hl hg hv _ => simpa only [List.append_assoc] using hl.head hg hv _
  | more hl hg hv _ _ => simpa only [List.append_assoc] using hl.head hg hv _

theorem skipFrom_opener (b : Bracket) {gap : List Char} (hg : Gap gap) (fuel : Nat)
    (stack : List Bracket) (s : List Char) :
    skipFrom (fuel + 1) stack (gap ++ b.opener :: s) = skipOpened fuel b stack s := by
  rw [skipFrom, hg.skip]
  cases b <;> simp [Bracket.opener, skipSpace, isSpace]

theorem skipOpened_close (b : Bracket) {gap : List Char} (hg : Gap gap) (fuel : Nat)
    (stack : List Bracket) (rest : List Char) :
    skipOpened (fuel + 1) b stack (gap ++ b.closer :: rest) = skipClosing fuel stack rest := by
  rw [skipOpened, hg.skip, skipSpace_closer]
  simp only [if_true]

theorem skipOpened_items {b : Bracket} {items : List Char} (h : Written (.items b) items)
    (fuel : Nat) (stack : List Bracket) (rest : List Char) :
    skipOpened (fuel + 1) b stack (items ++ rest) =
      (skipLead b (items ++ rest)).bind (skipFrom fuel (b :: stack)) := by
  obtain ⟨c, r, head, inside⟩ := h.items_head rest
  rw [skipOpened, head]
  simp only [inside, if_false]
  rw [← head, ← skipLead_skipSpace]
  cases skipLead b (skipSpace (items ++ rest)) <;> rfl

theorem skipClosing_close (b : Bracket) {gap : List Char} (hg : Gap gap) (fuel : Nat)
    (stack : List Bracket) (rest : List Char) :
    skipClosing (fuel + 1) (b :: stack) (gap ++ b.closer :: rest) = skipClosing fuel stack rest := by
  rw [skipClosing, hg.skip, skipSpace_closer]
  cases b <;> simp [Bracket.closer]

theorem skipClosing_more (b : Bracket) {gap : List Char} (hg : Gap gap) (fuel : Nat)
    (stack : List Bracket) (rest : List Char) :
    skipClosing (fuel + 1) (b :: stack) (gap ++ ',' :: rest) =
      (skipLead b rest).bind (skipFrom fuel (b :: stack)) := by
  rw [skipClosing, hg.skip, skipSpace_of_head rfl]
  simp only [if_true]
  cases skipLead b rest <;> rfl

/-- A part is passed over whole, whatever is open around it, in a number of steps that its length
bounds. -/
def Part.Passed : Part → List Char → Prop
  | .value, text => ∃ n ≤ 2 * text.length, ∀ fuel stack gap rest, Gap gap → Ends rest →
      skipFrom (fuel + n) stack (gap ++ (text ++ rest)) = skipClosing fuel stack rest
  | .items b, text => ∃ n ≤ 2 * text.length + 1, ∀ fuel stack rest,
      (skipLead b (text ++ b.closer :: rest)).bind (skipFrom (fuel + n) (b :: stack)) =
        skipClosing fuel stack rest

theorem Scalar.passed {text : List Char} (h : Scalar text) : Part.value.Passed text := by
  obtain ⟨c, r, rfl, solid, array, object, skipped⟩ := h.skip
  refine ⟨1, by simp only [List.length_cons]; omega, fun fuel stack gap rest hg hr => ?_⟩
  rw [skipFrom, hg.skip, List.cons_append, skipSpace_of_head solid]
  simp only [array, object, if_false, skipped rest hr]

theorem passed_empty (b : Bracket) {gap : List Char} (hg : Gap gap) :
    Part.value.Passed (b.opener :: (gap ++ [b.closer])) := by
  refine ⟨2, by simp only [List.length_cons]; omega, fun fuel stack gap' rest hg' _ => ?_⟩
  simp only [List.cons_append, List.append_assoc, List.nil_append]
  rw [← Nat.add_assoc fuel 1 1, skipFrom_opener b hg', skipOpened_close b hg]

theorem passed_filled {b : Bracket} {items : List Char} (h : Written (.items b) items)
    (inside : (Part.items b).Passed items) :
    Part.value.Passed (b.opener :: (items ++ [b.closer])) := by
  obtain ⟨n, bound, passed⟩ := inside
  refine ⟨n + 2, ?_, fun fuel stack gap rest hg _ => ?_⟩
  · simp only [List.length_cons, List.length_append, List.length_nil]
    omega
  · simp only [List.cons_append, List.append_assoc, List.nil_append]
    rw [← Nat.add_assoc fuel n 2, ← Nat.add_assoc (fuel + n) 1 1, skipFrom_opener b hg,
      skipOpened_items h, passed]

theorem passed_last {b : Bracket} {lead gap value gap' : List Char} (hl : Lead b lead)
    (hg : Gap gap) (hg' : Gap gap') (h : Part.value.Passed value) :
    (Part.items b).Passed (lead ++ (gap ++ (value ++ gap'))) := by
  obtain ⟨n, bound, passed⟩ := h
  refine ⟨1 + n, ?_, fun fuel stack rest => ?_⟩
  · simp only [List.length_append]
    omega
  · have ends : Ends (gap' ++ b.closer :: rest) := hg'.ends (b.ends_closer rest)
    simp only [List.append_assoc]
    rw [hl.skip, Except.bind, ← Nat.add_assoc, passed _ _ _ _ hg ends, skipClosing_close b hg']

theorem passed_more {b : Bracket} {lead gap value gap' items : List Char} (hl : Lead b lead)
    (hg : Gap gap) (hg' : Gap gap') (h : Part.value.Passed value)
    (hi : (Part.items b).Passed items) :
    (Part.items b).Passed (lead ++ (gap ++ (value ++ (gap' ++ ',' :: items)))) := by
  obtain ⟨n, bound, passed⟩ := h
  obtain ⟨k, bound', others⟩ := hi
  refine ⟨k + 1 + n, ?_, fun fuel stack rest => ?_⟩
  · simp only [List.length_append, List.length_cons]
    omega
  · have comma : Ends (',' :: (items ++ b.closer :: rest)) := ends_cons (by decide) _
    simp only [List.append_assoc, List.cons_append]
    rw [hl.skip, Except.bind, ← Nat.add_assoc, ← Nat.add_assoc, passed _ _ _ _ hg (hg'.ends comma),
      skipClosing_more b hg', others]

/-- The induction is on the text, so that the open brackets can be whatever they are. -/
theorem Written.passed {part : Part} {text : List Char} (h : Written part text) :
    part.Passed text := by
  induction h with
  | scalar scalar => exact scalar.passed
  | empty b hg => exact passed_empty b hg
  | filled inside ih => exact passed_filled inside ih
  | last hl hg _ hg' ih => exact passed_last hl hg hg' ih
  | more hl hg _ hg' _ ih ih' => exact passed_more hl hg hg' ih ih'

/-- Whatever value stands there, it is passed over whole and nothing behind it is touched. -/
theorem skipValue_of_written {value gap rest : List Char} (h : Written .value value) (hg : Gap gap)
    (hr : Ends rest) : skipValue (gap ++ (value ++ rest)) = .ok rest := by
  obtain ⟨n, bound, passed⟩ := h.passed
  have enough : n + 1 ≤ 2 * (gap ++ (value ++ rest)).length + 3 := by
    simp only [List.length_append]
    omega
  obtain ⟨fuel, hf⟩ := Nat.exists_eq_add_of_le' enough
  rw [skipValue, hf, ← Nat.add_assoc, Nat.add_right_comm, passed _ _ _ _ hg hr]
  rfl

end Workpad.Json
