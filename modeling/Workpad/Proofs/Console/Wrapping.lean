import Mathlib.Data.List.Chain
import Workpad.Console.HelpTable
import Workpad.Proofs.Text.Ends
import Workpad.Proofs.Text.Words

/-!
Wrapping of descriptions. Words are cut into pieces only where they have to be, the pieces are laid out
in lines with a space between any two, and a line goes on as long as the next piece fits.
-/
namespace Workpad.HelpTable
open Text
variable {w most : Nat} {word : List Char} {ps qs : List (List Char)}
variable {lines : List (List (List Char))}

def joined (ps : List (List Char)) : List Char := [' '].intercalate ps

@[simp] theorem joined_nil : joined [] = [] := rfl

@[simp] theorem joined_singleton (p : List Char) : joined [p] = p := List.intercalate_singleton

theorem joined_cons_cons (p q : List Char) (ps : List (List Char)) :
    joined (p :: q :: ps) = p ++ ' ' :: joined (q :: ps) := by
  rw [joined, List.intercalate_cons_cons, List.append_assoc]
  rfl

theorem joined_ne_nil (hp : ∀ p ∈ ps, p ≠ []) (hne : ps ≠ []) : joined ps ≠ [] := by
  cases ps with
  | nil => contradiction
  | cons p ps =>
    cases ps with
    | nil => simpa using hp p
    | cons q ps => simp [joined_cons_cons]

theorem joined_append (hp : ps ≠ []) (hq : qs ≠ []) :
    joined (ps ++ qs) = joined ps ++ ' ' :: joined qs := by
  induction ps with
  | nil => contradiction
  | cons p ps ih =>
    cases ps with
    | nil =>
      obtain ⟨q, rest, rfl⟩ := List.exists_cons_of_ne_nil hq
      rw [List.singleton_append, joined_cons_cons, joined_singleton]
    | cons r ps =>
      rw [List.cons_append, List.cons_append, joined_cons_cons, ← List.cons_append,
        ih (List.cons_ne_nil r ps), joined_cons_cons, List.append_assoc, List.cons_append]

/-- Pieces in lines, in order: no line is empty or too long, and the piece that begins a line would not
have fitted on the line before. -/
structure Layout (most : Nat) (pieces : List (List Char)) (lines : List (List (List Char))) :
    Prop where
  flatten : lines.flatten = pieces
  filled : [] ∉ lines
  fits : ∀ ps ∈ lines, (joined ps).length ≤ most
  greedy : lines.IsChain fun ps qs => ∀ q ∈ qs.head?, most < (joined ps).length + 1 + q.length

theorem Layout.nil (most : Nat) : Layout most [] [] :=
  ⟨rfl, List.not_mem_nil, by simp, .nil⟩

/-- The first line begins with the first piece. -/
theorem Layout.head? (h : Layout most qs lines) :
    ∀ ps ∈ lines.head?, ps.head? = qs.head? := by
  intro ps hps
  cases lines with
  | nil => contradiction
  | cons first rest =>
    obtain rfl : first = ps := Option.some.inj hps
    have filled : first ≠ [] := fun empty => h.filled (empty ▸ List.mem_cons_self)
    rw [← h.flatten, List.flatten_cons, List.head?_append_of_ne_nil _ filled]

/-- A line in front, if the first piece behind it did not fit on it. -/
theorem Layout.cons (h : Layout most qs lines) (filled : ps ≠ [])
    (fits : (joined ps).length ≤ most)
    (full : ∀ q ∈ qs.head?, most < (joined ps).length + 1 + q.length) :
    Layout most (ps ++ qs) (ps :: lines) := by
  refine ⟨by rw [List.flatten_cons, h.flatten], ?_, List.forall_mem_cons.mpr ⟨fits, h.fits⟩,
    List.isChain_cons.mpr ⟨fun qs hqs q hq => ?_, h.greedy⟩⟩
  · rw [List.mem_cons, not_or]
    exact ⟨filled.symm, h.filled⟩
  · rw [h.head? qs hqs] at hq
    exact full q hq

/-- Pieces in front that fill a line each. -/
theorem Layout.append_full (h : Layout (w + 1) qs lines) {full : List (List Char)}
    (long : ∀ p ∈ full, p.length = w + 1) :
    Layout (w + 1) (full ++ qs) (full.map (fun p => [p]) ++ lines) := by
  induction full with
  | nil => exact h
  | cons p full ih =>
    obtain ⟨here, rest⟩ := List.forall_mem_cons.mp long
    refine (ih rest).cons (List.cons_ne_nil p []) ?_ fun q _ => ?_
    · rw [joined_singleton, here]
    · rw [joined_singleton, here]
      omega

/-- A word in pieces: it stays whole if it fits on a line, and else all pieces but the last fill a line
each. -/
structure Cut (most : Nat) (word : List Char) (ps : List (List Char)) : Prop where
  flatten : ps.flatten = word
  filled : ∀ p ∈ ps, p ≠ []
  fits : ∀ p ∈ ps, p.length ≤ most
  full : ∀ p ∈ ps.dropLast, p.length = most
  whole : word.length ≤ most → ps = [word]

/-- A word that fits is in one piece. -/
theorem Cut.short (hne : word ≠ []) (fits : word.length ≤ most) : Cut most word [word] := by
  refine ⟨by simp, ?_, ?_, by simp, fun _ => rfl⟩
  · simpa using hne
  · simpa using fits

/-- As much of a word as fills a line, in front of the pieces of what is left. -/
theorem Cut.long (positive : 0 < most) (h : Cut most (word.drop most) ps) (long : most < word.length) :
    Cut most word (word.take most :: ps) := by
  have first : (word.take most).length = most := by
    rw [List.length_take]
    omega
  have more : ps ≠ [] := by
    rintro rfl
    have left := congrArg List.length h.flatten
    rw [List.flatten_nil, List.length_nil, List.length_drop] at left
    omega
  refine ⟨?_, List.forall_mem_cons.mpr ⟨?_, h.filled⟩, List.forall_mem_cons.mpr ⟨?_, h.fits⟩, ?_, ?_⟩
  · rw [List.flatten_cons, h.flatten, List.take_append_drop]
  · rw [← List.length_pos_iff, first]
    exact positive
  · exact Nat.le_of_eq first
  · rw [List.dropLast_cons_of_ne_nil more]
    exact List.forall_mem_cons.mpr ⟨first, h.full⟩
  · omega

def pieces (w : Nat) (word : List Char) : List (List Char) := (cut w word).1 ++ [(cut w word).2]

theorem cut_pieces (w : Nat) (hne : word ≠ []) : Cut (w + 1) word (pieces w word) := by
  unfold pieces
  fun_induction cut w word with
  | case1 word long full last hcut ih =>
    have left : word.drop (w + 1) ≠ [] := by
      rw [← List.length_pos_iff, List.length_drop]
      omega
    rw [hcut] at ih
    exact (ih left).long (Nat.succ_pos w) long
  | case2 word short => exact .short hne (Nat.le_of_not_lt short)

theorem pack_of_room {line last : List Char} (hcut : cut w word = ([], last)) (begun : line ≠ [])
    (room : line.length + 1 + last.length ≤ w + 1) (rest : List (List Char)) :
    pack w line (word :: rest) = pack w (line ++ ' ' :: last) rest := by
  simp [pack, hcut, begun, room]

/-- What does not go on the line that has begun closes it, and all pieces but the last are lines. -/
theorem pack_of_no_room {line last : List Char} {full : List (List Char)}
    (hcut : cut w word = (full, last))
    (room : ¬(full = [] ∧ line ≠ [] ∧ line.length + 1 + last.length ≤ w + 1))
    (rest : List (List Char)) :
    pack w line (word :: rest) = close line ++ (full ++ pack w last rest) := by
  cases full with
  | cons p full => simp [pack, hcut]
  | nil =>
    cases line with
    | nil => simp [pack, hcut, close]
    | cons c line =>
      have long : ¬(c :: line).length + 1 + last.length ≤ w + 1 := fun short =>
        room ⟨rfl, List.cons_ne_nil c line, short⟩
      rw [pack, hcut]
      simp only [long, close, List.isEmpty_nil, List.isEmpty_cons, Bool.not_true, Bool.false_eq_true,
        if_false]
      rfl

/-- The line that has begun in front of the lines behind it; an empty one is no line. -/
theorem close_layout (hp : ∀ p ∈ ps, p ≠ []) (fits : (joined ps).length ≤ most)
    (far : ps ≠ [] → ∀ q ∈ qs.head?, most < (joined ps).length + 1 + q.length)
    (h : Layout most qs lines) : ∃ all,
      close (joined ps) ++ lines.map joined = all.map joined ∧ Layout most (ps ++ qs) all := by
  cases ps with
  | nil => exact ⟨lines, rfl, h⟩
  | cons p ps =>
    have filled : p :: ps ≠ [] := List.cons_ne_nil p ps
    have closed : close (joined (p :: ps)) = [joined (p :: ps)] := by
      rw [close, if_neg (List.isEmpty_iff.not.mpr (joined_ne_nil hp filled))]
    exact ⟨(p :: ps) :: lines, by rw [closed]; rfl, h.cons filled fits (far filled)⟩

/-- The words behind a line that has begun: it goes on as long as the next piece fits. -/
theorem pack_layout (hp : ∀ p ∈ ps, p ≠ []) (fits : (joined ps).length ≤ w + 1)
    {words : List (List Char)} (hw : ∀ word ∈ words, word ≠ []) : ∃ lines,
      pack w (joined ps) words = lines.map joined ∧
        Layout (w + 1) (ps ++ words.flatMap (pieces w)) lines := by
  induction words generalizing ps with
  | nil =>
    obtain ⟨all, packed, layout⟩ := close_layout hp fits (by simp) (Layout.nil (w + 1))
    rw [List.map_nil, List.append_nil] at packed
    exact ⟨all, packed, layout⟩
  | cons word words ih =>
    obtain ⟨here, others⟩ := List.forall_mem_cons.mp hw
    have cutting := cut_pieces w here
    rw [List.flatMap_cons]
    unfold pieces at cutting ⊢
    obtain ⟨full, last, hcut⟩ : ∃ full last, cut w word = (full, last) := ⟨_, _, rfl⟩
    rw [hcut] at cutting ⊢
    have ends : ∀ p ∈ [last], p ≠ [] :=
      List.forall_mem_singleton.mpr (cutting.filled last List.mem_concat_self)
    by_cases room : full = [] ∧ joined ps ≠ [] ∧ (joined ps).length + 1 + last.length ≤ w + 1
    · obtain ⟨rfl, begun, room⟩ := room
      have started : ps ≠ [] := by
        rintro rfl
        exact begun rfl
      have longer : joined (ps ++ [last]) = joined ps ++ ' ' :: last := by
        rw [joined_append started (List.cons_ne_nil last []), joined_singleton]
      rw [pack_of_room hcut begun room, ← longer, List.nil_append, ← List.append_assoc]
      refine ih (List.forall_mem_append.mpr ⟨hp, ends⟩) ?_ others
      rw [longer, List.length_append, List.length_cons]
      omega
    · have long : ∀ p ∈ full, p.length = w + 1 := by
        have := cutting.full
        rwa [List.dropLast_concat] at this
      have far : ps ≠ [] → ∀ q ∈ (full ++ ([last] ++ words.flatMap (pieces w))).head?,
          w + 1 < (joined ps).length + 1 + q.length := by
        intro begun q hq
        cases full with
        | nil =>
          obtain rfl : last = q := Option.some.inj hq
          exact Nat.lt_of_not_le fun short => room ⟨rfl, joined_ne_nil hp begun, short⟩
        | cons p full =>
          obtain rfl : p = q := Option.some.inj hq
          have := long p List.mem_cons_self
          omega
      have short : (joined [last]).length ≤ w + 1 := by
        rw [joined_singleton]
        exact cutting.fits last List.mem_concat_self
      obtain ⟨rest, packed, layout⟩ := ih ends short others
      rw [joined_singleton] at packed
      obtain ⟨all, closed, together⟩ := close_layout hp fits far (layout.append_full long)
      refine ⟨all, ?_, by rwa [List.append_assoc]⟩
      rw [pack_of_no_room hcut room, packed, ← closed, List.map_append, List.map_map]
      simp [Function.comp_def]

/-! What a line of solid pieces reads like. -/

def Solid (p : List Char) : Prop := p ≠ [] ∧ ∀ c ∈ p, isBlank c = false

theorem Solid.ne_space {p : List Char} (h : Solid p) {c : Char} (hc : c ∈ p) : c ≠ ' ' := by
  rintro rfl
  exact absurd (h.2 ' ' hc) (by decide)

theorem Solid.startsSolid {p : List Char} (h : Solid p) : StartsSolid p := fun c hc =>
  h.2 c (List.mem_of_mem_head? hc)

theorem Solid.endsSolid {p : List Char} (h : Solid p) : EndsSolid p := fun c hc =>
  h.2 c (List.mem_of_mem_getLast? hc)

theorem Solid.filter_ne_space {p : List Char} (h : Solid p) : p.filter (· != ' ') = p :=
  List.filter_eq_self.mpr fun _ hc => bne_iff_ne.mpr (h.ne_space hc)

/-- A solid piece in front of a space is what stands there before any white space. -/
theorem Solid.takeWhile_append {p : List Char} (h : Solid p) (t : List Char) :
    (p ++ ' ' :: t).takeWhile (fun c => !isBlank c) = p := by
  have all : ∀ c ∈ p, (!isBlank c) = true := fun c hc => by rw [h.2 c hc]; rfl
  rw [List.takeWhile_append_of_pos all, List.takeWhile_cons_of_neg (by decide), List.append_nil]

theorem startsSolid_joined (hs : ∀ p ∈ ps, Solid p) : StartsSolid (joined ps) := by
  cases ps with
  | nil => simp [StartsSolid]
  | cons p ps =>
    have first := hs p List.mem_cons_self
    cases ps with
    | nil => simpa using first.startsSolid
    | cons q ps =>
      intro c hc
      rw [joined_cons_cons, List.head?_append_of_ne_nil _ first.1] at hc
      exact first.startsSolid c hc

theorem solid_ne_nil (hs : ∀ p ∈ ps, Solid p) : ∀ p ∈ ps, p ≠ [] := fun p hp => (hs p hp).1

theorem endsSolid_joined (hs : ∀ p ∈ ps, Solid p) : EndsSolid (joined ps) := by
  induction ps with
  | nil => simp [EndsSolid]
  | cons p ps ih =>
    obtain ⟨first, others⟩ := List.forall_mem_cons.mp hs
    cases ps with
    | nil => simpa using first.endsSolid
    | cons q ps =>
      have more := joined_ne_nil (solid_ne_nil others) (List.cons_ne_nil q ps)
      intro c hc
      rw [joined_cons_cons, List.getLast?_append_of_ne_nil _ (List.cons_ne_nil _ _),
        List.getLast?_cons_of_ne_nil more] at hc
      exact ih others c hc

/-- No space stands behind another. -/
theorem chain_joined (hs : ∀ p ∈ ps, Solid p) :
    (joined ps).IsChain fun c d => c = ' ' → d ≠ ' ' := by
  have single {p : List Char} (hp : Solid p) : p.IsChain fun c d => c = ' ' → d ≠ ' ' :=
    (List.pairwise_of_forall_mem_list fun c hc _ _ space => absurd space (hp.ne_space hc)).isChain
  induction ps with
  | nil => exact .nil
  | cons p ps ih =>
    obtain ⟨first, others⟩ := List.forall_mem_cons.mp hs
    cases ps with
    | nil => simpa using single first
    | cons q ps =>
      have next : ∀ d ∈ (joined (q :: ps)).head?, d ≠ ' ' := by
        rintro d hd rfl
        exact absurd (startsSolid_joined others ' ' hd) (by decide)
      rw [joined_cons_cons]
      refine List.isChain_append.mpr ⟨single first, List.isChain_cons.mpr ⟨?_, ih others⟩, ?_⟩
      · exact fun d hd _ => next d hd
      · exact fun c hc _ _ space => absurd space (first.ne_space (List.mem_of_mem_getLast? hc))

theorem filter_joined (hs : ∀ p ∈ ps, Solid p) : (joined ps).filter (· != ' ') = ps.flatten := by
  induction ps with
  | nil => rfl
  | cons p ps ih =>
    obtain ⟨first, others⟩ := List.forall_mem_cons.mp hs
    cases ps with
    | nil => simpa using first.filter_ne_space
    | cons q ps =>
      rw [joined_cons_cons, List.filter_append, first.filter_ne_space,
        List.filter_cons_of_neg (by decide), ih others, ← List.flatten_cons]

theorem takeWhile_joined (hs : ∀ p ∈ ps, Solid p) :
    ∀ p ∈ ps.head?, (joined ps).takeWhile (fun c => !isBlank c) = p := by
  intro p hp
  cases ps with
  | nil => contradiction
  | cons q ps =>
    obtain rfl : q = p := Option.some.inj hp
    have first := hs q List.mem_cons_self
    cases ps with
    | nil => simpa using first.2
    | cons r ps => rw [joined_cons_cons, first.takeWhile_append]

/-- Lines joined again are all their pieces joined. -/
theorem Layout.joined_map (h : Layout most qs lines) : joined (lines.map joined) = joined qs := by
  rw [← h.flatten]
  have filled := h.filled
  clear h
  induction lines with
  | nil => rfl
  | cons ps lines ih =>
    rw [List.mem_cons, not_or] at filled
    cases lines with
    | nil => simp
    | cons rs lines =>
      have more : (rs :: lines).flatten ≠ [] := by
        intro empty
        have := List.flatten_eq_nil_iff.mp empty rs List.mem_cons_self
        exact filled.2 (this ▸ List.mem_cons_self)
      rw [List.map_cons, List.map_cons, joined_cons_cons, ← List.map_cons, ih filled.2,
        ← joined_append (Ne.symm filled.1) more, ← List.flatten_cons]

/-! The lines of a text. -/

theorem solid_of_mem_pieces {text p : List Char} (hw : word ∈ words text)
    (hp : p ∈ pieces w word) : Solid p := by
  have cutting := cut_pieces w (ne_nil_of_mem_words hw)
  refine ⟨cutting.filled p hp, fun c hc => solid_of_mem_words hw c ?_⟩
  rw [← cutting.flatten]
  exact List.mem_flatten_of_mem hp hc

/-- A text in lines: what the reader of the table can rely on. -/
structure Wrapped (most : Nat) (text : List Char) (lines : List (List Char)) : Prop where
  fits : ∀ line ∈ lines, line.length ≤ most
  blank : allBlank text = true → lines = [[]]
  solid : allBlank text = false → ∀ line ∈ lines,
    line ≠ [] ∧ StartsSolid line ∧ EndsSolid line ∧ ¬ [' ', ' '] <:+: line
  /-- Nothing but white space is lost. -/
  lossless : (lines.map (·.filter (· != ' '))).flatten = text.filter fun c => !isBlank c
  words : (∀ word ∈ words text, word.length ≤ most) → joined lines = joined (words text)
  /-- The lines are made of the words, cut only where they have to be. -/
  cut : ∃ parts : List (List (List Char)), parts.map List.flatten = Text.words text ∧
    (∀ ps ∈ parts, Cut most ps.flatten ps) ∧
      ∃ layout : List (List (List Char)), layout.flatten = parts.flatten ∧
        lines = layout.map joined
  /-- What begins a line would not have fitted on the line before. -/
  greedy : lines.IsChain fun line next =>
    most < line.length + 1 + (next.takeWhile fun c => !isBlank c).length

/-- Lines of solid pieces, laid out greedily, are the text wrapped. -/
theorem Layout.wrapped {text : List Char} (more : allBlank text = false)
    (h : Layout (w + 1) ((words text).flatMap (pieces w)) lines) :
    Wrapped (w + 1) text (lines.map joined) := by
  have solid : ∀ ps ∈ lines, ∀ p ∈ ps, Solid p := by
    intro ps hps p hp
    have placed : p ∈ lines.flatten := List.mem_flatten_of_mem hps hp
    rw [h.flatten] at placed
    obtain ⟨word, hw, hp⟩ := List.mem_flatMap.mp placed
    exact solid_of_mem_pieces hw hp
  have parts : ((words text).map (pieces w)).map List.flatten = words text := by
    rw [List.map_map]
    exact (List.map_congr_left fun word hw => (cut_pieces w (ne_nil_of_mem_words hw)).flatten).trans
      (List.map_id _)
  refine ⟨List.forall_mem_map.mpr h.fits, fun blank => ?_, fun _ => ?_, ?_, fun short => ?_,
    ⟨(words text).map (pieces w), parts, List.forall_mem_map.mpr fun word hw => ?_, lines, ?_, rfl⟩,
    (List.isChain_map joined).mpr (h.greedy.imp_of_mem_imp fun ps qs _ hqs far => ?_)⟩
  · exact absurd (more.symm.trans blank) Bool.false_ne_true
  · refine List.forall_mem_map.mpr fun ps hps => ⟨?_, ?_, ?_, ?_⟩
    · exact joined_ne_nil (solid_ne_nil (solid ps hps)) fun empty => h.filled (empty ▸ hps)
    · exact startsSolid_joined (solid ps hps)
    · exact endsSolid_joined (solid ps hps)
    · intro double
      have apart := List.IsChain.infix (chain_joined (solid ps hps)) double
      exact (List.isChain_cons_cons.mp apart).1 rfl rfl
  · calc
      ((lines.map joined).map (·.filter (· != ' '))).flatten = (lines.map List.flatten).flatten := by
        rw [List.map_map]
        exact congrArg List.flatten (List.map_congr_left fun ps hps => filter_joined (solid ps hps))
      _ = (((words text).map (pieces w)).map List.flatten).flatten := by
        rw [← List.flatten_flatten, h.flatten, List.flatMap_def, List.flatten_flatten]
      _ = text.filter fun c => !isBlank c := by rw [parts, flatten_words]
  · have whole : (words text).flatMap (pieces w) = words text := by
      rw [List.flatMap_def, List.map_congr_left fun word hw =>
        (cut_pieces w (ne_nil_of_mem_words hw)).whole (short word hw)]
      exact List.flatMap_singleton' (words text)
    rw [h.joined_map, whole]
  · have cutting := cut_pieces w (ne_nil_of_mem_words hw)
    rwa [cutting.flatten]
  · rw [h.flatten, List.flatMap_def]
  · obtain ⟨q, rest, rfl⟩ := List.exists_cons_of_ne_nil fun empty => h.filled (empty ▸ hqs)
    rw [takeWhile_joined (solid _ hqs) q rfl]
    exact far q rfl

/-- A blank text is one empty line. -/
theorem wrapped_of_allBlank {text : List Char} (h : allBlank text = true) :
    Wrapped most text [[]] := by
  have none := (words_eq_nil_iff text).mpr h
  refine ⟨by simp, fun _ => rfl, fun more => ?_, ?_, fun _ => by rw [none]; rfl,
    ⟨[], none.symm, by simp, [[]], rfl, rfl⟩, .singleton []⟩
  · exact absurd (more.symm.trans h) Bool.false_ne_true
  · rw [← flatten_words, none]
    rfl

/-- A text with words is laid out in lines, as many as it takes. -/
theorem wrapped_of_not_allBlank {text : List Char} (more : allBlank text = false) (width : Nat) :
    Wrapped (max width 1) text (wrap width text) := by
  obtain ⟨w, hw, hm⟩ : ∃ w, width - 1 = w ∧ max width 1 = w + 1 := ⟨width - 1, rfl, by omega⟩
  rw [wrap, hw, hm]
  have none : ∀ p ∈ ([] : List (List Char)), p ≠ [] := fun _ h => absurd h List.not_mem_nil
  obtain ⟨lines, packed, layout⟩ := pack_layout (w := w) none (Nat.zero_le _) fun _ h =>
    ne_nil_of_mem_words (s := text) h
  rw [joined_nil] at packed
  have wrapped := layout.wrapped more
  rw [packed]
  split
  · next empty =>
    have kept := wrapped.lossless
    rw [empty] at kept
    have blank : allBlank text = true :=
      List.all_eq_true.mpr (by simpa using List.filter_eq_nil_iff.mp kept.symm)
    exact absurd (more.symm.trans blank) Bool.false_ne_true
  · next => exact wrapped

/-- Every text is wrapped, whatever the width; a line has room for one character at least. -/
theorem wrap_wrapped (width : Nat) (text : List Char) :
    Wrapped (max width 1) text (wrap width text) := by
  cases more : allBlank text with
  | true =>
    rw [wrap, (words_eq_nil_iff text).mpr more]
    exact wrapped_of_allBlank more
  | false => exact wrapped_of_not_allBlank more width

end Workpad.HelpTable
