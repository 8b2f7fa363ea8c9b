import Mathlib.Data.List.Forall2
import Workpad.Proofs.Console.Wrapping

/-!
The help table as its reader sees it. Its lines have one length and its bars stand below each other, and
what is read from the cells between them is the commands, each with its description wrapped.
-/
namespace Workpad.HelpTable
open Text
variable {c d width : Nat} {a b line text : List Char}

/-- Two cells of so many characters between bars. -/
def IsRow (left right : Nat) (line : List Char) : Prop :=
  ∃ a b, line = '|' :: a ++ '|' :: b ++ ['|'] ∧ a.length = left ∧ b.length = right ∧
    '|' ∉ a ∧ '|' ∉ b

/-- The two cells of a line, without the blanks that pad them. -/
def readRow (line : List Char) : Option (List Char × List Char) :=
  match line.splitOn '|' with
  | [[], a, b, []] => some (trim a, trim b)
  | _ => none

/-- The rows of one command: only the first names it, and what stands behind is its description, in
lines, with no character lost but white space. -/
structure Describes (width : Nat) (x : Builtin) (rows : List (List Char)) : Prop where
  commands : rows.map (fun row => (readRow row).map Prod.fst) =
    some x.command.toList :: List.replicate (rows.length - 1) (some [])
  descriptions : rows.map (fun row => (readRow row).map Prod.snd) =
    (wrap width x.description.toList).map some
  narrow : ∀ row ∈ rows, ∀ cells ∈ readRow row, cells.2.length ≤ max width 1
  complete : ((rows.filterMap fun row => (readRow row).map Prod.snd).map
    (·.filter (· != ' '))).flatten = x.description.toList.filter (!isBlank ·)

structure Legible (text : List Char) : Prop where
  trimmed : trim text = text
  bar : '|' ∉ text
  newline : '\n' ∉ text

instance (text : List Char) : Decidable (Legible text) :=
  decidable_of_iff (trim text = text ∧ '|' ∉ text ∧ '\n' ∉ text)
    ⟨fun ⟨trimmed, bar, newline⟩ => ⟨trimmed, bar, newline⟩,
      fun h => ⟨h.trimmed, h.bar, h.newline⟩⟩

theorem length_le_longest {texts : List (List Char)} (h : text ∈ texts) :
    text.length ≤ longest texts := by
  rw [longest]
  induction texts with
  | nil => contradiction
  | cons first texts ih =>
    rw [List.map_cons, List.foldr_cons]
    obtain rfl | h := List.mem_cons.mp h
    · exact Nat.le_max_left _ _
    · exact (ih h).trans (Nat.le_max_right _ _)

theorem length_pad (h : text.length ≤ c) : (pad c text).length = c := by
  rw [pad, List.length_append, List.length_replicate]
  omega

theorem not_mem_pad {mark : Char} (h : mark ∉ text) (other : mark ≠ ' ') (c : Nat) :
    mark ∉ pad c text := by
  simp [pad, h, other]

def cell (c : Nat) (text : List Char) : List Char := ' ' :: pad c text ++ [' ']

theorem row_eq (c d : Nat) (a b : List Char) :
    row c d a b = '|' :: cell c a ++ '|' :: cell d b ++ ['|'] := by
  simp [row, cell]

theorem Legible.trim_cell (h : Legible text) (c : Nat) : trim (cell c text) = text := by
  have split : cell c text = [' '] ++ text ++ (List.replicate (c - text.length) ' ' ++ [' ']) := by
    simp [cell, pad]
  have blank : allBlank (List.replicate (c - text.length) ' ' ++ [' ']) = true := by
    rw [allBlank_append, allBlank, List.all_replicate]
    simp [show isBlank ' ' = true by decide, allBlank]
  rw [split, trim_pad (by decide) blank, h.trimmed]

theorem Legible.bar_not_mem_cell (h : Legible text) (c : Nat) : '|' ∉ cell c text := by
  simp [cell, not_mem_pad h.bar]

theorem isRow_row (ha : Legible a) (hb : Legible b) (left : a.length ≤ c) (right : b.length ≤ d) :
    IsRow (c + 2) (d + 2) (row c d a b) := by
  refine ⟨cell c a, cell d b, row_eq c d a b, ?_, ?_, ha.bar_not_mem_cell c, hb.bar_not_mem_cell d⟩
  · simp [cell, length_pad left]
  · simp [cell, length_pad right]

theorem readRow_row (ha : Legible a) (hb : Legible b) (c d : Nat) :
    readRow (row c d a b) = some (a, b) := by
  have cells : (row c d a b).splitOn '|' = [[], cell c a, cell d b, []] := by
    have joined : row c d a b = ['|'].intercalate [[], cell c a, cell d b, []] := by
      rw [row_eq]
      simp [List.intercalate_cons_cons]
    rw [joined, List.splitOn_intercalate '|' ?_ (List.cons_ne_nil _ _)]
    simp [ha.bar_not_mem_cell c, hb.bar_not_mem_cell d]
  rw [readRow, cells]
  simp only [ha.trim_cell, hb.trim_cell]

theorem newline_not_mem_row (ha : Legible a) (hb : Legible b) (c d : Nat) : '\n' ∉ row c d a b := by
  simp [row, not_mem_pad ha.newline, not_mem_pad hb.newline]

theorem newline_not_mem_border (c d : Nat) : '\n' ∉ border c d := by
  simp [border]

theorem length_border (c d : Nat) : (border c d).length = c + 2 + (d + 2) + 3 := by
  simp [border]
  omega

theorem IsRow.length (h : IsRow c d line) : line.length = c + d + 3 := by
  obtain ⟨a, b, rfl, rfl, rfl, -, -⟩ := h
  simp
  omega

/-! The rows of a command. -/

theorem legible_nil : Legible [] := ⟨rfl, List.not_mem_nil, List.not_mem_nil⟩

theorem wrap_ne_nil (width : Nat) (text : List Char) : wrap width text ≠ [] := by
  rw [wrap]
  split
  next => exact List.cons_ne_nil [] []
  next lines => exact lines

/-- Wrapping brings in nothing but spaces. -/
theorem Wrapped.mem {most : Nat} {lines : List (List Char)} (h : Wrapped most text lines)
    (hl : line ∈ lines) {x : Char} (hx : x ∈ line) (other : x ≠ ' ') : x ∈ text := by
  have kept : x ∈ (lines.map (·.filter (· != ' '))).flatten :=
    List.mem_flatten_of_mem (List.mem_map_of_mem hl) (List.mem_filter.mpr ⟨hx, by simpa using other⟩)
  rw [h.lossless] at kept
  exact (List.mem_filter.mp kept).1

def Plain (x : Builtin) : Prop :=
  Legible x.command.toList ∧ allBlank x.description.toList = false ∧
    '|' ∉ x.description.toList ∧ '\n' ∉ x.description.toList

theorem plain_of_mem_builtins {x : Builtin} (h : x ∈ builtins) : Plain x := by
  revert x
  unfold Plain
  decide +kernel

theorem Plain.legible_wrap {x : Builtin} (h : Plain x) (width : Nat) :
    ∀ line ∈ wrap width x.description.toList, Legible line := by
  intro line hl
  obtain ⟨-, more, bar, newline⟩ := h
  have wrapped := wrapped_of_not_allBlank more width
  obtain ⟨-, starts, ends, -⟩ := wrapped.solid more line hl
  exact ⟨trim_of_solid starts ends, fun found => bar (wrapped.mem hl found (by decide)),
    fun found => newline (wrapped.mem hl found (by decide))⟩

theorem map_readRow_group {command first : List Char} {rest : List (List Char)}
    (named : Legible command) (told : ∀ line ∈ first :: rest, Legible line) (c d : Nat) :
    (group c d command (first :: rest)).map readRow =
      some (command, first) :: rest.map fun line => some ([], line) := by
  obtain ⟨here, others⟩ := List.forall_mem_cons.mp told
  rw [group, List.map_cons, readRow_row named here, List.map_map]
  exact congrArg _ (List.map_congr_left fun line hl => readRow_row legible_nil (others line hl) c d)

theorem Plain.describes {x : Builtin} (h : Plain x) (c d width : Nat) :
    Describes width x (group c d x.command.toList (wrap width x.description.toList)) := by
  have legible := h.legible_wrap width
  have wrapped := wrapped_of_not_allBlank h.2.1 width
  obtain ⟨first, rest, lines⟩ := List.exists_cons_of_ne_nil (wrap_ne_nil width x.description.toList)
  rw [lines] at legible wrapped ⊢
  have read := map_readRow_group h.1 legible c d
  generalize group c d x.command.toList (first :: rest) = rows at read ⊢
  have cells {α : Type} (f : List Char × List Char → α) :
      rows.map (fun row => (readRow row).map f) = (rows.map readRow).map (Option.map f) := by
    rw [List.map_map]
    rfl
  have count : rows.length = rest.length + 1 := by simpa using congrArg List.length read
  have told : rows.map (fun row => (readRow row).map Prod.snd) = (first :: rest).map some := by
    rw [cells, read, List.map_cons, List.map_cons, List.map_map]
    rfl
  refine ⟨?_, by rw [lines, told], fun row hr found hf => ?_, ?_⟩
  · rw [cells, read, List.map_cons, List.map_map, count, Nat.add_sub_cancel, ← List.map_const']
    rfl
  · have shown : some found.2 ∈ (first :: rest).map some := by
      rw [← told]
      exact List.mem_map.mpr ⟨row, hr, congrArg (Option.map Prod.snd) hf⟩
    obtain ⟨line, hl, same⟩ := List.mem_map.mp shown
    rw [← Option.some.inj same]
    exact wrapped.fits line hl
  · have shown : (rows.filterMap fun row => (readRow row).map Prod.snd) = first :: rest := by
      have kept := congrArg (List.filterMap id) told
      rwa [List.filterMap_map, List.filterMap_map, Function.id_comp, Function.id_comp,
        List.filterMap_some] at kept
    rw [shown]
    exact wrapped.lossless

/-! The whole table. -/

theorem legible_headers : Legible commandHeader.toList ∧ Legible descriptionHeader.toList := by
  decide +kernel

def groups (width : Nat) : List (List (List Char)) :=
  builtins.map fun x => group commandWidth (descriptionWidth width) x.command.toList
    (wrap width x.description.toList)

def header (width : Nat) : List Char :=
  row commandWidth (descriptionWidth width) commandHeader.toList descriptionHeader.toList

theorem lines_eq (width : Nat) :
    let edge := border commandWidth (descriptionWidth width)
    lines width = edge :: header width :: edge :: (groups width).flatten ++ [edge] := by
  simp [lines, groups, header, List.flatMap_def]

theorem mem_lines (h : line ∈ lines width) : line = border commandWidth (descriptionWidth width) ∨
    line ∈ header width :: (groups width).flatten := by
  rw [lines_eq] at h
  simp only [List.cons_append, List.mem_cons, List.mem_append, List.not_mem_nil, or_false] at h ⊢
  obtain h | h | h | h | h := h
  · exact .inl h
  · exact .inr (.inl h)
  · exact .inl h
  · exact .inr (.inr h)
  · exact .inl h

def Shows (c d : Nat) (line : List Char) : Prop :=
  ∃ a b, line = row c d a b ∧ Legible a ∧ Legible b ∧ a.length ≤ c ∧ b.length ≤ d

theorem Shows.isRow (h : Shows c d line) : IsRow (c + 2) (d + 2) line := by
  obtain ⟨a, b, rfl, ha, hb, left, right⟩ := h
  exact isRow_row ha hb left right

theorem Shows.newline_not_mem (h : Shows c d line) : '\n' ∉ line := by
  obtain ⟨a, b, rfl, ha, hb, -, -⟩ := h
  exact newline_not_mem_row ha hb c d

theorem mem_group {command : List Char} {lines : List (List Char)}
    (h : line ∈ group c d command lines) : ∃ a ∈ [command, []], ∃ b ∈ lines, line = row c d a b := by
  cases lines with
  | nil => contradiction
  | cons first rest =>
    rw [group, List.mem_cons, List.mem_map] at h
    obtain rfl | ⟨b, hb, rfl⟩ := h
    · exact ⟨command, by simp, first, by simp, rfl⟩
    · exact ⟨[], by simp, b, List.mem_cons_of_mem first hb, rfl⟩

/-- The columns are as wide as the longest of their texts. -/
theorem shows_of_mem (h : line ∈ header width :: (groups width).flatten) :
    Shows commandWidth (descriptionWidth width) line := by
  obtain rfl | h := List.mem_cons.mp h
  · exact ⟨_, _, rfl, legible_headers.1, legible_headers.2, length_le_longest List.mem_cons_self,
      length_le_longest List.mem_cons_self⟩
  · obtain ⟨rows, hr, hl⟩ := List.mem_flatten.mp h
    obtain ⟨x, hx, rfl⟩ := List.mem_map.mp hr
    obtain ⟨a, ha, b, hb, rfl⟩ := mem_group hl
    have plain := plain_of_mem_builtins hx
    have right : b.length ≤ descriptionWidth width :=
      length_le_longest (List.mem_cons_of_mem _ (List.mem_flatMap.mpr ⟨x, hx, hb⟩))
    have left : x.command.toList.length ≤ commandWidth :=
      length_le_longest (List.mem_cons_of_mem _ (List.mem_map.mpr ⟨x, hx, rfl⟩))
    have legible := plain.legible_wrap width b hb
    simp only [List.mem_cons, List.not_mem_nil, or_false] at ha
    obtain rfl | rfl := ha
    · exact ⟨_, b, rfl, plain.1, legible, left, right⟩
    · exact ⟨[], b, rfl, legible_nil, legible, Nat.zero_le _, right⟩

/-- The text of the table, cut at its newlines, is its lines. -/
theorem splitOn_render (width : Nat) : (render width).toList.splitOn '\n' = lines width := by
  have text : (render width).toList = ['\n'].intercalate (lines width) := by
    have read : String.toList ∘ String.ofList = id := funext fun _ => String.toList_ofList
    rw [render, String.toList_intercalate, List.map_map, read, List.map_id]
    rfl
  have unbroken : ∀ line ∈ lines width, '\n' ∉ line := by
    intro line hl
    obtain rfl | hl := mem_lines hl
    · exact newline_not_mem_border _ _
    · exact (shows_of_mem hl).newline_not_mem
  have several : lines width ≠ [] := by simp [lines_eq]
  rw [text, List.splitOn_intercalate '\n' unbroken several]

/-- Whatever the width, the table read line by line is a header and then the built-ins in order, between
borders: all lines have one length, the rows have their bars where the borders have their corners, and
each built-in has its command in its first row alone and its whole description, wrapped, in the second
cells of its rows. -/
theorem table_reads_back (width : Nat) :
    let lines := (render width).toList.splitOn '\n'
    ∃ c d header groups,
      lines = border c d :: header :: border c d :: groups.flatten ++ [border c d] ∧
      (∀ line ∈ lines, line.length = (border c d).length) ∧
      (∀ line ∈ header :: groups.flatten, IsRow (c + 2) (d + 2) line) ∧
      readRow header = some (commandHeader.toList, descriptionHeader.toList) ∧
      List.Forall₂ (Describes width) builtins groups := by
  intro lines
  have read : lines = HelpTable.lines width := splitOn_render width
  refine ⟨commandWidth, descriptionWidth width, header width, groups width,
    read.trans (lines_eq width), fun line hl => ?_, fun line hl => (shows_of_mem hl).isRow,
    readRow_row legible_headers.1 legible_headers.2 _ _, ?_⟩
  · rw [read] at hl
    obtain rfl | hl := mem_lines hl
    · rfl
    · rw [length_border, (shows_of_mem hl).isRow.length]
  · exact List.forall₂_map_right_iff.mpr
      (List.forall₂_same.mpr fun x hx => (plain_of_mem_builtins hx).describes _ _ width)

end Workpad.HelpTable
