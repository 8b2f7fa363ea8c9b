import Workpad.Console.Command
import Workpad.Proofs.Text.Case
import Workpad.Proofs.Text.Ends

/-!
Which lines are commands. The first word of a line names one or the line is code; only ASCII spellings
name one, and white space around a line does not matter.
-/
namespace Workpad.Command
open Text
variable {s token rest : List Char} {line : String}

/-- The longest start of a text without white space, and what follows it. -/
structure FirstWord (s token rest : List Char) : Prop where
  parts : s = token ++ rest
  solid : ∀ c ∈ token, isBlank c = false
  longest : ∀ c ∈ rest.head?, isBlank c = true

theorem exists_firstWord (s : List Char) : ∃ token rest, FirstWord s token rest := by
  refine ⟨s.takeWhile fun c => !isBlank c, s.dropWhile fun c => !isBlank c,
    List.takeWhile_append_dropWhile.symm, fun c hc => ?_, fun c hc => ?_⟩
  · simpa using List.mem_takeWhile_imp hc
  · simpa using stops_dropWhile (fun c => !isBlank c) s c hc

theorem FirstWord.splitToken_eq (h : FirstWord s token rest) :
    splitToken s = (token, rest.drop 1) := by
  have solid : ∀ c ∈ token, (!isBlank c) = true := fun c hc => by simp [h.solid c hc]
  have stops : rest.takeWhile (fun c => !isBlank c) = [] ∧
      rest.dropWhile (fun c => !isBlank c) = rest := by
    cases rest with
    | nil => exact ⟨rfl, rfl⟩
    | cons c r =>
      have hc : isBlank c = true := h.longest c rfl
      simp [hc]
  rw [splitToken, h.parts, List.takeWhile_append_of_pos solid, List.dropWhile_append_of_pos solid,
    stops.1, stops.2, List.append_nil]

/-- The one character that parts the first word from the rest is white space of the rest. -/
theorem FirstWord.trimStart_drop (h : FirstWord s token rest) :
    trimStart (rest.drop 1) = trimStart rest := by
  cases rest with
  | nil => rfl
  | cons c r =>
    have hc : isBlank c = true := h.longest c rfl
    simp [trimStart, hc]

/-- Only a line of white space has no first word. -/
theorem FirstWord.eq_nil_iff (h : FirstWord (trim s) token rest) :
    token = [] ↔ allBlank s = true := by
  rw [← trim_eq_nil_iff]
  constructor
  · rintro rfl
    cases rest with
    | nil => exact h.parts
    | cons c r =>
      have solid := startsSolid_trim s c (by rw [h.parts]; rfl)
      rw [h.longest c rfl] at solid
      exact absurd solid (by decide)
  · intro empty
    exact (List.append_eq_nil_iff.mp (h.parts.symm.trans empty)).1

/-- The word in small letters, capitals or both, all of them ASCII. -/
def IsSpelling (word : String) (token : List Char) : Prop := token.map Char.toLower = word.toList

instance (word : String) (token : List Char) : Decidable (IsSpelling word token) :=
  inferInstanceAs (Decidable (_ = _))

def builtins : List String := ["help", "man", "clear", "cls", "echo"]

theorem isAscii_of_mem_builtins : ∀ word ∈ builtins, word.toList.all isAscii = true := by decide

/-- The full lower case makes no more spellings of these words, none of which has a `k`. -/
theorem ofList_lower_eq_iff (token : List Char) {word : String} (hw : word ∈ builtins) :
    String.ofList (lower token) = word ↔ IsSpelling word token := by
  have noK : ∀ word ∈ builtins, 'k' ∉ word.toList := by decide
  rw [← String.toList_inj, String.toList_ofList]
  exact lower_eq_iff (List.all_eq_true.mp (isAscii_of_mem_builtins word hw)) (noK word hw)

/-- What a line asks for, by its first word. -/
theorem ofLine?_eq (h : FirstWord (trim line.toList) token rest) : ofLine? line =
    if allBlank line.toList = true then none
    else if IsSpelling "help" token ∨ IsSpelling "man" token then some .help
    else if IsSpelling "clear" token ∨ IsSpelling "cls" token then some .clear
    else if IsSpelling "echo" token then some (.echo (String.ofList (trimStart rest)))
    else some (.code line) := by
  have spelled : ∀ word ∈ builtins, String.ofList (lower token) = word ↔ IsSpelling word token :=
    fun word hw => ofList_lower_eq_iff token hw
  simp only [builtins, List.forall_mem_cons] at spelled
  obtain ⟨help, man, clear, cls, echo, -⟩ := spelled
  rw [ofLine?, h.splitToken_eq]
  simp only [List.isEmpty_iff, h.eq_nil_iff, h.trimStart_drop, help, man, clear, cls, echo]

theorem ofLine?_eq_none_iff (line : String) :
    ofLine? line = none ↔ allBlank line.toList = true := by
  obtain ⟨token, rest, h⟩ := exists_firstWord (trim line.toList)
  rw [ofLine?_eq h]
  split
  next blank => simp [blank]
  next solid =>
    simp only [solid]
    split_ifs <;> simp

/-- Spellings of different words differ. -/
theorem IsSpelling.eq {a b : String} (ha : IsSpelling a token) (hb : IsSpelling b token) : a = b :=
  String.toList_inj.mp (ha.symm.trans hb)

/-- The words that ask for each kind of command. -/
theorem ofLine?_iff (h : FirstWord (trim line.toList) token rest)
    (hb : allBlank line.toList = false) :
    (ofLine? line = some .help ↔ IsSpelling "help" token ∨ IsSpelling "man" token) ∧
      (ofLine? line = some .clear ↔ IsSpelling "clear" token ∨ IsSpelling "cls" token) ∧
      (∀ text, ofLine? line = some (.echo text) ↔
        IsSpelling "echo" token ∧ text = String.ofList (trimStart rest)) ∧
      ∀ code, ofLine? line = some (.code code) ↔
        code = line ∧ ∀ word ∈ builtins, ¬ IsSpelling word token := by
  have other {a b : String} (ha : IsSpelling a token) (ne : a ≠ b) : ¬ IsSpelling b token :=
    fun hb => ne (ha.eq hb)
  rw [ofLine?_eq h, if_neg (by simp [hb])]
  by_cases h1 : IsSpelling "help" token ∨ IsSpelling "man" token
  · rw [if_pos h1]
    obtain h1 | h1 := h1
    · simp [h1, builtins, other h1]
    · simp [h1, builtins, other h1]
  rw [if_neg h1]
  by_cases h2 : IsSpelling "clear" token ∨ IsSpelling "cls" token
  · rw [if_pos h2]
    obtain h2 | h2 := h2
    · simp [h2, builtins, other h2]
    · simp [h2, builtins, other h2]
  rw [if_neg h2]
  by_cases h3 : IsSpelling "echo" token
  · rw [if_pos h3]
    simp [h3, builtins, other h3, eq_comm]
  rw [if_neg h3]
  rw [not_or] at h1 h2
  simp [h1, h2, h3, builtins, eq_comm]

/-- A command word has only ASCII letters, however it is spelled. -/
theorem IsSpelling.isAscii {word : String} (h : IsSpelling word token) (hw : word ∈ builtins) :
    ∀ c ∈ token, isAscii c = true := by
  intro c hc
  apply isAscii_of_toLower
  apply List.all_eq_true.mp (isAscii_of_mem_builtins word hw)
  exact h ▸ List.mem_map_of_mem hc

theorem IsSpelling.solid {word : String} (h : IsSpelling word token) (hw : word ∈ builtins) :
    ∀ c ∈ token, isBlank c = false := by
  have solid : ∀ word ∈ builtins, word.toList.all (fun c => !isBlank c) = true := by decide
  intro c hc
  have lowered := List.all_eq_true.mp (solid word hw) c.toLower (h ▸ List.mem_map_of_mem hc)
  rw [← forall_isAscii (P := fun c => isBlank c.toLower = isBlank c) (by decide +kernel)
    (h.isAscii hw c hc)]
  simpa using lowered

def withLine (line : String) : Command → Command
  | .code _ => .code line
  | c => c

/-- White space around a line changes nothing but the line. -/
theorem ofLine?_pad {u v : String} (hu : allBlank u.toList = true) (hv : allBlank v.toList = true)
    (line : String) :
    ofLine? (u ++ line ++ v) = (ofLine? line).map (withLine (u ++ line ++ v)) := by
  obtain ⟨token, rest, h⟩ := exists_firstWord (trim line.toList)
  have parts : (u ++ line ++ v).toList = u.toList ++ line.toList ++ v.toList := by
    rw [String.toList_append, String.toList_append]
  have padded : FirstWord (trim (u ++ line ++ v).toList) token rest := by
    rwa [parts, trim_pad hu hv]
  have blank : allBlank (u ++ line ++ v).toList = allBlank line.toList := by
    rw [parts, allBlank_append, allBlank_append, hu, hv, Bool.true_and, Bool.and_true]
  rw [ofLine?_eq h, ofLine?_eq padded, blank]
  split_ifs <;> rfl

/-- The first word of a word with white space and a text behind it. -/
theorem firstWord_append {word w text : List Char} (hne : word ≠ [])
    (solid : ∀ c ∈ word, isBlank c = false) (apart : w ≠ []) (hw : allBlank w = true)
    (starts : StartsSolid text) (ends : EndsSolid text) :
    ∃ rest, FirstWord (trim (word ++ w ++ text)) word rest ∧ trimStart rest = text := by
  have wordStarts : StartsSolid word := fun c hc => solid c (List.mem_of_mem_head? hc)
  have wordEnds : EndsSolid word := fun c hc => solid c (List.mem_of_getLast? hc)
  by_cases ht : text = []
  · subst ht
    have trimmed : trim (word ++ w) = word := by
      have pad := trim_pad allBlank_nil hw word
      rwa [List.nil_append, trim_of_solid wordStarts wordEnds] at pad
    exact ⟨[], ⟨by rw [List.append_nil, List.append_nil, trimmed], solid, by simp⟩, rfl⟩
  · have trimmed : trim (word ++ w ++ text) = word ++ w ++ text := by
      apply trim_of_solid
      · intro c hc
        rw [List.append_assoc, List.head?_append_of_ne_nil _ hne] at hc
        exact wordStarts c hc
      · intro c hc
        rw [List.getLast?_append_of_ne_nil _ ht] at hc
        exact ends c hc
    refine ⟨w ++ text, ⟨by rw [trimmed, List.append_assoc], solid, fun c hc => ?_⟩, ?_⟩
    · rw [List.head?_append_of_ne_nil _ apart] at hc
      exact List.all_eq_true.mp hw c (List.mem_of_mem_head? hc)
    · rw [trimStart_append_of_allBlank hw, trimStart_of_startsSolid starts]

/-- What stands behind the word comes back as it is, with the white space inside it. -/
theorem ofLine?_echo {word w text : String} (spelled : IsSpelling "echo" word.toList)
    (apart : w ≠ "") (hw : allBlank w.toList = true) (starts : StartsSolid text.toList)
    (ends : EndsSolid text.toList) : ofLine? (word ++ w ++ text) = some (.echo text) := by
  have solid := spelled.solid (by decide)
  have hne : word.toList ≠ [] := by
    intro empty
    rw [IsSpelling, empty] at spelled
    exact absurd spelled (by decide)
  obtain ⟨rest, first, behind⟩ := firstWord_append hne solid
    (fun empty => apart (String.toList_eq_nil_iff.mp empty)) hw starts ends
  rw [← String.toList_append, ← String.toList_append] at first
  have notBlank : allBlank (word ++ w ++ text).toList = false :=
    Bool.eq_false_iff.mpr fun blank => hne (first.eq_nil_iff.mpr blank)
  refine ((ofLine?_iff first notBlank).2.2.1 text).mpr ⟨spelled, ?_⟩
  rw [behind, String.ofList_toList]

/-- A line of white space asks for nothing, any other line for what its first word names, in any ASCII
case; a line whose first word names nothing is code and is kept as it is. White space around a line
does not matter, and the text behind `echo` comes back with the white space inside it. -/
theorem first_word_decides :
    (∀ line, ofLine? line = none ↔ allBlank line.toList = true) ∧
    (∀ line, allBlank line.toList = false →
      ∃ token rest, FirstWord (trim line.toList) token rest ∧ token ≠ [] ∧
        (ofLine? line = some .help ↔ IsSpelling "help" token ∨ IsSpelling "man" token) ∧
        (ofLine? line = some .clear ↔ IsSpelling "clear" token ∨ IsSpelling "cls" token) ∧
        (∀ text, ofLine? line = some (.echo text) ↔
          IsSpelling "echo" token ∧ text = String.ofList (trimStart rest)) ∧
        (∀ code, ofLine? line = some (.code code) ↔
          code = line ∧ ∀ word ∈ builtins, ¬ IsSpelling word token) ∧
        ((∃ c ∈ token, isAscii c = false) → ofLine? line = some (.code line))) ∧
    (∀ u line v : String, allBlank u.toList = true → allBlank v.toList = true →
      ofLine? (u ++ line ++ v) = (ofLine? line).map (withLine (u ++ line ++ v))) ∧
    ∀ u word w text v : String, allBlank u.toList = true → IsSpelling "echo" word.toList →
      w ≠ "" → allBlank w.toList = true → StartsSolid text.toList → EndsSolid text.toList →
      allBlank v.toList = true → ofLine? (u ++ (word ++ w ++ text) ++ v) = some (.echo text) := by
  refine ⟨ofLine?_eq_none_iff, fun line hb => ?_, fun u line v hu hv => ofLine?_pad hu hv line,
    fun u word w text v hu spelled apart hw starts ends hv => ?_⟩
  · obtain ⟨token, rest, first⟩ := exists_firstWord (trim line.toList)
    obtain ⟨help, clear, echo, code⟩ := ofLine?_iff first hb
    have named : token ≠ [] := fun empty => by simp [first.eq_nil_iff.mp empty] at hb
    refine ⟨token, rest, first, named, help, clear, echo, code, fun ⟨c, hc, foreign⟩ => ?_⟩
    refine (code line).mpr ⟨rfl, fun word hw spelled => ?_⟩
    rw [spelled.isAscii hw c hc] at foreign
    exact absurd foreign (by decide)
  · rw [ofLine?_pad hu hv, ofLine?_echo spelled apart hw starts ends]
    rfl

end Workpad.Command
