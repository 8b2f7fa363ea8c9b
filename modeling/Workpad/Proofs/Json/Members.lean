import Workpad.Proofs.Json.Written

/-!
Objects as text, and the record that is read from one. A known key may stand anywhere among the
others, so the changes that the keys make must not depend on their order.
-/
namespace Workpad.Json

abbrev Member := String × List Char

def separator (first : Bool) : List Char := if first then [] else [',']

inductive MembersText : Bool → List Member → List Char → Prop
  | nil {gap : List Char} (first : Bool) (hg : Gap gap) : MembersText first [] gap
  | cons {before after key colon lead text value : List Char} {name : String} {ms : List Member}
    (first : Bool) (hb : Gap before) (ha : Gap after) (hk : StringText key name)
    (hc : Gap colon) (hl : Gap lead) (rest : MembersText false ms text) :
    MembersText first ((name, value) :: ms) (before ++ (separator first ++ (after ++
      (key ++ (colon ++ ':' :: (lead ++ (value ++ text)))))))

def ObjectText (ms : List Member) (text : List Char) : Prop :=
  ∃ inner, text = '{' :: (inner ++ ['}']) ∧ MembersText true ms inner

theorem MembersText.ends {ms : List Member} {text : List Char} (h : MembersText false ms text)
    (rest : List Char) : Ends (text ++ '}' :: rest) := by
  cases h with
  | nil _ hg => exact hg.ends (Bracket.object.ends_closer rest)
  | cons _ hb _ _ _ _ _ =>
    rw [List.append_assoc]
    apply hb.ends
    exact ends_cons (by decide) _

theorem MembersText.length_le {first : Bool} {ms : List Member} {text : List Char}
    (h : MembersText first ms text) : ms.length ≤ text.length := by
  induction h with
  | nil => simp
  | cons first _ _ _ _ _ _ ih =>
    simp only [List.length_append, List.length_cons]
    omega

/-! Objects that are written. -/

theorem membersText_intercalate (m : List Char × List Char) (ms : List (List Char × List Char))
    (first : Bool) :
    MembersText first ((m :: ms).map fun m => (String.ofList m.1, m.2))
      (separator first ++ [','].intercalate ((m :: ms).map fun m => quote m.1 ++ ':' :: m.2)) := by
  have key (m : List Char × List Char) : StringText (quote m.1) (String.ofList m.1) := by
    have quoted := stringText_quote (String.ofList m.1)
    rwa [String.toList_ofList] at quoted
  induction ms generalizing m first with
  | nil =>
    have one : MembersText first [(String.ofList m.1, m.2)] _ :=
      .cons first gap_nil gap_nil (key m) gap_nil gap_nil (.nil false gap_nil)
    simpa [List.intercalate_singleton] using one
  | cons m' ms ih =>
    have more : MembersText first ((String.ofList m.1, m.2) :: _) _ :=
      .cons first gap_nil gap_nil (key m) gap_nil gap_nil (ih m' false)
    simpa [separator] using more

theorem objectText_writeObject (ms : List (List Char × List Char)) :
    ObjectText (ms.map fun m => (String.ofList m.1, m.2)) (writeObject ms) := by
  cases ms with
  | nil => exact ⟨[], rfl, .nil true gap_nil⟩
  | cons m ms => exact ⟨_, rfl, membersText_intercalate m ms true⟩

/-! What the members say under a key. -/

def valuesOf (key : String) (ms : List Member) : List (List Char) :=
  (ms.filter (·.1 == key)).map (·.2)

@[simp] theorem valuesOf_nil (key : String) : valuesOf key [] = [] := rfl

theorem valuesOf_cons_self (m : Member) (ms : List Member) :
    valuesOf m.1 (m :: ms) = m.2 :: valuesOf m.1 ms := by
  simp [valuesOf]

theorem valuesOf_cons_of_ne {key : String} {m : Member} (h : m.1 ≠ key) (ms : List Member) :
    valuesOf key (m :: ms) = valuesOf key ms := by
  simp [valuesOf, h]

theorem valuesOf_tail {key : String} {m : Member} {ms : List Member}
    (h : valuesOf key (m :: ms) = []) : valuesOf key ms = [] := by
  by_cases hk : m.1 = key
  · subst hk
    rw [valuesOf_cons_self] at h
    contradiction
  · rwa [valuesOf_cons_of_ne hk] at h

variable {σ α β : Type} {fields : List (KnownKey σ)}

/-- The members give this value under a key, or they do not have the key. -/
def Gives (ms : List Member) (key : String) (Text : List Char → α → Prop) : Option α → Prop
  | none => valuesOf key ms = []
  | some a => ∃ text, valuesOf key ms = [text] ∧ Text text a

inductive KnownKey.Stands (ms : List Member) (f : KnownKey σ) : (σ → σ) → Prop
  | absent (none : valuesOf f.name ms = []) : Stands ms f id
  | present {text : List Char} {change : σ → σ} (one : valuesOf f.name ms = [text])
    (reads : Reads f.read text change) : Stands ms f change

namespace KnownKey

theorem Stands.of_gives {ms : List Member} {key : String} {Text : List Char → β → Prop}
    {named : Option β} (h : Gives ms key Text named) {read : Reader α} {value : β → α}
    (reads : ∀ {text b}, Text text b → Reads read text (value b)) (set : α → σ → σ) :
    Stands ms (.of key read set) (named.elim id fun b => set (value b)) := by
  cases named with
  | none => exact .absent h
  | some b =>
    obtain ⟨text, one, written⟩ := h
    exact .present one ((reads written).of key set)

theorem Stands.tail {f : KnownKey σ} {m : Member} {ms : List Member} {change : σ → σ}
    (h : Stands (m :: ms) f change) (other : m.1 ≠ f.name) : Stands ms f change := by
  cases h with
  | absent none => exact .absent (valuesOf_cons_of_ne other ms ▸ none)
  | present one reads => exact .present (valuesOf_cons_of_ne other ms ▸ one) reads

theorem Stands.head {f : KnownKey σ} {m : Member} {ms : List Member} {change : σ → σ}
    (h : Stands (m :: ms) f change) (same : m.1 = f.name) :
    Reads f.read m.2 change ∧ valuesOf f.name ms = [] := by
  have values : valuesOf f.name (m :: ms) = m.2 :: valuesOf f.name ms :=
    same ▸ valuesOf_cons_self m ms
  cases h with
  | absent none => simp [values] at none
  | present one reads =>
    rw [values] at one
    obtain ⟨rfl, gone⟩ := List.cons.inj one
    exact ⟨reads, gone⟩

theorem Stands.of_nil {f : KnownKey σ} {change : σ → σ} (h : Stands [] f change) : change = id := by
  cases h with
  | absent => rfl
  | present one => contradiction

/-- What is read under the two keys may be put into the record in either order. -/
def Independent (f g : KnownKey σ) : Prop :=
  ∀ text text' change change', Reads f.read text change → Reads g.read text' change' →
    ∀ s, change (change' s) = change' (change s)

theorem exists_eq_set {name : String} {read : Reader α} {set : α → σ → σ} {text : List Char}
    {change : σ → σ} (h : Reads (of name read set).read text change) : ∃ a, change = set a := by
  have one := h [] [] gap_nil ends_nil
  rw [List.nil_append, List.append_nil, of] at one
  cases hr : read text with
  | error e => simp [Except.map, hr] at one
  | ok x =>
    simp only [hr, Except.map, Except.ok.injEq, Prod.mk.injEq] at one
    exact ⟨x.1, one.1.symm⟩

theorem independent_of {name name' : String} {read : Reader α} {read' : Reader β}
    {set : α → σ → σ} {set' : β → σ → σ} (h : ∀ a b s, set a (set' b s) = set' b (set a s)) :
    Independent (.of name read set) (.of name' read' set') := by
  intro text text' change change' hr hr' s
  obtain ⟨a, rfl⟩ := exists_eq_set hr
  obtain ⟨b, rfl⟩ := exists_eq_set hr'
  exact h a b s

theorem Independent.of_stands {f g : KnownKey σ} (h : Independent f g) {ms : List Member}
    {text : List Char} {change change' : σ → σ} (hs : Stands ms f change)
    (hr : Reads g.read text change') (s : σ) : change (change' s) = change' (change s) := by
  cases hs with
  | absent => rfl
  | present _ reads => exact h _ _ _ _ reads hr s

end KnownKey

structure Apart (fields : List (KnownKey σ)) : Prop where
  names : fields.Pairwise fun f g => f.name ≠ g.name
  independent : fields.Pairwise KnownKey.Independent

def allChanges (changes : List (σ → σ)) (start : σ) : σ :=
  changes.foldl (fun s change => change s) start

/-- The members make these changes, and have any values under other keys. -/
structure Makes (fields : List (KnownKey σ)) (ms : List Member) (changes : List (σ → σ)) : Prop where
  known : List.Forall₂ (KnownKey.Stands ms) fields changes
  others : ∀ m ∈ ms, (∀ f ∈ fields, f.name ≠ m.1) → Written .value m.2

open KnownKey

theorem Makes.of_nil {changes : List (σ → σ)} (h : Makes fields [] changes) (s : σ) :
    allChanges changes s = s := by
  obtain ⟨known, -⟩ := h
  induction known generalizing s with
  | nil => rfl
  | cons stands _ ih =>
    rw [stands.of_nil]
    exact ih s

theorem forall₂_stands_tail {m : Member} {ms : List Member} {changes : List (σ → σ)}
    (h : List.Forall₂ (Stands (m :: ms)) fields changes) (other : ∀ f ∈ fields, m.1 ≠ f.name) :
    List.Forall₂ (Stands ms) fields changes := by
  have both := (List.forall₂_and_left _ _).mpr ⟨other, h⟩
  exact both.imp fun _ _ hf => hf.2.tail hf.1

theorem find?_cons_name {f g : KnownKey σ} {name : String}
    (h : (g :: fields).find? (·.name == name) = some f) :
    (g.name = name ∧ f = g) ∨ (g.name ≠ name ∧ fields.find? (·.name == name) = some f) := by
  by_cases hg : g.name = name
  · rw [List.find?_cons_of_pos (by simpa using hg)] at h
    exact .inl ⟨hg, (Option.some.inj h).symm⟩
  · rw [List.find?_cons_of_neg (by simpa using hg)] at h
    exact .inr ⟨hg, h⟩

theorem Makes.tail {m : Member} {ms : List Member} {changes : List (σ → σ)}
    (h : Makes fields (m :: ms) changes) (other : ∀ f ∈ fields, m.1 ≠ f.name) :
    Makes fields ms changes :=
  ⟨forall₂_stands_tail h.known other, fun m' hm => h.others m' (List.mem_cons_of_mem m hm)⟩

/-- The induction is on the known keys, up to the one that the member has. -/
theorem change_first {m : Member} {ms : List Member} {changes : List (σ → σ)} {f : KnownKey σ}
    (apart : Apart fields) (known : List.Forall₂ (Stands (m :: ms)) fields changes)
    (found : fields.find? (·.name == m.1) = some f) :
    ∃ change changes', Reads f.read m.2 change ∧ valuesOf m.1 ms = [] ∧
      List.Forall₂ (Stands ms) fields changes' ∧
        ∀ s, allChanges changes s = allChanges changes' (change s) := by
  obtain ⟨names, independent⟩ := apart
  induction known with
  | nil => simp at found
  | @cons g change fields changes stands others ih =>
    obtain ⟨other_names, names⟩ := List.pairwise_cons.mp names
    obtain ⟨apart, independent⟩ := List.pairwise_cons.mp independent
    obtain ⟨same, rfl⟩ | ⟨other, found⟩ := find?_cons_name found
    · obtain ⟨reads, gone⟩ := stands.head same.symm
      rw [same] at other_names gone
      refine ⟨change, id :: changes, reads, gone, .cons (.absent (same ▸ gone)) ?_, fun _ => rfl⟩
      exact forall₂_stands_tail others other_names
    · obtain ⟨first, changes', reads, gone, rest, moved⟩ := ih found names independent
      refine ⟨first, change :: changes', reads, gone, .cons (stands.tail (Ne.symm other)) rest, ?_⟩
      intro s
      have commute := (apart f (List.mem_of_find?_eq_some found)).of_stands stands reads s
      have later := moved (change s)
      rw [← commute] at later
      exact later

/-- What the first member changes may be changed before all else. -/
theorem Makes.first {m : Member} {ms : List Member} {changes : List (σ → σ)} {f : KnownKey σ}
    (apart : Apart fields) (h : Makes fields (m :: ms) changes)
    (found : fields.find? (·.name == m.1) = some f) :
    ∃ change changes', Reads f.read m.2 change ∧ valuesOf m.1 ms = [] ∧
      Makes fields ms changes' ∧ ∀ s, allChanges changes s = allChanges changes' (change s) := by
  obtain ⟨known, others⟩ := h
  obtain ⟨change, changes', reads, gone, known, moved⟩ := change_first apart known found
  exact ⟨change, changes', reads, gone,
    ⟨known, fun m' hm => others m' (List.mem_cons_of_mem m hm)⟩, moved⟩

/-! Members are read one by one. -/

theorem nextKey_close (first : Bool) {gap : List Char} (hg : Gap gap) (rest : List Char) :
    nextKey first (gap ++ '}' :: rest) = .ok (none, rest) := by
  rw [nextKey, hg.skip, skipSpace_of_head rfl]
  simp

theorem nextKey_key (first : Bool) {before after key : List Char} {name : String}
    (hb : Gap before) (ha : Gap after) (hk : StringText key name) (rest : List Char) :
    nextKey first (before ++ (separator first ++ (after ++ (key ++ rest)))) =
      .ok (some name.toList, rest) := by
  obtain ⟨inner, rfl, spelled⟩ := hk
  have quoted : skipSpace (after ++ (('"' :: inner ++ ['"']) ++ rest)) =
      '"' :: (inner ++ '"' :: rest) := by
    rw [ha.skip, List.cons_append, List.cons_append, skipSpace_of_head rfl]
    simp
  rw [nextKey, hb.skip]
  cases first with
  | true =>
    rw [separator, if_pos rfl, List.nil_append, quoted]
    simp [spelled.read]
  | false =>
    have comma : separator false = [','] := rfl
    rw [comma, List.singleton_append, skipSpace_of_head rfl]
    simp only [quoted]
    simp [spelled.read]

theorem skipColon_colon {gap : List Char} (hg : Gap gap) (rest : List Char) :
    skipColon (gap ++ ':' :: rest) = .ok rest := by
  rw [skipColon, hg.skip, skipSpace_of_head rfl]
  simp

section Member
variable {name : String} {colon lead value rest : List Char} {seen : List String}

theorem member_unknown (unknown : fields.find? (·.name == name) = none)
    (hc : Gap colon) (hl : Gap lead) (hv : Written .value value) (hr : Ends rest) (acc : σ) :
    member fields name.toList seen acc (colon ++ ':' :: (lead ++ (value ++ rest))) =
      .ok (seen, acc, rest) := by
  simp only [member, String.ofList_toList, unknown, skipColon_colon hc,
    skipValue_of_written hv hl hr]

theorem member_known {f : KnownKey σ} {change : σ → σ}
    (found : fields.find? (·.name == name) = some f) (new : name ∉ seen) (hc : Gap colon)
    (hl : Gap lead) (hv : Reads f.read value change) (hr : Ends rest) (acc : σ) :
    member fields name.toList seen acc (colon ++ ':' :: (lead ++ (value ++ rest))) =
      .ok (name :: seen, change acc, rest) := by
  simp [member, found, new, skipColon_colon hc, hv lead rest hl hr]

end Member

/-- The members make all their changes. No key that was seen comes again. -/
theorem MembersText.read (apart : Apart fields) {first : Bool} {ms : List Member}
    {inner : List Char} (h : MembersText first ms inner) {changes : List (σ → σ)}
    (makes : Makes fields ms changes) {seen : List String} (new : ∀ x ∈ seen, valuesOf x ms = [])
    {fuel : Nat} (enough : ms.length < fuel) (acc : σ) (rest : List Char) :
    members fields fuel first seen acc (inner ++ '}' :: rest) =
      .ok (allChanges changes acc, rest) := by
  induction h generalizing changes seen fuel acc with
  | nil first hg =>
    obtain ⟨fuel, rfl⟩ := Nat.exists_eq_add_one_of_ne_zero (Nat.ne_zero_of_lt enough)
    rw [members, nextKey_close first hg, makes.of_nil]
  | @cons before after key colon lead text value name ms first hb ha hk hc hl tail ih =>
    obtain ⟨fuel, rfl⟩ := Nat.exists_eq_add_one_of_ne_zero (Nat.ne_zero_of_lt enough)
    have enough : ms.length < fuel := by simpa using enough
    have ends := tail.ends rest
    simp only [List.append_assoc, List.cons_append]
    rw [members, nextKey_key first hb ha hk]
    -- a key that nobody knows changes nothing, a known one makes its change before all others
    cases found : fields.find? (·.name == name) with
    | none =>
      have other : ∀ f ∈ fields, f.name ≠ name := by simpa using found
      have hv := makes.others _ List.mem_cons_self other
      have makes := makes.tail (m := (name, value)) fun f hf => (other f hf).symm
      simp only [member_unknown found hc hl hv ends]
      exact ih makes (fun x hx => valuesOf_tail (new x hx)) enough acc
    | some f =>
      obtain ⟨change, changes', reads, gone, makes, moved⟩ := makes.first apart found
      have unseen : name ∉ seen := fun hs => by
        have none := new name hs
        rw [valuesOf_cons_self (name, value)] at none
        contradiction
      have new : ∀ x ∈ name :: seen, valuesOf x ms = [] :=
        List.forall_mem_cons.mpr ⟨gone, fun x hx => valuesOf_tail (new x hx)⟩
      simp only [member_known found unseen hc hl reads ends]
      rw [moved]
      exact ih makes new enough (change acc)

theorem ObjectText.reads (apart : Apart fields) {ms : List Member} {text : List Char}
    (h : ObjectText ms text) {changes : List (σ → σ)} (makes : Makes fields ms changes) (start : σ) :
    Reads (record fields start) text (allChanges changes start) := by
  obtain ⟨inner, rfl, inside⟩ := h
  intro gap rest hg _
  have text : '{' :: (inner ++ ['}']) ++ rest = '{' :: (inner ++ '}' :: rest) := by simp
  have enough : ms.length < (inner ++ '}' :: rest).length + 1 := by
    have := inside.length_le
    simp only [List.length_append]
    omega
  have none : ∀ x ∈ ([] : List String), valuesOf x ms = [] := by simp
  have read := inside.read apart makes none enough start rest
  rw [record, hg.skip, text, skipSpace_of_head rfl]
  simpa using read

end Workpad.Json
