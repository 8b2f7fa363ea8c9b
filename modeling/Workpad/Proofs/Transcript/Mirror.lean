import Workpad.Transcript.View

/-!
A view that does as it is told shows a transcript as it is, however the transcript is edited: what it
was told and what the transcript keeps never drift apart, as long as targets stay under their ids.
-/
namespace Workpad

theorem replay_concat (told : List ViewEvent) (e : ViewEvent) :
    replay (told ++ [e]) = e.follow (replay told) := by
  simp [replay]

theorem Entry.text?_eq (e : Entry) : e.text? = e.block.text? := by
  cases e <;> rfl

theorem Entry.id?_eq (e : Entry) : e.target?.map Target.id = e.block.id? := by
  cases e <;> rfl

namespace Transcript
variable {t t' : Transcript}

def shown? (t : Transcript) : Option (List Block) := t.told.map replay

def blocks (t : Transcript) : List Block := t.entries.map Entry.block

theorem texts_eq (t : Transcript) :
    t.entries.filterMap Entry.text? = t.blocks.filterMap Block.text? := by
  rw [blocks, List.filterMap_map]
  exact congrArg (List.filterMap · t.entries) (funext Entry.text?_eq)

theorem ids_eq (t : Transcript) : t.targets.map Target.id = t.blocks.filterMap Block.id? := by
  rw [blocks, List.filterMap_map, targets, List.map_filterMap]
  exact congrArg (List.filterMap · t.entries) (funext Entry.id?_eq)

def Mirrored (t : Transcript) : Prop := t.shown? = some t.blocks

/-- Told of a change of the entries, the view follows it. -/
theorem Mirrored.tell (h : t.Mirrored) (e : ViewEvent) {entries : List Entry}
    (he : entries.map Entry.block = e.follow t.blocks) :
    Mirrored { t.tell e with entries } := by
  obtain ⟨told, ht, hr⟩ := Option.map_eq_some_iff.mp h
  simp [Mirrored, shown?, blocks, Transcript.tell, ht, replay_concat, hr, he]

/-- The view is told nothing where a target changes under its id, for it shows nothing else of it. -/
theorem blocks_changeFirst {id : TargetId} {f : Target → Target}
    (keeps : ∀ x : Target, x.id = id → (f x).id = id) (es : List Entry) :
    (changeFirst id f es).map Entry.block = es.map Entry.block := by
  induction es with
  | nil => rfl
  | cons e es ih =>
    cases e with
    | target x => by_cases hx : x.id = id <;> simp [changeFirst, hx, keeps, Entry.block, ih]
    | echo _ | fragment _ => simp [changeFirst, ih]

/-- What an edit makes of what is shown. -/
def Edit.follow (shown : List Block) : Edit → List Block
  | .echo line => shown ++ [.text line]
  | .fragment text => shown ++ [.text text]
  | .attach target => shown ++ [.target target.id]
  | .change _ _ => shown
  | .clear => []

theorem blocks_edit (t : Transcript) {e : Edit} (keeps : e.KeepsIds) :
    (t.edit e).blocks = e.follow t.blocks := by
  cases e with
  | echo _ | fragment _ | attach _ => exact List.map_append
  | change id f => exact blocks_changeFirst keeps t.entries
  | clear => rfl

theorem blocks_editAll (t : Transcript) {es : List Edit} (keep : ∀ e ∈ es, e.KeepsIds) :
    (t.editAll es).blocks = es.foldl Edit.follow t.blocks := by
  induction es generalizing t with
  | nil => rfl
  | cons e es ih =>
    have later := ih (t.edit e) fun e' he' => keep e' (List.mem_cons_of_mem e he')
    rw [blocks_edit t (keep e List.mem_cons_self)] at later
    exact later

theorem Mirrored.edit (h : t.Mirrored) {e : Edit} (keeps : e.KeepsIds) : (t.edit e).Mirrored := by
  cases e with
  | echo line => exact h.tell (.append line) (blocks_edit t keeps)
  | fragment text => exact h.tell (.append text) (blocks_edit t keeps)
  | attach target => exact h.tell (.attach target.id) (blocks_edit t keeps)
  | change id f => exact h.trans (congrArg some (blocks_edit t keeps).symm)
  | clear => exact h.tell .clear rfl

theorem Mirrored.editAll (h : t.Mirrored) {es : List Edit} (keep : ∀ e ∈ es, e.KeepsIds) :
    (t.editAll es).Mirrored := by
  induction es generalizing t with
  | nil => exact h
  | cons e es ih =>
    exact ih (h.edit (keep e List.mem_cons_self)) fun e' he' => keep e' (List.mem_cons_of_mem e he')

/-- What a transcript and a view that shows `shown` have in common. -/
structure ShownAs (t : Transcript) (shown : List Block) : Prop where
  told : t.told.map replay = some shown
  entries : shown = t.entries.map Entry.block
  text : t.text = "\n".intercalate (shown.filterMap Block.text?)
  targets : t.targets.map Target.id = shown.filterMap Block.id?
  destroyed : t.clear.1 = (shown.filterMap Block.id?).length
  cleared : t.clear.2.entries = []
  emptied : t.clear.2.told.map replay = some []

theorem Mirrored.shownAs (h : t.Mirrored) : t.ShownAs t.blocks where
  told := h
  entries := rfl
  text := by rw [Transcript.text, texts_eq]
  targets := ids_eq t
  destroyed := by rw [← ids_eq, List.length_map, Transcript.clear]
  cleared := rfl
  emptied := h.edit (e := .clear) trivial

/-! One transcript may come from another by edits that leave targets under their ids. -/

def EditsTo (t t' : Transcript) : Prop :=
  ∃ es : List Edit, (∀ e ∈ es, e.KeepsIds) ∧ t' = t.editAll es

theorem EditsTo.refl (t : Transcript) : t.EditsTo t := ⟨[], by simp, rfl⟩

theorem EditsTo.one (t : Transcript) {e : Edit} (keeps : e.KeepsIds) : t.EditsTo (t.edit e) :=
  ⟨[e], by simpa using keeps, rfl⟩

theorem EditsTo.trans {u : Transcript} (h : t.EditsTo t') (h' : t'.EditsTo u) : t.EditsTo u := by
  obtain ⟨es, keep, rfl⟩ := h
  obtain ⟨es', keep', rfl⟩ := h'
  refine ⟨es ++ es', fun e he => ?_, by simp [Transcript.editAll]⟩
  exact (List.mem_append.mp he).elim (keep e) (keep' e)

theorem EditsTo.mirrored (h : t.EditsTo t') (m : t.Mirrored) : t'.Mirrored := by
  obtain ⟨es, keep, rfl⟩ := h
  exact m.editAll keep

end Transcript

end Workpad
