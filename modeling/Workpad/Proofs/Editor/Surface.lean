import Workpad.Editor.Buffer

/-!
The surface of an editor. It is told the ghost of every edit and of nothing else: what it shows is the
ghost of the last edit, also where the code has been replaced since and the buffer has no ghost.
-/
namespace Workpad.Editor

/-- What happens to the code. A load finds the files as they are then. -/
inductive Event where
  | change (text : String)
  | importText (text : String)
  | load (files : Files) (path : Path)

def step (e : Editor) : Event → Editor
  | .change text => e.change text
  | .importText text => e.importText text
  | .load files path => (e.load files path).toOption.getD e

def run (e : Editor) (es : List Event) : Editor := es.foldl step e

/-- What the surface shows: the ghost that it was told last. -/
def onScreen (e : Editor) : String := e.shown.getLast?.getD ""

def ghostOf (table : List Symbol) (text : String) : String :=
  ((suggest? table text).map (·.ghost)).getD ""

def Event.isEdit : Event → Bool
  | .change _ => true
  | .importText _ | .load _ _ => false

def Event.replacement? : Event → Option String
  | .change _ => none
  | .importText text => some text
  | .load files path => (files.readText path).toOption

def Event.replaces (x : Event) : Bool := x.replacement?.isSome

/-- The code has been replaced since the last edit, and that edit had a ghost. -/
def Stale (table : List Symbol) (es : List Event) : Prop :=
  ∃ before text after, es = before ++ .change text :: after ∧ (∀ x ∈ after, x.isEdit = false) ∧
    after.any Event.replaces = true ∧ ghostOf table text ≠ ""

variable {e : Editor} {x : Event} {es : List Event}

theorem run_cons (e : Editor) (x : Event) (es : List Event) : e.run (x :: es) = (e.step x).run es :=
  rfl

theorem run_append (e : Editor) (es es' : List Event) : e.run (es ++ es') = (e.run es).run es' :=
  List.foldl_append

theorem step_of_not_edit (e : Editor) (quiet : x.isEdit = false) :
    e.step x = x.replacement?.elim e e.importText := by
  cases x with
  | change text => contradiction
  | importText text => rfl
  | load files path => cases h : files.readText path <;> simp [step, load, Event.replacement?, h,
      Except.map, Except.toOption]

theorem symbols_step (e : Editor) (x : Event) : (e.step x).buffer.symbols = e.buffer.symbols := by
  cases hx : x.isEdit with
  | true =>
    cases x with
    | change text => rfl
    | importText _ | load _ _ => contradiction
  | false =>
    rw [step_of_not_edit e hx]
    cases x.replacement? <;> rfl

theorem symbols_run (e : Editor) (es : List Event) :
    (e.run es).buffer.symbols = e.buffer.symbols := by
  induction es generalizing e with
  | nil => rfl
  | cons x es ih => exact (ih (e.step x)).trans (symbols_step e x)

/-- After an edit, the surface shows what the buffer has. -/
theorem step_change (e : Editor) (text : String) :
    (e.step (.change text)).onScreen = ghostOf e.buffer.symbols text ∧
      (e.step (.change text)).buffer.ghost = ghostOf e.buffer.symbols text := by
  constructor
  · simp [step, change, onScreen, Buffer.ghost, Buffer.edit, ghostOf]
  · rfl

/-- Without an edit the surface shows on what it showed, and a replacement takes the ghost away. -/
theorem run_of_not_edit (e : Editor) (quiet : ∀ x ∈ es, x.isEdit = false) :
    (e.run es).onScreen = e.onScreen ∧
      (e.run es).buffer.ghost = if es.any Event.replaces then "" else e.buffer.ghost := by
  induction es generalizing e with
  | nil => exact ⟨rfl, rfl⟩
  | cons x es ih =>
    obtain ⟨here, rest⟩ := List.forall_mem_cons.mp quiet
    rw [run_cons, step_of_not_edit e here, List.any_cons, Event.replaces]
    cases x.replacement? with
    | none => exact ih e rest
    | some text =>
      obtain ⟨shown, ghost⟩ := ih (e.importText text) rest
      exact ⟨shown, ghost.trans (ite_self "")⟩

/-- There is a last edit, or none at all. -/
theorem exists_last_edit (es : List Event) : (∀ x ∈ es, x.isEdit = false) ∨
    ∃ before text after, es = before ++ .change text :: after ∧ ∀ x ∈ after, x.isEdit = false := by
  induction es with
  | nil => exact .inl (by simp)
  | cons x es ih =>
    obtain quiet | ⟨before, text, after, rfl, quiet⟩ := ih
    · cases x with
      | change text => exact .inr ⟨[], text, es, rfl, quiet⟩
      | importText _ | load _ _ => exact .inl (List.forall_mem_cons.mpr ⟨rfl, quiet⟩)
    · exact .inr ⟨x :: before, text, after, rfl, quiet⟩

section
variable (table : List Symbol) (code : String)

theorem run_of_last_edit {before after : List Event} {text : String}
    (quiet : ∀ x ∈ after, x.isEdit = false) :
    let e := run { buffer := { code, symbols := table } } (before ++ .change text :: after)
    e.onScreen = ghostOf table text ∧
      e.buffer.ghost = if after.any Event.replaces then "" else ghostOf table text := by
  intro e
  have there : e = ((run { buffer := { code, symbols := table } } before).step (.change text)).run
      after := run_append _ _ _
  obtain ⟨shown, ghost⟩ := run_of_not_edit
    ((run { buffer := { code, symbols := table } } before).step (.change text)) quiet
  obtain ⟨edited, edited'⟩ := step_change (run { buffer := { code, symbols := table } } before) text
  rw [symbols_run] at edited edited'
  rw [there, shown, ghost, edited, edited']
  exact ⟨rfl, rfl⟩

/-- At every point the surface shows the ghost of the last edit, and nothing before the first one. The
buffer has that ghost as long as its code is not replaced, by an import or by a load that succeeds, and
none from then on; so the surface shows what the buffer has unless it shows a ghost of replaced code. -/
theorem surface_shows_last_edit (es : List Event) :
    let e := run { buffer := { code, symbols := table } } es
    (∀ before text after, es = before ++ .change text :: after →
      (∀ x ∈ after, x.isEdit = false) → e.onScreen = ghostOf table text ∧
        e.buffer.ghost = if after.any Event.replaces then "" else ghostOf table text) ∧
      ((∀ x ∈ es, x.isEdit = false) → e.onScreen = "" ∧ e.buffer.ghost = "") ∧
      (e.onScreen = e.buffer.ghost ↔ ¬ Stale table es) := by
  intro e
  have edited (before : List Event) (text : String) (after : List Event)
      (parts : es = before ++ .change text :: after) (quiet : ∀ x ∈ after, x.isEdit = false) :
      e.onScreen = ghostOf table text ∧
        e.buffer.ghost = if after.any Event.replaces then "" else ghostOf table text := by
    subst parts
    exact run_of_last_edit table code quiet
  have untouched (quiet : ∀ x ∈ es, x.isEdit = false) : e.onScreen = "" ∧ e.buffer.ghost = "" := by
    obtain ⟨shown, ghost⟩ := run_of_not_edit { buffer := { code, symbols := table } } quiet
    exact ⟨shown, ghost.trans (ite_self "")⟩
  refine ⟨edited, untouched, fun same stale => ?_, fun fresh => ?_⟩
  · obtain ⟨before, text, after, parts, quiet, replaced, ghost⟩ := stale
    obtain ⟨shown, left⟩ := edited before text after parts quiet
    rw [replaced, if_pos rfl] at left
    exact ghost (shown.symm.trans (same.trans left))
  · obtain quiet | ⟨before, text, after, parts, quiet⟩ := exists_last_edit es
    · obtain ⟨shown, left⟩ := untouched quiet
      rw [shown, left]
    · obtain ⟨shown, left⟩ := edited before text after parts quiet
      rw [shown, left]
      split
      next replaced =>
        exact Decidable.byContradiction fun ghost =>
          fresh ⟨before, text, after, parts, quiet, replaced, ghost⟩
      next => rfl

/-- An import after an edit: the ghost of the code that is gone stays on the screen. -/
theorem import_leaves_ghost_on_screen :
    let e := run { buffer := { code := "" } } [.change "le", .importText "x = 1\n"]
    e.onScreen = "n" ∧ e.buffer.ghost = "" ∧ e.onScreen ≠ e.buffer.ghost := by
  decide +kernel

end

end Workpad.Editor
