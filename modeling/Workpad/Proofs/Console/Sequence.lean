import Workpad.Console.Basic
import Workpad.Proofs.Run.Complete

/-!
A console that is asked one thing after another. Taking a request step by step comes to the same as
performing it in one go.
-/
namespace Workpad.Console
variable {i : Interpreter} {c : Console}

def loaded (c : Console) : Console := { c with workspace := c.workspace.loaded }

/-- Requests performed one after another. One that gets stuck is the last. -/
def serve (i : Interpreter) (c : Console) : List Request → List Standing × Console
  | [] => ([], c)
  | r :: rs =>
    match c.perform i r with
    | (.replied text, c) => (.replied text :: (c.serve i rs).1, (c.serve i rs).2)
    | (.suspended stage, c) => ([.suspended stage], c)

def complete (i : Interpreter) (c : Console) (stage : Stage) : Standing × Console :=
  c.loaded.resume i stage

def completed (i : Interpreter) : Standing × Console → Standing × Console
  | (.suspended stage, c) => c.complete i stage
  | (.replied text, c) => (.replied text, c.loaded)

theorem completed_settle (c : Console) (x : Progress × Workspace) :
    completed i (c.settle x) = c.settle (Workspace.completed i x) := by
  obtain ⟨stage | report, w⟩ := x <;> rfl

theorem completed_advance (h : c.workspace.startup.Sound) (stage : Stage) :
    completed i (c.advance i stage) = c.complete i stage := by
  rw [advance, completed_settle, Workspace.completed_advance h]
  rfl

theorem accept_loaded (c : Console) (r : Request) :
    c.loaded.accept r = Prod.map id loaded (c.accept r) := by
  cases r with
  | submit line =>
    cases h : Command.ofLine? line with
    | none => simp [accept, h]
    | some command => cases command <;> simp only [accept, h] <;> rfl
  | script code => rfl
  | transcript => rfl

theorem startup_accept (c : Console) (r : Request) :
    (c.accept r).2.workspace.startup = c.workspace.startup := by
  cases r with
  | submit line =>
    cases h : Command.ofLine? line with
    | none => simp [accept, h]
    | some command => cases command <;> simp only [accept, h] <;> rfl
  | script code => rfl
  | transcript => rfl

/-- A request that is begun and then taken as far as it goes is performed. -/
theorem completed_start (h : c.workspace.startup.Sound) (r : Request) :
    completed i (c.start i r) = c.loaded.perform i r := by
  have hs : (c.accept r).2.workspace.startup.Sound := by rwa [startup_accept]
  rw [start, perform, accept_loaded]
  generalize c.accept r = x at hs ⊢
  obtain ⟨text | code, d⟩ := x
  · rfl
  · have hr : d.workspace.request.startup.Sound := Startup.Sound.request hs
    simp only [Prod.map, id]
    rw [completed_settle, Workspace.start, Workspace.completed_advance hr,
      Workspace.complete_request hs]
    rfl

theorem startup_settle (c : Console) (x : Progress × Workspace) :
    (c.settle x).2.workspace.startup = x.2.startup := by
  obtain ⟨stage | report, w⟩ := x <;> rfl

theorem startup_advance (i : Interpreter) (c : Console) (stage : Stage) :
    (c.advance i stage).2.workspace.startup = c.workspace.startup :=
  (startup_settle c _).trans (Workspace.startup_advance i c.workspace stage)

theorem startup_start (i : Interpreter) (c : Console) (r : Request) :
    (c.start i r).2.workspace.startup = c.workspace.startup ∨
      (c.start i r).2.workspace.startup = c.workspace.startup.request := by
  have ha := startup_accept c r
  rw [start]
  generalize c.accept r = x at ha ⊢
  obtain ⟨text | code, d⟩ := x
  · exact .inl ha
  · refine .inr ?_
    change (d.settle _).2.workspace.startup = _
    rw [startup_settle, Workspace.start, Workspace.startup_advance, Workspace.request]
    exact congrArg Startup.request ha

theorem serve_concat {rs : List Request} {texts : List (Option String)} {d : Console}
    (h : c.serve i rs = (texts.map .replied, d)) (r : Request) :
    c.serve i (rs ++ [r]) = (texts.map .replied ++ [(d.perform i r).1], (d.perform i r).2) := by
  induction rs generalizing c texts with
  | nil =>
    simp only [serve, Prod.mk.injEq] at h
    obtain ⟨ht, rfl⟩ := h
    have hn : texts = [] := by simpa using ht.symm
    subst hn
    rw [List.nil_append, serve]
    obtain ⟨text | stage, e⟩ := c.perform i r <;> rfl
  | cons r' rs ih =>
    rw [List.cons_append, serve]
    rw [serve] at h
    generalize c.perform i r' = x at h ⊢
    obtain ⟨text | stage, e⟩ := x
    · cases texts with
      | nil => simp at h
      | cons text' texts =>
        simp only [List.map_cons, Prod.mk.injEq, List.cons.injEq, Standing.replied.injEq] at h
        obtain ⟨⟨rfl, ht⟩, hd⟩ := h
        have he := ih (c := e) (Prod.ext ht hd)
        simp only [he, List.map_cons, List.cons_append]
    · cases texts <;> simp at h

theorem serve_prefix (i : Interpreter) (c : Console) (rs more : List Request) :
    (c.serve i rs).1 <+: (c.serve i (rs ++ more)).1 := by
  induction rs generalizing c with
  | nil => exact List.nil_prefix
  | cons r rs ih =>
    rw [List.cons_append, serve, serve]
    obtain ⟨text | stage, d⟩ := c.perform i r
    · exact List.cons_prefix_cons.mpr ⟨rfl, ih d⟩
    · exact List.prefix_rfl

end Workpad.Console
