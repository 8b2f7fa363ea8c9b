import Mathlib.Data.List.Destutter
import Workpad.Proofs.Console.Log
import Workpad.Proofs.Console.Schedule

/-!
The history of a console is the record of the lines submitted at its terminal: those that are not
blank, in order, and a line that comes several times in a row once.
-/
namespace Workpad

section
variable {α : Type} [DecidableEq α]

theorem destutter'_concat (b : α) (l : List α) (a : α) : (l ++ [a]).destutter' (· ≠ ·) b =
    if (b :: l).getLast? = some a then l.destutter' (· ≠ ·) b
    else l.destutter' (· ≠ ·) b ++ [a] := by
  induction l generalizing b with
  | nil => by_cases h : b = a <;> simp [h]
  | cons c l ih =>
    rw [List.cons_append, List.getLast?_cons_cons]
    by_cases h : b = c
    · subst h
      rw [List.destutter'_cons_neg _ (not_not.mpr rfl), List.destutter'_cons_neg _ (not_not.mpr rfl),
        ih]
    · rw [List.destutter'_cons_pos _ h, List.destutter'_cons_pos _ h, ih]
      split <;> rfl

/-- One more element joins the rest unless it is the last one again. -/
theorem destutter_concat (l : List α) (a : α) : (l ++ [a]).destutter (· ≠ ·) =
    if l.getLast? = some a then l.destutter (· ≠ ·) else l.destutter (· ≠ ·) ++ [a] := by
  cases l with
  | nil => simp
  | cons b l => exact destutter'_concat b l a

theorem getLast?_destutter (l : List α) : (l.destutter (· ≠ ·)).getLast? = l.getLast? := by
  induction l using List.reverseRecOn with
  | nil => rfl
  | append_singleton l a ih =>
    rw [destutter_concat]
    split
    next h => simp [ih, h]
    next => simp

end

namespace History
variable {h : History} {lines : List String}

/-- What there is to keep of the lines: those that are not blank, and equal neighbours once. -/
def digest (lines : List String) : List String :=
  (lines.filter fun line => !Text.allBlank line.toList).destutter (· ≠ ·)

theorem digest_of_blank {line : String} (hb : Text.allBlank line.toList = true) :
    digest (lines ++ [line]) = digest lines := by
  simp [digest, hb]

theorem digest_concat {line : String} (hb : Text.allBlank line.toList = false) :
    digest (lines ++ [line]) =
      if (digest lines).getLast? = some line then digest lines else digest lines ++ [line] := by
  have hf : (lines ++ [line]).filter (fun line => !Text.allBlank line.toList) =
      lines.filter (fun line => !Text.allBlank line.toList) ++ [line] := by simp [hb]
  rw [digest, hf, destutter_concat, digest, getLast?_destutter]

structure Keeps (h : History) (lines : List String) : Prop where
  entries : h.entries = digest lines
  cursor : h.cursor ≤ h.entries.length

theorem Keeps.blank (k : h.Keeps lines) {line : String} (hb : Text.allBlank line.toList = true) :
    h.Keeps (lines ++ [line]) :=
  ⟨k.entries.trans (digest_of_blank hb).symm, k.cursor⟩

/-- Where nothing is submitted there is nothing more to keep. -/
theorem Keeps.rest (k : h.Keeps lines) : h.Keeps (lines ++ []) := by rwa [List.append_nil]

theorem Keeps.push (k : h.Keeps lines) (line : String) :
    (h.push line).2.Keeps (lines ++ [line]) := by
  refine ⟨?_, Nat.le_refl _⟩
  cases hb : Text.allBlank line.toList with
  | true => simp [History.push, accepts, hb, k.entries, digest_of_blank hb]
  | false =>
    rw [digest_concat hb, ← k.entries]
    by_cases hl : h.entries.getLast? = some line <;> simp [History.push, accepts, hb, hl]

theorem Keeps.older (k : h.Keeps lines) : h.older.2.Keeps lines := by
  unfold History.older
  split
  next => exact k
  next => exact ⟨k.entries, (Nat.sub_le _ _).trans k.cursor⟩

theorem Keeps.newer (k : h.Keeps lines) : h.newer.2.Keeps lines := by
  unfold History.newer
  split
  next hc => exact ⟨k.entries, Nat.le_of_lt hc⟩
  next => exact ⟨k.entries, Nat.le_refl _⟩

theorem digest_prefix (lines more : List String) : digest lines <+: digest (lines ++ more) := by
  induction more using List.reverseRecOn with
  | nil => simp
  | append_singleton more line ih =>
    rw [← List.append_assoc]
    cases hb : Text.allBlank line.toList with
    | true => rwa [digest_of_blank hb]
    | false =>
      rw [digest_concat hb]
      split
      next => exact ih
      next => exact ih.trans (List.prefix_append _ _)

example : digest ["a", " ", "a", "b", "a"] = ["a", "b", "a"] := by decide

theorem not_blank_of_mem_digest {line : String} (hm : line ∈ digest lines) :
    Text.allBlank line.toList = false := by
  have hf := (List.destutter_sublist _ _).subset hm
  simpa using (List.mem_filter.mp hf).2

end History

def Request.line? : Request → Option String
  | .submit line => some line
  | .script _ | .transcript => none

namespace Console
variable {c : Console} {lines : List String}

theorem history_submit (c : Console) (line : String) : (c.accept (.submit line)).2.history =
    if Text.allBlank line.toList then c.history else (c.history.push line).2 := by
  have blank := Command.ofLine?_eq_none_iff line
  cases hl : Command.ofLine? line with
  | none => simp [accept, hl, blank.mp hl]
  | some command =>
    have filled : ¬ Text.allBlank line.toList = true := by rw [← blank, hl]; simp
    rw [if_neg filled]
    cases command <;> simp [accept, hl, record, respond, mapTranscript]

theorem keeps_accept (k : c.history.Keeps lines) (r : Request) :
    (c.accept r).2.history.Keeps (lines ++ r.line?.toList) := by
  cases r with
  | submit line =>
    rw [history_submit]
    cases hb : Text.allBlank line.toList with
    | true => exact k.blank hb
    | false => exact k.push line
  | script code => simpa [accept, mapTranscript, Request.line?] using k
  | transcript => simpa [accept, Request.line?] using k

theorem history_settle (c : Console) (x : Progress × Workspace) :
    (c.settle x).2.history = c.history := by
  obtain ⟨stage | report, w⟩ := x <;> rfl

theorem history_start (i : Interpreter) (c : Console) (r : Request) :
    (c.start i r).2.history = (c.accept r).2.history := by
  rw [start]
  obtain ⟨text | code, d⟩ := c.accept r
  · rfl
  · exact history_settle d _

theorem keeps_start (i : Interpreter) (k : c.history.Keeps lines) (r : Request) :
    (c.start i r).2.history.Keeps (lines ++ r.line?.toList) := by
  rw [history_start]
  exact keeps_accept k r

end Console

namespace Terminal
variable {i : Interpreter} {t : Terminal} {lines : List String}

def submits? (t : Terminal) (e : Event) : Option String :=
  match t.pending, e with
  | none, .ask r => r.line?
  | none, .enter => some t.console.input
  | _, _ => none

def submitted (i : Interpreter) : Terminal → List Event → List String
  | _, [] => []
  | t, e :: es => (t.submits? e).toList ++ submitted i (t.step i e).2 es

theorem submitted_append (i : Interpreter) (t : Terminal) (es es' : List Event) :
    t.submitted i (es ++ es') = t.submitted i es ++ (t.run i es).submitted i es' := by
  induction es generalizing t with
  | nil => rfl
  | cons e es ih => simp [submitted, ih, run]

theorem history_await (c : Console) : (await c).2.console.history = c.history := by
  cases hq : c.workspace.startup.settled? <;> simp [await, hq, Console.mapTranscript]

theorem history_look (i : Interpreter) (t : Terminal) :
    (t.look i).2.console.history = t.console.history :=
  look_keeps (R := fun c d => d.history = c.history) (fun _ => rfl)
    (fun c _ => Console.history_settle c _) history_await t

theorem history_cancel (t : Terminal) : t.cancel.console.history = t.console.history :=
  cancel_keeps (R := fun c d => d.history = c.history) (fun _ => rfl) (fun _ _ => rfl) t

/-- While something is under way, nothing is kept and nothing recalled. -/
theorem history_of_pending (i : Interpreter) (c : Console) (p : Pending) (e : Event) :
    (({ console := c, pending := some p } : Terminal).step i e).2.console.history = c.history := by
  cases e with
  | look => exact history_look i _
  | cancel => exact history_cancel _
  | _ => rfl

theorem keeps_step (k : t.console.history.Keeps lines) (e : Event) :
    (t.step i e).2.console.history.Keeps (lines ++ (t.submits? e).toList) := by
  obtain ⟨c, _ | p⟩ := t
  · cases e with
    | ask r =>
      rw [step_ask, console_ofStanding]
      exact Console.keeps_start i k r
    | enter =>
      rw [step_enter, console_ofStanding]
      exact Console.keeps_start i (c := c.takeInput.2) k c.takeInput.1
    | announce =>
      rw [step_announce, history_await]
      exact k.rest
    | recallPrevious => exact k.older.rest
    | recallNext => exact k.newer.rest
    | _ => exact k.rest
  · rw [history_of_pending]
    exact k.rest

theorem keeps_run (k : t.console.history.Keeps lines) (es : List Event) :
    (t.run i es).console.history.Keeps (lines ++ t.submitted i es) := by
  induction es generalizing t lines with
  | nil => exact k.rest
  | cons e es ih =>
    rw [submitted, ← List.append_assoc]
    exact ih (keeps_step k e)

/-- The history holds just the lines that were submitted and are not blank, in order, and one that
came several times in a row only once. Whatever else happens, entries are only added to it, none of
them is blank and no two neighbours are equal; and its cursor is at one of them or behind them. -/
theorem history_is_record (s : Settings) (w : Workspace) (i : Interpreter) (es : List Event) :
    let new : Terminal := { console := .ofSettings s w }
    let history := (new.run i es).console.history
    history.entries =
        ((new.submitted i es).filter fun line => !Text.allBlank line.toList).destutter (· ≠ ·) ∧
      (∀ more, history.entries <+: (new.run i (es ++ more)).console.history.entries) ∧
      (∀ line ∈ history.entries, Text.allBlank line.toList = false) ∧
      history.entries.IsChain (· ≠ ·) ∧ history.cursor ≤ history.entries.length := by
  intro new history
  have kept (es : List Event) : (new.run i es).console.history.Keeps (new.submitted i es) := by
    have fresh : new.console.history.Keeps [] := ⟨rfl, Nat.le_refl _⟩
    exact keeps_run fresh es
  have entries : history.entries = History.digest (new.submitted i es) := (kept es).entries
  refine ⟨entries, fun more => ?_, fun line hm => ?_, ?_, (kept es).cursor⟩
  · rw [entries, (kept (es ++ more)).entries, submitted_append]
    exact History.digest_prefix _ _
  · rw [entries] at hm
    exact History.not_blank_of_mem_digest hm
  · rw [entries]
    exact List.isChain_destutter _ _

end Terminal

end Workpad
