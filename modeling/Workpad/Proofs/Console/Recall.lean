import Workpad.Proofs.Console.Record

/-!
Recall. The cursor of a history walks over the entries and the fresh line behind them: back, it stays
at the oldest entry, and forth, at the fresh line. The input line shows the entry that the cursor is at.
-/
namespace Workpad

namespace History
variable {h : History} {lines : List String} {k : Nat}

inductive Move where
  | push (line : String)
  | older
  | newer

def Move.line? : Move → Option String
  | .push line => some line
  | .older | .newer => none

def step (h : History) : Move → History
  | .push line => (h.push line).2
  | .older => h.older.2
  | .newer => h.newer.2

def run (h : History) (ms : List Move) : History := ms.foldl step h

/-- What is recalled the `k`th time in a row, and the history then. -/
def again (h : History) (turn : History → Option String × History) : Nat → Option String × History
  | 0 => (none, h)
  | k + 1 => turn (h.again turn k).2

theorem Keeps.step (kept : h.Keeps lines) (m : Move) :
    (h.step m).Keeps (lines ++ m.line?.toList) := by
  cases m with
  | push line => exact kept.push line
  | older => exact kept.older.rest
  | newer => exact kept.newer.rest

theorem Keeps.run (kept : h.Keeps lines) (ms : List Move) :
    (h.run ms).Keeps (lines ++ ms.flatMap fun m => m.line?.toList) := by
  induction ms generalizing h lines with
  | nil => exact kept.rest
  | cons m ms ih =>
    rw [List.flatMap_cons, ← List.append_assoc]
    exact ih (kept.step m)

/-- A new history and all that can be made of it have the cursor at an entry or behind them. -/
theorem cursor_run_le (ms : List Move) :
    (run {} ms).cursor ≤ (run {} ms).entries.length := by
  have fresh : ({} : History).Keeps [] := ⟨rfl, Nat.le_refl _⟩
  exact (fresh.run ms).cursor

theorem older_eq (bound : h.cursor ≤ h.entries.length) :
    h.older = (h.entries[h.cursor - 1]?, { h with cursor := h.cursor - 1 }) := by
  rw [older]
  split
  next empty =>
    obtain ⟨entries, cursor⟩ := h
    obtain rfl : entries = [] := List.isEmpty_iff.mp empty
    obtain rfl : cursor = 0 := Nat.le_zero.mp bound
    rfl
  next => rfl

theorem newer_eq (h : History) : h.newer =
    (h.entries[h.cursor + 1]?, { h with cursor := min (h.cursor + 1) h.entries.length }) := by
  rw [newer]
  split
  next inside => rw [Nat.min_eq_left (Nat.le_of_lt inside)]
  next outside =>
    have last : h.entries.length ≤ h.cursor + 1 := Nat.le_of_not_lt outside
    rw [Nat.min_eq_right last, List.getElem?_eq_none last]

theorem stays_of_no_entries (bound : h.cursor ≤ h.entries.length) (empty : h.entries = []) :
    h.older = (none, h) ∧ h.newer = (none, h) ∧ h.cursor = 0 := by
  obtain ⟨entries, cursor⟩ := h
  obtain rfl : entries = [] := empty
  obtain rfl : cursor = 0 := Nat.le_zero.mp bound
  exact ⟨rfl, rfl, rfl⟩

theorem entries_older (h : History) : h.older.2.entries = h.entries := by
  unfold older
  split <;> rfl

theorem entries_newer (h : History) : h.newer.2.entries = h.entries := by
  unfold newer
  split <;> rfl

/-- Back and forth again, unless there was nothing to go back to. -/
theorem newer_older (bound : h.cursor ≤ h.entries.length) (inside : h.cursor ≠ 0) :
    h.older.2.newer.2 = h := by
  have forth : min (h.cursor - 1 + 1) h.entries.length = h.cursor := by omega
  rw [older_eq bound, newer_eq]
  simp only [forth]

/-- Going back again and again, the cursor gets to the oldest entry and stays there. -/
theorem again_older (bound : h.cursor ≤ h.entries.length) (pos : 1 ≤ k) :
    h.again older k = (h.entries[h.cursor - k]?, { h with cursor := h.cursor - k }) := by
  induction k, pos using Nat.le_induction with
  | base => exact older_eq bound
  | succ k pos ih =>
    have back : h.cursor - k ≤ h.entries.length := by omega
    rw [again, ih, older_eq (h := { h with cursor := h.cursor - k }) back, Nat.sub_sub]

/-- Going forth again and again, the cursor gets to the fresh line and stays there. -/
theorem again_newer (h : History) (pos : 1 ≤ k) : h.again newer k =
    (h.entries[h.cursor + k]?, { h with cursor := min (h.cursor + k) h.entries.length }) := by
  induction k, pos using Nat.le_induction with
  | base => exact newer_eq h
  | succ k pos ih =>
    rw [again, ih, newer_eq]
    obtain inside | outside := Nat.le_total (h.cursor + k) h.entries.length
    · simp only [Nat.min_eq_left inside, Nat.add_assoc]
    · have here : h.entries.length ≤ h.entries.length + 1 := Nat.le_succ _
      have there : h.entries.length ≤ h.cursor + (k + 1) := by omega
      simp only [Nat.min_eq_right outside, Nat.min_eq_right here, Nat.min_eq_right there,
        List.getElem?_eq_none here, List.getElem?_eq_none there]

end History

namespace Console
variable {c : Console}

theorem exists_moves_accept (c : Console) (r : Request) :
    ∃ ms, (c.accept r).2.history = c.history.run ms := by
  cases r with
  | submit line =>
    rw [history_submit]
    split
    · exact ⟨[], rfl⟩
    · exact ⟨[.push line], rfl⟩
  | script code => exact ⟨[], rfl⟩
  | transcript => exact ⟨[], rfl⟩

theorem exists_moves_start (i : Interpreter) (c : Console) (r : Request) :
    ∃ ms, (c.start i r).2.history = c.history.run ms := by
  rw [history_start]
  exact exists_moves_accept c r

/-- An entry that was brought once is brought by every step back. -/
theorem recallPrevious_again (bound : c.history.cursor ≤ c.history.entries.length) (k : Nat) :
    recallPrevious^[k] c = { c with
      history := (c.history.again History.older k).2
      input := (c.history.again History.older k).1.getD c.input } := by
  induction k with
  | zero => rfl
  | succ k ih =>
    have input : (c.history.again History.older (k + 1)).1.getD
        ((c.history.again History.older k).1.getD c.input) =
        (c.history.again History.older (k + 1)).1.getD c.input := by
      cases k with
      | zero => rfl
      | succ k =>
        rw [History.again_older bound (by omega), History.again_older bound (by omega)]
        cases empty : c.history.entries with
        | nil => simp
        | cons entry entries =>
          have inside : c.history.cursor - (k + 1 + 1) < (entry :: entries).length := by
            rw [empty] at bound
            simp only [List.length_cons] at bound ⊢
            omega
          simp [List.getElem?_eq_getElem inside]
    rw [Function.iterate_succ_apply', ih, ← input]
    rfl

theorem recallPrevious_of_no_entries (bound : c.history.cursor ≤ c.history.entries.length)
    (empty : c.history.entries = []) : c.recallPrevious = c := by
  rw [recallPrevious, (History.stays_of_no_entries bound empty).1]
  rfl

theorem recallNext_again (c : Console) {k : Nat} (pos : 1 ≤ k) :
    recallNext^[k] c = { c with
      history := (c.history.again History.newer k).2
      input := (c.history.again History.newer k).1.getD "" } := by
  induction k, pos using Nat.le_induction with
  | base => rfl
  | succ k pos ih =>
    rw [Function.iterate_succ_apply', ih]
    rfl

end Console

namespace Terminal
variable {i : Interpreter}

/-- What happens at a terminal does nothing else to its history than push lines and recall them. -/
theorem exists_moves_step (i : Interpreter) (t : Terminal) (e : Event) :
    ∃ ms, (t.step i e).2.console.history = t.console.history.run ms := by
  obtain ⟨c, _ | p⟩ := t
  · cases e with
    | ask r =>
      rw [step_ask, console_ofStanding]
      exact Console.exists_moves_start i c r
    | enter =>
      rw [step_enter, console_ofStanding]
      exact Console.exists_moves_start i c.takeInput.2 c.takeInput.1
    | announce =>
      rw [step_announce, history_await]
      exact ⟨[], rfl⟩
    | recallPrevious => exact ⟨[.older], rfl⟩
    | recallNext => exact ⟨[.newer], rfl⟩
    | _ => exact ⟨[], rfl⟩
  · rw [history_of_pending]
    exact ⟨[], rfl⟩

theorem exists_moves_run (i : Interpreter) (t : Terminal) (es : List Event) :
    ∃ ms, (t.run i es).console.history = t.console.history.run ms := by
  induction es generalizing t with
  | nil => exact ⟨[], rfl⟩
  | cons e es ih =>
    obtain ⟨ms, step⟩ := exists_moves_step i t e
    obtain ⟨ms', rest⟩ := ih (t.step i e).2
    refine ⟨ms ++ ms', ?_⟩
    rw [run_cons, rest, step, History.run, History.run, History.run, List.foldl_append]

/-- After any push to a history that was made by pushes and recalls, the `k`th step back in a row brings
the `k`th entry from the end, and the oldest one from there on; and the `j`th step forth after that
brings the entry so many places on, or none from the fresh line on. Back and forth again, the history
is as it was, unless the cursor was at the oldest entry; the entries are never changed; and without
entries nothing is brought and nothing moves. A console has such a history, and its input line becomes
what is brought, or empty on the fresh line; without entries a step back leaves it as it was. -/
theorem recall_walks_entries :
    (∀ ms,
      let h := History.run {} ms
      (∀ line,
        let fresh := (h.push line).2
        let n := fresh.entries.length
        0 < n → ∀ k, 1 ≤ k →
          let back := fresh.again History.older k
          (∃ inside : n - k < n,
            back = (some fresh.entries[n - k], { fresh with cursor := n - k })) ∧
          ∀ j, 1 ≤ j → back.2.again History.newer j =
            (if inside : n - k + j < n then some fresh.entries[n - k + j] else none,
              { fresh with cursor := min (n - k + j) n })) ∧
      (h.cursor ≠ 0 → h.older.2.newer.2 = h) ∧
      h.older.2.entries = h.entries ∧ h.newer.2.entries = h.entries ∧
      (h.entries = [] → h.older = (none, h) ∧ h.newer = (none, h) ∧ h.cursor = 0)) ∧
    ∀ (s : Settings) (w : Workspace) (i : Interpreter) (es : List Event),
      let c := (run i { console := .ofSettings s w } es).console
      (∃ ms, c.history = History.run {} ms) ∧
      ∀ k j,
        let back := Console.recallPrevious^[k] c
        let forth := Console.recallNext^[j] back
        back.history = (c.history.again History.older k).2 ∧
        back.input = (c.history.again History.older k).1.getD c.input ∧
        (c.history.entries = [] → back = c) ∧
        forth.history = (back.history.again History.newer j).2 ∧
        (1 ≤ j → forth.input = (back.history.again History.newer j).1.getD "") := by
  refine ⟨fun ms => ?_, fun s w i es => ?_⟩
  · intro h
    have bound : h.cursor ≤ h.entries.length := History.cursor_run_le ms
    refine ⟨fun line => ?_, History.newer_older bound, h.entries_older, h.entries_newer,
      History.stays_of_no_entries bound⟩
    intro fresh n filled k pos back
    have walked : back = (fresh.entries[n - k]?, { fresh with cursor := n - k }) :=
      History.again_older (h := fresh) (Nat.le_refl n) pos
    have inside : n - k < n := by omega
    rw [walked]
    refine ⟨⟨inside, Prod.ext (List.getElem?_eq_getElem inside) rfl⟩, fun j pos' => ?_⟩
    rw [History.again_newer _ pos']
    exact Prod.ext (getElem?_def _ _) rfl
  · intro c
    obtain ⟨ms, made⟩ := exists_moves_run i { console := .ofSettings s w } es
    have made : c.history = History.run {} ms := made
    have bound : c.history.cursor ≤ c.history.entries.length := made ▸ History.cursor_run_le ms
    refine ⟨⟨ms, made⟩, fun k j => ?_⟩
    intro back forth
    have walked := Console.recallPrevious_again bound k
    refine ⟨congrArg Console.history walked, congrArg Console.input walked, fun empty => ?_, ?_,
      fun pos => congrArg Console.input (Console.recallNext_again back pos)⟩
    · exact Function.iterate_fixed (Console.recallPrevious_of_no_entries bound empty) k
    · cases j with
      | zero => rfl
      | succ j => exact congrArg Console.history (Console.recallNext_again back (Nat.succ_pos j))

/-- A line that is not recorded, being the newest again, after a walk that was broken off. -/
theorem recall_after_repeated_line :
    let h := History.run {} [.push "a", .push "b", .push "c", .older, .older]
    let fresh := (h.push "c").2
    let back := fresh.again History.older 4
    h.cursor = 1 ∧ fresh.entries = ["a", "b", "c"] ∧ 0 < fresh.entries.length ∧
      back.1 = some "a" ∧ (back.2.again History.newer 2).1 = some "c" ∧
      (back.2.again History.newer 3).1 = none ∧ (back.2.again History.newer 5).2.cursor = 3 := by
  intro h fresh back
  obtain ⟨⟨_, oldest⟩, forth⟩ := (recall_walks_entries.1
    [.push "a", .push "b", .push "c", .older, .older]).1 "c" (by decide) 4 (by decide)
  refine ⟨by decide, by decide, by decide, ?_⟩
  simp only [back, fresh, h]
  rw [forth 2 (by decide), forth 3 (by decide), forth 5 (by decide), oldest]
  exact ⟨rfl, rfl, rfl, rfl⟩

end Terminal

end Workpad
