import Workpad.Plot.Bench
import Workpad.Proofs.Named
import Workpad.Proofs.Plot.Prepare

/-!
Who holds the slot. Code prepared at any time, finished or dropped late, and others who claim and
release the slot: it is held by the one claim that was not released since, and a claim made for
prepared code does not outlive that code.
-/
namespace Workpad

/-- What happens to a slot: a claim that succeeds, or a release, whoever holds it. -/
inductive Deed where
  | claim (id : TargetId)
  | release (id : TargetId)
deriving DecidableEq, Repr

/-- The claims that were not released since, in order. -/
def outstanding : List Deed → List TargetId
  | [] => []
  | .claim id :: log =>
    if .release id ∈ log then outstanding log else id :: outstanding log
  | .release _ :: log => outstanding log

theorem outstanding_claim (log : List Deed) (id : TargetId) :
    outstanding (log ++ [.claim id]) = outstanding log ++ [id] := by
  induction log with
  | nil => simp [outstanding]
  | cons d log ih =>
    cases d with
    | release _ => exact ih
    | claim other => by_cases h : .release other ∈ log <;> simp [outstanding, h, ih]

theorem outstanding_release (log : List Deed) (id : TargetId) :
    outstanding (log ++ [.release id]) = (outstanding log).filter (· != id) := by
  induction log with
  | nil => rfl
  | cons d log ih =>
    cases d with
    | release _ => exact ih
    | claim other =>
      by_cases h : .release other ∈ log
      · simp [outstanding, h, ih]
      · by_cases ho : other = id
        · subst ho
          simp [outstanding, h, ih]
        · simp [outstanding, h, ho, ih]

theorem mem_outstanding {before after : List Deed} {id : TargetId}
    (once : .claim id ∉ before ++ after) :
    id ∈ outstanding (before ++ .claim id :: after) ↔ .release id ∉ after := by
  have absent (log : List Deed) (h : .claim id ∉ log) : id ∉ outstanding log := by
    induction log with
    | nil => simp [outstanding]
    | cons d log ih =>
      have ih := ih fun hm => h (List.mem_cons_of_mem d hm)
      cases d with
      | release _ => exact ih
      | claim other =>
        have ho : id ≠ other := by rintro rfl; simp at h
        by_cases hr : .release other ∈ log <;> simp [outstanding, hr, ih, ho]
  induction before with
  | nil =>
    have ha := absent after once
    by_cases hr : .release id ∈ after <;> simp [outstanding, hr, ha]
  | cons d before ih =>
    have ih := ih fun hm => once (List.mem_cons_of_mem d hm)
    cases d with
    | release _ => exact ih
    | claim other =>
      have ho : id ≠ other := by rintro rfl; simp at once
      rw [List.cons_append, outstanding]
      split
      · exact ih
      · rw [List.mem_cons]
        simpa [ho] using ih

namespace Slot

def giveBack (s : Slot) : Option TargetId → Slot
  | none => s
  | some id => (s.release id).2

/-- Only what is held by that target is freed. -/
theorem holder_giveBack (s : Slot) (own : Option TargetId) :
    (s.giveBack own).holder = if s.holder = own then none else s.holder := by
  cases own with
  | none => by_cases h : s.holder = none <;> simp [giveBack, h]
  | some id => by_cases h : s.holder = some id <;> simp [giveBack, release, h]

def Accounts (s : Slot) (log : List Deed) : Prop := outstanding log = s.holder.toList

variable {s : Slot} {log : List Deed}

theorem Accounts.claim (h : s.Accounts log) (free : s.holder = none) (id : TargetId) :
    Accounts ⟨some id⟩ (log ++ [.claim id]) := by
  have ho : outstanding log = [] := by simpa [Accounts, free] using h
  simp [Accounts, outstanding_claim, ho]

theorem Accounts.giveBack (h : s.Accounts log) (own : Option TargetId) :
    (s.giveBack own).Accounts (log ++ (own.map .release).toList) := by
  cases own with
  | none => simpa [Slot.giveBack] using h
  | some id =>
    have ho : outstanding log = s.holder.toList := h
    rw [Accounts, holder_giveBack, Option.map_some, Option.toList_some, outstanding_release, ho]
    cases hs : s.holder with
    | none => simp
    | some holder => by_cases hi : holder = id <;> simp [hi]

end Slot

namespace Bench
variable {b : Bench}

def claimed? : Event → Answer → Option TargetId
  | .claim id, .claimed => some id
  | _, .prepared p => p.target
  | _, _ => none

def released? (b : Bench) : Event → Option TargetId
  | .release id => some id
  | .releaseFor name | .finish name | .drop name | .prepare name _ => b.target? name
  | .attach _ _ | .claim _ | .clear => none

/-- What an event does to the slot. Code that is replaced goes when the new code is there. -/
def deeds (b : Bench) (e : Event) : List Deed :=
  ((claimed? e (b.step e).1).map .claim).toList ++ ((b.released? e).map .release).toList

def log : Bench → List Event → List Deed
  | _, [] => []
  | b, e :: es => b.deeds e ++ log (b.step e).2 es

def Answer.target? : Answer → Option TargetId
  | .prepared p => p.target
  | _ => none

def made : Bench → List Event → List TargetId
  | _, [] => []
  | b, e :: es => (b.step e).1.target?.toList ++ made (b.step e).2 es

def taken (b : Bench) : List TargetId := (List.range b.plotter.minted).map b.plotter.supply.id

theorem nextId_not_mem_taken (b : Bench) : b.plotter.nextId ∉ b.taken := by
  intro h
  obtain ⟨n, hn, he⟩ := List.mem_map.mp h
  have := b.plotter.supply.distinct _ _ he
  have := List.mem_range.mp hn
  omega

/-! What the events do to names, slot and supply. -/

theorem target?_forget (b : Bench) (name other : String) :
    (b.forget name).target? other = if other = name then none else b.target? other := by
  rw [target?, alive?, forget, lookup_filter_ne]
  by_cases h : other = name <;> simp [h, target?, alive?]

theorem drop_parts (b : Bench) (name : String) :
    (b.drop name).plotter.slot = b.plotter.slot.giveBack (b.target? name) ∧
      (b.drop name).taken = b.taken ∧
      ∀ other, (b.drop name).target? other =
        if other = name then none else b.target? other := by
  have hf := target?_forget b name
  cases hp : b.alive? name with
  | none =>
    have ht : b.target? name = none := by simp [target?, hp]
    refine ⟨by simp [drop, hp, ht, Slot.giveBack], by simp [drop, hp], fun other => ?_⟩
    by_cases h : other = name <;> simp [drop, hp, h, ht]
  | some p =>
    have ht : b.target? name = p.target := by simp [target?, hp]
    have ha : b.plotter.abandon p =
        { b.plotter with slot := b.plotter.slot.giveBack (b.target? name) } := by
      rw [ht]
      cases h : p.target <;> simp [Plotter.abandon, h, Slot.giveBack]
    refine ⟨by simp [drop, hp, ha], by simp [drop, hp, ha, taken], fun other => ?_⟩
    rw [← hf other, drop, hp]
    rfl

theorem finish_parts (b : Bench) (name : String) :
    (b.finish name).plotter = (b.drop name).plotter ∧
      (b.finish name).alive = (b.drop name).alive := by
  cases hp : b.alive? name with
  | none => simp [finish, drop, hp]
  | some p =>
    cases ht : p.target <;> simp [finish, drop, hp, Plotter.finish, Plotter.abandon, ht, forget]

/-- The slot goes to the new target if there is one, before the code in the old place is dropped. -/
theorem prepare_parts (b : Bench) (name code : String) :
    (b.prepare name code).1.target =
        (if b.plotter.detects code = true ∧ b.plotter.slot.holder = none then
          some b.plotter.nextId else none) ∧
      (b.prepare name code).2.plotter.slot =
        ((b.prepare name code).1.target.elim b.plotter.slot fun id => ⟨some id⟩).giveBack
          (b.target? name) ∧
      (b.prepare name code).2.taken = b.taken ++ (b.prepare name code).1.target.toList ∧
      ∀ other, (b.prepare name code).2.target? other =
        if other = name then (b.prepare name code).1.target else b.target? other := by
  have claims := b.plotter.prepare_eq code b.transcript
  generalize hx : b.plotter.prepare code b.transcript = x at claims
  obtain ⟨p, plotter, transcript⟩ := x
  have target : p.target = if b.plotter.detects code = true ∧ b.plotter.slot.holder = none then
      some b.plotter.nextId else none := by
    split at claims <;> simp_all
  have claimed : plotter = if b.plotter.detects code = true ∧ b.plotter.slot.holder = none then
      { b.plotter.mint with slot := ⟨some b.plotter.nextId⟩ } else b.plotter := by
    split at claims <;> simp_all
  obtain ⟨slot, taken, names⟩ := drop_parts { b with plotter, transcript } name
  have hp : b.prepare name code =
      (p, { drop { b with plotter, transcript } name with
        alive := (name, p) :: (drop { b with plotter, transcript } name).alive }) := by
    simp only [prepare, hx]
  rw [hp]
  refine ⟨target, slot.trans ?_, taken.trans ?_, fun other => ?_⟩
  · rw [claimed, target]
    split <;> rfl
  · rw [Bench.taken, claimed, target]
    split <;> simp [Bench.taken, Plotter.mint, Plotter.nextId, List.range_succ]
  · have found := names other
    rw [target?, alive?, List.lookup_cons]
    by_cases h : other = name
    · simp [h]
    · have hf : (other == name) = false := by simpa using h
      rw [hf, if_neg h]
      rw [if_neg h] at found
      exact found

/-- How a bench stands when `log` was done to its slot, if no more than `ids` are taken in the end. -/
structure Owned (ids : List TargetId) (b : Bench) (log : List Deed) : Prop where
  accounts : b.plotter.slot.Accounts log
  alive : ∀ name id, b.target? name = some id → id ∈ b.taken
  once : ∀ id ∈ b.taken, log.count (.claim id) = 1
  unused : ∀ id ∈ ids, id ∉ b.taken → .claim id ∉ log
  holder : ∀ id ∈ b.taken, b.plotter.slot.holder = some id → ∃ name, b.target? name = some id

variable {ids : List TargetId} {log : List Deed}

theorem count_releases (own : Option TargetId) (id : TargetId) :
    ((own.map Deed.release).toList).count (.claim id) = 0 := by
  cases own <;> simp

/-- A claim is given back, and nobody but the code that it was made for is forgotten. -/
theorem Owned.giveBack (h : b.Owned ids log) {b' : Bench} (own : Option TargetId)
    (slot : b'.plotter.slot = b.plotter.slot.giveBack own) (taken : b'.taken = b.taken)
    (names : ∀ name id, b'.target? name = some id → b.target? name = some id)
    (kept : ∀ name id, b.target? name = some id → own ≠ some id → b'.target? name = some id) :
    b'.Owned ids (log ++ (own.map .release).toList) := by
  refine ⟨?_, fun name id hn => ?_, fun id hi => ?_, fun id hi hn => ?_, fun id hi held => ?_⟩
  · rw [slot]
    exact h.accounts.giveBack own
  · rw [taken]
    exact h.alive name id (names name id hn)
  · rw [taken] at hi
    rw [List.count_append, h.once id hi, count_releases]
  · rw [taken] at hn
    have hu := h.unused id hi hn
    cases own <;> simpa using hu
  · rw [taken] at hi
    rw [slot, Slot.holder_giveBack] at held
    split at held
    · contradiction
    next other =>
      obtain ⟨name, hname⟩ := h.holder id hi held
      exact ⟨name, kept name id hname fun ho => other (held.trans ho.symm)⟩

/-- The code under a name goes, and gives its claim back. -/
theorem Owned.without (h : b.Owned ids log) {b' : Bench} {name : String}
    (slot : b'.plotter.slot = b.plotter.slot.giveBack (b.target? name)) (taken : b'.taken = b.taken)
    (names : ∀ other, b'.target? other = if other = name then none else b.target? other) :
    b'.Owned ids (log ++ ((b.target? name).map .release).toList) := by
  refine h.giveBack _ slot taken (fun other id hn => ?_) fun other id hn own => ?_
  · rw [names] at hn
    split at hn
    · contradiction
    · exact hn
  · rw [names]
    split
    next ho => exact (own (ho ▸ hn)).elim
    next => exact hn

theorem Owned.drop (h : b.Owned ids log) (name : String) :
    (b.drop name).Owned ids (log ++ ((b.target? name).map .release).toList) := by
  obtain ⟨slot, taken, names⟩ := drop_parts b name
  exact h.without slot taken names

/-- Only the slot counts, the supply, and which targets are alive. -/
theorem Owned.congr (h : b.Owned ids log) {b' : Bench} (plotter : b'.plotter = b.plotter)
    (alive : b'.alive = b.alive) : b'.Owned ids log := by
  have names (name : String) : b'.target? name = b.target? name := by
    rw [target?, target?, alive?, alive?, alive]
  have taken : b'.taken = b.taken := by rw [Bench.taken, Bench.taken, plotter]
  refine ⟨plotter ▸ h.accounts, ?_, ?_, ?_, ?_⟩
  · simpa only [names, taken] using h.alive
  · simpa only [taken] using h.once
  · simpa only [taken] using h.unused
  · simpa only [names, taken, plotter] using h.holder

theorem Owned.finish (h : b.Owned ids log) (name : String) :
    (b.finish name).Owned ids (log ++ ((b.target? name).map .release).toList) :=
  (h.drop name).congr (finish_parts b name).1 (finish_parts b name).2

/-- The next target of the supply gets the slot, and its code the place of other code that goes. -/
theorem Owned.withNext (h : b.Owned ids log) {b' : Bench} {name : String} {id : TargetId}
    (free : b.plotter.slot.holder = none) (next : b.plotter.nextId = id)
    (slot : b'.plotter.slot = (⟨some id⟩ : Slot).giveBack (b.target? name))
    (taken : b'.taken = b.taken ++ [id])
    (names : ∀ other, b'.target? other = if other = name then some id else b.target? other)
    (room : b'.taken ⊆ ids) :
    b'.Owned ids (log ++ [.claim id] ++ ((b.target? name).map .release).toList) := by
  have new : id ∉ b.taken := next ▸ b.nextId_not_mem_taken
  have unclaimed : .claim id ∉ log := h.unused id (room (by simp [taken])) new
  refine ⟨?_, fun other id' hn => ?_, fun id' hi => ?_, fun id' hi hn => ?_, fun id' hi held => ?_⟩
  · rw [slot]
    exact (h.accounts.claim free id).giveBack _
  · rw [names] at hn
    rw [taken]
    split at hn
    next => simp [← Option.some.inj hn]
    next => exact List.mem_append_left _ (h.alive other id' hn)
  · rw [taken, List.mem_append, List.mem_singleton] at hi
    rw [List.count_append, count_releases, List.count_append]
    obtain hi | rfl := hi
    · have ne : id ≠ id' := fun he => new (he ▸ hi)
      simp [h.once id' hi, ne]
    · simp [List.count_eq_zero.mpr unclaimed]
  · rw [taken, List.mem_append, List.mem_singleton, not_or] at hn
    have hu := h.unused id' hi hn.1
    cases b.target? name <;> simp [hu, hn.2]
  · rw [slot, Slot.holder_giveBack] at held
    split at held
    · contradiction
    next => exact ⟨name, by rw [names, if_pos rfl]; exact held⟩

theorem Owned.prepare (h : b.Owned ids log) (name code : String)
    (room : (b.prepare name code).2.taken ⊆ ids) :
    (b.prepare name code).2.Owned ids (log ++ ((b.prepare name code).1.target.map .claim).toList ++
      ((b.target? name).map .release).toList) := by
  obtain ⟨target, slot, taken, names⟩ := prepare_parts b name code
  generalize b.prepare name code = x at room target slot taken names ⊢
  obtain ⟨p, b'⟩ := x
  cases hp : p.target with
  | none =>
    simp only [hp, Option.elim_none, Option.toList_none, List.append_nil] at slot taken names
    simp only [Option.map_none, Option.toList_none, List.append_nil]
    exact h.without slot taken names
  | some id =>
    simp only [hp, Option.elim_some, Option.toList_some] at slot taken names
    obtain ⟨free, next⟩ : b.plotter.slot.holder = none ∧ b.plotter.nextId = id := by
      rw [hp] at target
      split at target
      next claims => exact ⟨claims.2, (Option.some.inj target).symm⟩
      next => contradiction
    exact h.withNext free next slot taken names room

theorem taken_step (b : Bench) (e : Event) :
    (b.step e).2.taken = b.taken ++ (b.step e).1.target?.toList := by
  cases e with
  | prepare name code => exact (prepare_parts b name code).2.2.1
  | finish name =>
    have hf : (b.finish name).taken = (b.drop name).taken := by
      rw [taken, taken, (finish_parts b name).1]
    simpa [step, Answer.target?] using hf.trans (drop_parts b name).2.1
  | drop name => simpa [step, Answer.target?] using (drop_parts b name).2.1
  | attach name c => cases ht : b.target? name <;> simp [step, attach, ht, Answer.target?, taken]
  | claim id =>
    cases hs : b.plotter.slot.holder <;>
      simp [step, claim, Slot.claim, hs, Answer.target?, taken, withSlot]
  | release id => simp [step, release, Answer.target?, taken, withSlot]
  | releaseFor name =>
    cases ht : b.target? name <;> simp [step, ht, release, Answer.target?, taken, withSlot]
  | clear => simp [step, Answer.target?, taken]

theorem Owned.claim (h : b.Owned ids log) {id : TargetId} (outside : id ∉ ids)
    (room : b.taken ⊆ ids) : (b.claim id).2.Owned ids
      (log ++ ((claimed? (.claim id) (b.claim id).1).map .claim).toList) := by
  cases hs : b.plotter.slot.holder with
  | some holder => simpa [Bench.claim, Slot.claim, hs, claimed?] using h
  | none =>
    have ne (id' : TargetId) (hi : id' ∈ ids) : id ≠ id' := fun he => outside (he ▸ hi)
    simp only [Bench.claim, Slot.claim, hs, claimed?, Option.map_some, Option.toList_some]
    refine ⟨h.accounts.claim hs id, h.alive, fun id' hi => ?_, fun id' hi hn => ?_, ?_⟩
    · simp [h.once id' hi, ne id' (room hi)]
    · simpa [(ne id' hi).symm] using h.unused id' hi hn
    · intro id' hi held
      exact (ne id' (room hi) (Option.some.inj held)).elim

theorem Owned.release (h : b.Owned ids log) (id : TargetId) :
    (b.release id).2.Owned ids (log ++ [.release id]) := by
  have slot : (b.release id).2.plotter.slot = b.plotter.slot.giveBack (some id) := rfl
  exact h.giveBack (some id) slot rfl (fun _ _ hn => hn) fun _ _ hn _ => hn

theorem Owned.step (h : b.Owned ids log) (e : Event) (room : (b.step e).2.taken ⊆ ids)
    (outside : ∀ id, e = .claim id → id ∉ ids) : (b.step e).2.Owned ids (log ++ b.deeds e) := by
  cases e with
  | prepare name code =>
    have hp := h.prepare name code room
    rwa [List.append_assoc] at hp
  | finish name => exact h.finish name
  | drop name => exact h.drop name
  | attach name c =>
    have quiet : log ++ b.deeds (.attach name c) = log := by
      cases ht : b.target? name <;> simp [deeds, Bench.step, attach, ht, claimed?, released?]
    rw [quiet]
    refine h.congr ?_ ?_ <;> cases ht : b.target? name <;> simp [Bench.step, attach, ht]
  | claim id =>
    rw [taken_step] at room
    have hc := h.claim (outside id rfl) fun x hx => room (List.mem_append_left _ hx)
    simpa [deeds, released?, Bench.step] using hc
  | release id => exact h.release id
  | releaseFor name =>
    cases ht : b.target? name with
    | none => simpa [Bench.step, deeds, ht, claimed?, released?] using h
    | some id =>
      have hr := h.release id
      simpa [Bench.step, deeds, ht, claimed?, released?, Bench.release] using hr
  | clear => simpa [deeds, Bench.step, claimed?, released?] using h.congr (by rfl) (by rfl)

theorem taken_run (b : Bench) (es : List Event) : (b.run es).taken = b.taken ++ b.made es := by
  induction es generalizing b with
  | nil => simp [run, made]
  | cons e es ih =>
    rw [made, ← List.append_assoc, ← taken_step]
    exact ih (b.step e).2

theorem Owned.run (h : b.Owned ids log) (es : List Event) (room : (b.run es).taken ⊆ ids)
    (outside : ∀ id, .claim id ∈ es → id ∉ ids) :
    (b.run es).Owned ids (log ++ b.log es) := by
  induction es generalizing b log with
  | nil => simpa [Bench.run, Bench.log] using h
  | cons e es ih =>
    have room' : (b.step e).2.taken ⊆ ids := fun x hx => room (by
      have ht := taken_run (b.step e).2 es
      exact ht ▸ List.mem_append_left _ hx)
    have hs := h.step e room' fun id he => outside id (by simp [he])
    have hr := ih hs room fun id hi => outside id (List.mem_cons_of_mem e hi)
    rwa [List.append_assoc] at hr

/-- The one claim for a target in its bench, and when it is still the one that holds the slot. -/
theorem Owned.holds_iff (h : b.Owned ids log) {id : TargetId} (taken : id ∈ b.taken) :
    ∃ before after, log = before ++ .claim id :: after ∧ .claim id ∉ before ++ after ∧
      (b.plotter.slot.holder = some id ↔ .release id ∉ after) := by
  have count := h.once id taken
  have claimed : .claim id ∈ log := List.count_pos_iff.mp (by omega)
  obtain ⟨before, after, rfl⟩ := List.append_of_mem claimed
  have once : .claim id ∉ before ++ after := by
    apply List.count_eq_zero.mp
    rw [List.count_append, List.count_cons_self] at count
    rw [List.count_append]
    omega
  refine ⟨before, after, rfl, once, ?_⟩
  have accounts : outstanding (before ++ .claim id :: after) = b.plotter.slot.holder.toList :=
    h.accounts
  rw [← mem_outstanding once, accounts, Option.mem_toList]

def fresh (s : Settings) (supply : Supply) (t : Transcript) : Bench where
  plotter := .ofSettings s supply
  transcript := t

/-- In whatever order code is prepared, finished and dropped while others claim and release the slot
under ids of their own: the slot is held by the one claim that was not released since. A claim
succeeds just if nobody holds it, finishing and dropping code free it just if the claim made for that
code still holds it, and no such claim is left behind by its code. -/
theorem slot_follows_claims (s : Settings) (supply : Supply) (t : Transcript) (es : List Event)
    (outside : ∀ id, .claim id ∈ es → id ∉ (fresh s supply t).made es) :
    let b := (fresh s supply t).run es
    let log := (fresh s supply t).log es
    let holder := b.plotter.slot.holder
    outstanding log = holder.toList ∧
    (∀ id, b.step (.claim id) =
      match holder with
      | none => (.claimed, b.withSlot ⟨some id⟩)
      | some other => (.held other, b)) ∧
    (∀ name code,
      let target := if b.plotter.detects code = true ∧ holder = none then
        some b.plotter.nextId else none
      let held := target.or holder
      (b.prepare name code).1.target = target ∧
      (b.prepare name code).2.plotter.slot.holder =
        if held = b.target? name then none else held) ∧
    (∀ name,
      let left := if holder = b.target? name then none else holder
      (b.finish name).plotter.slot.holder = left ∧ (b.drop name).plotter.slot.holder = left ∧
      ∀ id, b.target? name = some id →
        ∃ before after, log = before ++ .claim id :: after ∧ .claim id ∉ before ++ after ∧
          (holder = some id ↔ .release id ∉ after)) ∧
    ∀ id ∈ (fresh s supply t).made es, holder = some id →
      ∃ name, b.target? name = some id := by
  intro b log holder
  have start : (fresh s supply t).Owned ((fresh s supply t).made es) [] := by
    refine ⟨rfl, fun name id h => ?_, fun id h => ?_, fun id _ _ => ?_, fun id h => ?_⟩
    · simp [target?, alive?, fresh] at h
    · simp [Bench.taken, fresh, Plotter.ofSettings] at h
    · simp
    · simp [Bench.taken, fresh, Plotter.ofSettings] at h
  have taken : b.taken = (fresh s supply t).made es := by
    have none : (fresh s supply t).taken = [] := by simp [Bench.taken, fresh, Plotter.ofSettings]
    rw [taken_run, none, List.nil_append]
  have owned : b.Owned ((fresh s supply t).made es) log :=
    start.run es (fun id hid => taken ▸ hid) outside
  refine ⟨owned.accounts, fun id => ?_, fun name code => ?_, fun name => ⟨?_, ?_, fun id h => ?_⟩,
    fun id h held => owned.holder id (taken ▸ h) held⟩
  · cases hs : b.plotter.slot.holder <;> simp [Bench.step, Bench.claim, Slot.claim, hs, holder]
  · obtain ⟨target, slot, -, -⟩ := prepare_parts b name code
    refine ⟨target, ?_⟩
    rw [slot, Slot.holder_giveBack, target]
    split <;> rfl
  · rw [(finish_parts b name).1, (drop_parts b name).1, Slot.holder_giveBack]
  · rw [(drop_parts b name).1, Slot.holder_giveBack]
  · exact owned.holds_iff (owned.alive name id h)

/-- Code whose claim was released for it and who then is dropped late: the slot stays with whoever
claimed it in between. -/
theorem slot_follows_claims_late :
    let es := [.prepare "a" "import matplotlib", .releaseFor "a", .claim ⟨"lamp"⟩, .drop "a"]
    (∀ id, .claim id ∈ es → id ∉ (fresh {} .numbered {}).made es) ∧
      (fresh {} .numbered {}).made es = [Supply.numbered.id 0] ∧
      outstanding ((fresh {} .numbered {}).log es) = [⟨"lamp"⟩] ∧
      ((fresh {} .numbered {}).run es).plotter.slot.holder = some ⟨"lamp"⟩ := by
  intro es
  have made : (fresh {} .numbered {}).made es = [Supply.numbered.id 0] := by decide +kernel
  have outside (id : TargetId) (h : .claim id ∈ es) : id ∉ (fresh {} .numbered {}).made es := by
    obtain rfl : id = ⟨"lamp"⟩ := by simpa [es] using h
    rw [made]
    decide +kernel
  have left : outstanding ((fresh {} .numbered {}).log es) = [⟨"lamp"⟩] := by decide +kernel
  have holds := (slot_follows_claims {} .numbered {} es outside).1
  rw [left] at holds
  exact ⟨outside, made, left, Option.toList_eq_singleton_iff.mp holds.symm⟩

end Bench

end Workpad
