import Workpad.Settings.Setters

/-!
What settings are after any row of setter calls. Each is what the last call for it was passed, whatever
is called in between, but for the timeout: what a length of time has beyond its whole seconds is lost.
-/
namespace Workpad

theorem Duration.whole_eq_iff (d : Duration) : d.whole = d ↔ d.nanoseconds = 0 := by
  obtain ⟨seconds, nanoseconds⟩ := d
  simp [whole, eq_comm]

theorem Duration.whole_eq_zero_iff (d : Duration) : d.whole = ⟨0, 0⟩ ↔ d.seconds = 0 := by
  simp [whole]

namespace Settings

def Key.kept : (k : Key) → k.Value → k.Value
  | .fetchTimeout => Duration.whole
  | .runtimeLocation | .plotKeyword | .plotPrelude | .icons | .helpWrapWidth => id

def Call.passed? (k : Key) (c : Call) : Option k.Value :=
  if h : c.key = k then some (h ▸ c.value) else none

def passed (k : Key) (cs : List Call) : List k.Value := cs.filterMap (Call.passed? k)

variable {k l : Key} {c c' : Call} {s t : Settings} {cs cs' : List Call}

theorem Key.kept_of_ne (h : k ≠ .fetchTimeout) : k.kept = id := by
  cases k <;> first | rfl | contradiction

/-! One call: what is set is read back, and nothing else is touched. -/

theorem Key.read_set (k : Key) (v : k.Value) (s : Settings) : k.read (k.set v s) = k.kept v := by
  cases k <;> rfl

theorem Key.read_set_of_ne (h : l ≠ k) (v : l.Value) (s : Settings) :
    k.read (l.set v s) = k.read s := by
  cases k <;> cases l <;> first | rfl | contradiction

theorem Key.maxRuntimeBytes_set (k : Key) (v : k.Value) (s : Settings) :
    (k.set v s).maxRuntimeBytes = s.maxRuntimeBytes := by
  cases k <;> rfl

/-- Settings are told apart by what is read of them; the timeout's number of seconds is among that. -/
theorem eq_of_read (same : ∀ k : Key, k.read s = k.read t)
    (limit : s.maxRuntimeBytes = t.maxRuntimeBytes) : s = t := by
  have seconds := congrArg Duration.seconds (same .fetchTimeout)
  cases s
  cases t
  rw [Settings.mk.injEq]
  exact ⟨same .runtimeLocation, seconds, limit, same .plotKeyword, same .plotPrelude, same .icons,
    same .helpWrapWidth⟩

/-! Rows of calls. -/

theorem build_cons (s : Settings) (c : Call) (cs : List Call) :
    s.build (c :: cs) = (c.make s).build cs := rfl

theorem passed?_self (c : Call) : c.passed? c.key = some c.value := by
  simp [Call.passed?]

theorem passed?_of_ne (h : c.key ≠ k) : c.passed? k = none := by
  simp [Call.passed?, h]

theorem passed_cons_self (c : Call) (cs : List Call) :
    passed c.key (c :: cs) = c.value :: passed c.key cs :=
  List.filterMap_cons_some (passed?_self c)

theorem passed_cons_of_ne (h : c.key ≠ k) (cs : List Call) : passed k (c :: cs) = passed k cs :=
  List.filterMap_cons_none (passed?_of_ne h)

theorem read_build (k : Key) (s : Settings) (cs : List Call) :
    k.read (s.build cs) = ((passed k cs).map k.kept).getLastD (k.read s) := by
  induction cs generalizing s with
  | nil => rfl
  | cons c cs ih =>
    rw [build_cons, ih, Call.make]
    by_cases h : c.key = k
    · subst h
      rw [passed_cons_self, List.map_cons, List.getLastD_cons, Key.read_set]
    · rw [passed_cons_of_ne h, Key.read_set_of_ne h]

theorem maxRuntimeBytes_build (s : Settings) (cs : List Call) :
    (s.build cs).maxRuntimeBytes = s.maxRuntimeBytes := by
  induction cs generalizing s with
  | nil => rfl
  | cons c cs ih => exact (ih (c.make s)).trans (c.key.maxRuntimeBytes_set c.value s)

/-- Only the last call for each setting counts. -/
theorem build_congr (h : ∀ k, (passed k cs').getLast? = (passed k cs).getLast?) (s : Settings) :
    s.build cs' = s.build cs := by
  refine eq_of_read (fun k => ?_) ?_
  · rw [read_build, read_build, List.getLastD_eq_getLast?, List.getLastD_eq_getLast?,
      List.getLast?_map, List.getLast?_map, h k]
  · rw [maxRuntimeBytes_build, maxRuntimeBytes_build]

/-- No setting hears of both calls, so none hears of their order. -/
theorem passed_swap (h : c.key ≠ c'.key) (k : Key) (before after : List Call) :
    passed k (before ++ c' :: c :: after) = passed k (before ++ c :: c' :: after) := by
  have apart : c.key ≠ k ∨ c'.key ≠ k := by
    by_cases hc : c.key = k
    · exact .inr fun hc' => h (hc.trans hc'.symm)
    · exact .inl hc
  obtain none | none := apart <;>
    simp [passed, List.filterMap_append, List.filterMap_cons, passed?_of_ne none]

/-- Each setting is what the last call for it was passed, or what it was at first if there was no call
for it; the limit of size has no setter and stays. So calls for different settings may trade places.
The timeout is cut to whole seconds: it is what was passed just if that had no part of a second, and
it is no time at all, although some was passed, just if that was less than a second. -/
theorem last_call_decides (s : Settings) (cs : List Call) :
    let r := s.build cs
    (∀ k, k ≠ .fetchTimeout → k.read r = (passed k cs).getLastD (k.read s)) ∧
      r.fetchTimeout = ((passed .fetchTimeout cs).map Duration.whole).getLastD s.fetchTimeout ∧
      (∀ d, (passed .fetchTimeout cs).getLast? = some d →
        (r.fetchTimeout = d ↔ d.nanoseconds = 0) ∧
        (r.fetchTimeout = ⟨0, 0⟩ ∧ d ≠ ⟨0, 0⟩ ↔ d.seconds = 0 ∧ d.nanoseconds ≠ 0)) ∧
      r.maxRuntimeBytes = s.maxRuntimeBytes ∧
      (∀ cs', (∀ k, (passed k cs').getLast? = (passed k cs).getLast?) → s.build cs' = r) ∧
      ∀ before c c' after, cs = before ++ c :: c' :: after → c.key ≠ c'.key →
        s.build (before ++ c' :: c :: after) = r := by
  intro r
  have timeout : r.fetchTimeout =
      ((passed .fetchTimeout cs).map Duration.whole).getLastD s.fetchTimeout :=
    read_build .fetchTimeout s cs
  refine ⟨fun k other => ?_, timeout, fun d last => ?_, maxRuntimeBytes_build s cs,
    fun cs' same => build_congr same s, ?_⟩
  · rw [read_build, Key.kept_of_ne other, List.map_id]
  · have cut : r.fetchTimeout = d.whole := by
      rw [timeout, List.getLastD_eq_getLast?, List.getLast?_map, last]
      rfl
    rw [cut, d.whole_eq_zero_iff]
    refine ⟨d.whole_eq_iff, and_congr_right fun short => not_congr ?_⟩
    rw [← d.whole_eq_zero_iff.mpr short, eq_comm, d.whole_eq_iff]
  · rintro before c c' after rfl apart
    exact build_congr (fun k => congrArg List.getLast? (passed_swap apart k before after)) s

/-- A part of a second is passed and then whole seconds, with another setter called before or after. -/
theorem last_call_decides_twice :
    let long : Call := ⟨.fetchTimeout, ⟨1, 500000000⟩⟩
    let whole : Call := ⟨.fetchTimeout, ⟨2, 0⟩⟩
    let keyword : Call := ⟨.plotKeyword, "plotly"⟩
    let r := build {} [long, keyword, whole]
    keyword.key ≠ .fetchTimeout ∧ r.plotKeyword = "plotly" ∧
      (passed .fetchTimeout [long, keyword, whole]).getLast? = some ⟨2, 0⟩ ∧
      r.fetchTimeout = ⟨2, 0⟩ ∧ build {} [long, whole, keyword] = r := by
  intro long whole keyword r
  obtain ⟨others, -, timeout, -, -, swap⟩ := last_call_decides {} [long, keyword, whole]
  have other : keyword.key ≠ .fetchTimeout := by decide
  have last : (passed .fetchTimeout [long, keyword, whole]).getLast? = some ⟨2, 0⟩ := rfl
  exact ⟨other, others .plotKeyword other, last, (timeout _ last).1.mpr rfl,
    swap [long] keyword whole [] rfl other⟩

/-- Half a second is passed, and no time is read back. -/
theorem half_second_reads_as_zero :
    let d := Duration.ofMilliseconds 500
    let r := build {} [⟨.fetchTimeout, d⟩]
    (passed .fetchTimeout [⟨.fetchTimeout, d⟩]).getLast? = some d ∧ d ≠ ⟨0, 0⟩ ∧
      r.fetchTimeout ≠ d ∧ r.fetchTimeout = ⟨0, 0⟩ := by
  decide +kernel

end Settings

end Workpad
