import Workpad.Files
import Workpad.Proofs.Named

/-!
What reading and writing come to. A file is read just where the way to it leads through directories, a
write changes the one place it is made at, and text is read just from bytes that encode it.
-/
namespace Workpad.Files
variable {fs fs' : Files} {p q : Path} {bytes : ByteArray}

def Leads (fs : Files) (p : Path) : Prop :=
  ∀ q name rest, p = q ++ name :: rest → fs.node? q = some .directory

structure HasFile (fs : Files) (p : Path) (bytes : ByteArray) : Prop where
  leads : fs.Leads p
  file : fs.node? p = some (.file bytes)

structure TakesFile (fs : Files) (p : Path) : Prop where
  leads : fs.Leads p
  free : fs.node? p ≠ some .directory

theorem node?_nil (fs : Files) : fs.node? [] = some .directory := if_pos rfl

/-- What is before a last name: the top, or behind the first name what is before the last one there. -/
theorem forall_before_cons {D : Path → Prop} {first : String} {p : Path} :
    (∀ q name rest, first :: p = q ++ name :: rest → D q) ↔
      D [] ∧ ∀ q name rest, p = q ++ name :: rest → D (first :: q) := by
  constructor
  · intro h
    exact ⟨h [] first p rfl, fun q name rest parts => h (first :: q) name rest (by simp [parts])⟩
  · rintro ⟨top, below⟩ q name rest parts
    cases q with
    | nil => exact top
    | cons x q =>
      rw [List.cons_append, List.cons.injEq] at parts
      obtain ⟨rfl, parts⟩ := parts
      exact below q name rest parts

theorem obstacle?_cons_cons_eq_none_iff (fs : Files) (seen : Path) (first second : String) (p : Path) :
    fs.obstacle? seen (first :: second :: p) = none ↔
      fs.node? (seen ++ [first]) = some .directory ∧
        fs.obstacle? (seen ++ [first]) (second :: p) = none := by
  simp only [obstacle?]
  split <;> simp [*]

/-- Below a directory, nothing is in the way just if all places before the last name are directories. -/
theorem obstacle?_eq_none_iff {seen : Path} (top : fs.node? seen = some .directory) (p : Path) :
    fs.obstacle? seen p = none ↔
      ∀ q name rest, p = q ++ name :: rest → fs.node? (seen ++ q) = some .directory := by
  induction p generalizing seen with
  | nil => simp [obstacle?]
  | cons first p ih =>
    rw [forall_before_cons (D := fun q => fs.node? (seen ++ q) = some .directory), List.append_nil]
    cases p with
    | nil => simp [obstacle?, top]
    | cons second p =>
      rw [obstacle?_cons_cons_eq_none_iff]
      constructor
      · rintro ⟨found, clear⟩
        have below := (ih found).mp clear
        simp only [List.append_assoc, List.singleton_append] at below
        exact ⟨top, below⟩
      · rintro ⟨-, below⟩
        have found := below [] second p rfl
        refine ⟨found, (ih found).mpr ?_⟩
        simpa only [List.append_assoc, List.singleton_append] using below

theorem obstacle?_nil_iff : fs.obstacle? [] p = none ↔ fs.Leads p :=
  obstacle?_eq_none_iff fs.node?_nil p

theorem read_eq_ok_iff : fs.read p = .ok bytes ↔ fs.HasFile p bytes := by
  rw [read]
  cases way : fs.obstacle? [] p with
  | some fault =>
    refine ⟨nofun, fun h => ?_⟩
    rw [obstacle?_nil_iff.mpr h.leads] at way
    contradiction
  | none =>
    have leads := obstacle?_nil_iff.mp way
    refine ⟨fun h => ⟨leads, ?_⟩, fun h => by rw [h.file]⟩
    cases found : fs.node? p with
    | none => simp [found] at h
    | some node => cases node <;> simp_all

theorem write_eq_ok_iff : fs.write p bytes = .ok fs' ↔
    fs.TakesFile p ∧ fs' = fs.put p (.file bytes) := by
  rw [write]
  cases way : fs.obstacle? [] p with
  | some fault =>
    refine ⟨nofun, fun h => ?_⟩
    rw [obstacle?_nil_iff.mpr h.1.leads] at way
    contradiction
  | none =>
    have leads := obstacle?_nil_iff.mp way
    simp only
    split
    next found => exact ⟨nofun, fun h => absurd found h.1.free⟩
    next free =>
      rw [Except.ok.injEq, eq_comm]
      exact ⟨fun h => ⟨⟨leads, free⟩, h⟩, fun h => h.2⟩

/-- The top is always there, so it is no place to put anything at. -/
theorem node?_put (h : p ≠ []) (n : Node) (q : Path) : (fs.put p n).node? q =
    if q = p then some n else fs.node? q := by
  rw [node?, put]
  by_cases top : q = []
  · subst top
    rw [if_pos rfl, if_neg h.symm, node?_nil]
  · rw [if_neg top, node?, if_neg top]
    exact lookup_replaced fs.nodes p q n

theorem TakesFile.ne_nil (h : fs.TakesFile p) : p ≠ [] := by
  rintro rfl
  exact h.free fs.node?_nil

/-- No directory comes or goes where a file is written. -/
theorem TakesFile.leads_put (h : fs.TakesFile p) (bytes : ByteArray) (q : Path) :
    (fs.put p (.file bytes)).Leads q ↔ fs.Leads q := by
  have directory (q : Path) : (fs.put p (.file bytes)).node? q = some .directory ↔
      fs.node? q = some .directory := by
    rw [node?_put h.ne_nil]
    split
    next same => simpa [same] using h.free
    next => rfl
  simp only [Leads, directory]

theorem TakesFile.hasFile_put (h : fs.TakesFile p) (bytes : ByteArray) :
    (fs.put p (.file bytes)).HasFile p bytes :=
  ⟨(h.leads_put bytes p).mpr h.leads, by rw [node?_put h.ne_nil, if_pos rfl]⟩

/-! Text in files. -/

/-- Bytes are read as a text just if they encode it. -/
theorem fromUTF8?_eq_some_iff {text : String} :
    String.fromUTF8? bytes = some text ↔ text.toList.utf8Encode = bytes := by
  rw [String.fromUTF8?]
  split
  next valid =>
    rw [Option.some.injEq, String.utf8Encode_toList, ← String.toByteArray_inj, eq_comm]
    rfl
  next invalid => exact ⟨nofun, fun h => absurd ⟨text.toList, h.symm⟩ invalid⟩

theorem readText_eq_ok_iff {text : String} :
    fs.readText p = .ok text ↔ fs.HasFile p text.toList.utf8Encode := by
  rw [← read_eq_ok_iff, readText]
  cases fs.read p with
  | error fault => exact ⟨nofun, nofun⟩
  | ok bytes =>
    simp only
    rw [Except.ok.injEq, @eq_comm _ bytes, ← fromUTF8?_eq_some_iff]
    cases String.fromUTF8? bytes with
    | none => exact ⟨nofun, nofun⟩
    | some read => simp

end Workpad.Files
