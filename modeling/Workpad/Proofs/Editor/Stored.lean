import Workpad.Editors
import Workpad.Proofs.Files

/-!
Code in files. However many editors share the files, a file holds the text that was saved there last, and
a load gives back what the file holds; where either fails nothing has changed.
-/
namespace Workpad.Editors
open Files
variable {ι : Type} [DecidableEq ι] {s : Editors ι} {x : Event ι} {who : ι} {p : Path}

/-- The text that an event saves, and where; none if it saves nothing or fails. -/
def saved? (s : Editors ι) (x : Event ι) : Option (Path × String) :=
  match x with
  | .save who p => if (s.step x).1 = .done then some (p, (s.editor who).buffer.code) else none
  | .change _ _ | .importText _ _ | .load _ _ => none

def saved : Editors ι → List (Event ι) → List (Path × String)
  | _, [] => []
  | s, x :: xs => (s.saved? x).toList ++ saved (s.step x).2 xs

theorem run_cons (s : Editors ι) (x : Event ι) (xs : List (Event ι)) :
    s.run (x :: xs) = (s.step x).2.run xs := rfl

def held (log : List (Path × String)) (p : Path) : Option Node :=
  (log.reverse.lookup p).map fun text => .file text.toUTF8

theorem held_append (log log' : List (Path × String)) (p : Path) :
    held (log ++ log') p = (held log' p).or (held log p) := by
  rw [held, List.reverse_append, List.lookup_append, Option.map_or]
  rfl

theorem held_singleton (p : Path) (text : String) (q : Path) :
    held [(p, text)] q = if q = p then some (.file text.toUTF8) else none := by
  rw [held, List.reverse_singleton, List.lookup_cons]
  by_cases here : q = p
  · simp [here]
  · have apart : (q == p) = false := by simpa using here
    simp [here, apart]

theorem held_eq_none {log : List (Path × String)} (absent : ∀ text, (p, text) ∉ log) :
    held log p = none := by
  rw [held, Option.map_eq_none_iff, List.lookup_eq_none_iff]
  rintro ⟨q, text⟩ saved
  have other : p ≠ q := by
    rintro rfl
    exact absent text (List.mem_reverse.mp saved)
  simpa using other

def keep (s : Editors ι) (who : ι) (p : Path) : Editors ι :=
  { s with files := s.files.put p (.file (s.editor who).buffer.code.toUTF8) }

/-- A save finds room for a file and keeps the code there, or else fails and changes nothing. -/
theorem save_cases (s : Editors ι) (who : ι) (p : Path) :
    (s.files.TakesFile p ∧ s.step (.save who p) = (.done, s.keep who p)) ∨
      (¬ s.files.TakesFile p ∧ ∃ why, s.step (.save who p) = (.failed why, s)) := by
  by_cases room : s.files.TakesFile p
  · have saving : (s.editor who).save s.files p = .ok (s.keep who p).files :=
      write_eq_ok_iff.mpr ⟨room, rfl⟩
    exact .inl ⟨room, by simp only [step, saving]; rfl⟩
  · cases saving : (s.editor who).save s.files p with
    | ok files => exact absurd (write_eq_ok_iff.mp saving).1 room
    | error why => exact .inr ⟨room, why, by simp only [step, saving]⟩

theorem step_load {text : String} (h : s.files.HasFile p text.toList.utf8Encode) (who : ι) :
    s.step (.load who p) = (.done, s.put who ((s.editor who).importText text)) := by
  simp only [step, Editor.load, readText_eq_ok_iff.mpr h, Except.map]

/-- A load finds a text and takes it as the code, or else fails and changes nothing. -/
theorem load_cases (s : Editors ι) (who : ι) (p : Path) :
    (∃ text : String, s.files.HasFile p text.toList.utf8Encode ∧
      s.step (.load who p) = (.done, s.put who ((s.editor who).importText text))) ∨
    ((∀ text : String, ¬ s.files.HasFile p text.toList.utf8Encode) ∧
      ∃ why, s.step (.load who p) = (.failed why, s)) := by
  cases reading : s.files.readText p with
  | ok text =>
    have found := readText_eq_ok_iff.mp reading
    exact .inl ⟨text, found, step_load found who⟩
  | error why =>
    refine .inr ⟨fun text found => ?_, why, by simp only [step, Editor.load, reading, Except.map]⟩
    rw [readText_eq_ok_iff.mpr found] at reading
    contradiction

/-- What fails changes nothing. -/
theorem step_failed {why : FileFault} (failed : (s.step x).1 = .failed why) : (s.step x).2 = s := by
  cases x with
  | change who text | importText who text => contradiction
  | load who p =>
    obtain ⟨text, -, done⟩ | ⟨-, why, unchanged⟩ := s.load_cases who p
    · rw [done] at failed
      contradiction
    · rw [unchanged]
  | save who p =>
    obtain ⟨-, done⟩ | ⟨-, why, unchanged⟩ := s.save_cases who p
    · rw [done] at failed
      contradiction
    · rw [unchanged]

/-- The files change by a text that is saved, and by nothing else. -/
theorem files_step (s : Editors ι) (x : Event ι) :
    (s.saved? x = none ∧ (s.step x).2.files = s.files) ∨
      ∃ p text, s.saved? x = some (p, text) ∧ s.files.TakesFile p ∧
        (s.step x).2.files = s.files.put p (.file text.toUTF8) := by
  cases x with
  | change who text | importText who text => exact .inl ⟨rfl, rfl⟩
  | load who p =>
    obtain ⟨text, -, done⟩ | ⟨-, why, unchanged⟩ := s.load_cases who p
    · exact .inl ⟨rfl, by rw [done]; rfl⟩
    · exact .inl ⟨rfl, by rw [unchanged]⟩
  | save who p =>
    obtain ⟨room, done⟩ | ⟨-, why, unchanged⟩ := s.save_cases who p
    · exact .inr ⟨p, (s.editor who).buffer.code, by rw [saved?, done, if_pos rfl], room,
        by rw [done]; rfl⟩
    · exact .inl ⟨by rw [saved?, unchanged, if_neg nofun], by rw [unchanged]⟩

theorem node?_step (s : Editors ι) (x : Event ι) (q : Path) :
    (s.step x).2.files.node? q = (held (s.saved? x).toList q).or (s.files.node? q) := by
  obtain ⟨none, same⟩ | ⟨p, text, some, room, put⟩ := s.files_step x
  · rw [none, same]
    rfl
  · rw [some, put, node?_put room.ne_nil, Option.toList_some, held_singleton]
    split <;> rfl

theorem leads_step (s : Editors ι) (x : Event ι) (q : Path) :
    (s.step x).2.files.Leads q ↔ s.files.Leads q := by
  obtain ⟨-, same⟩ | ⟨p, text, -, room, put⟩ := s.files_step x
  · rw [same]
  · rw [put]
    exact room.leads_put _ q

theorem node?_run (s : Editors ι) (xs : List (Event ι)) (q : Path) :
    (s.run xs).files.node? q = (held (s.saved xs) q).or (s.files.node? q) := by
  induction xs generalizing s with
  | nil => rfl
  | cons x xs ih => rw [run_cons, ih, node?_step, saved, held_append, Option.or_assoc]

theorem leads_run (s : Editors ι) (xs : List (Event ι)) (q : Path) :
    (s.run xs).files.Leads q ↔ s.files.Leads q := by
  induction xs generalizing s with
  | nil => rfl
  | cons x xs ih => exact (ih (s.step x).2).trans (s.leads_step x q)

/-- A file stays as it is as long as nothing is saved in its place. -/
theorem hasFile_run {bytes : ByteArray} (h : s.files.HasFile p bytes) {xs : List (Event ι)}
    (untouched : ∀ text, (p, text) ∉ s.saved xs) : (s.run xs).files.HasFile p bytes := by
  refine ⟨(s.leads_run xs p).mpr h.leads, ?_⟩
  rw [node?_run, held_eq_none untouched, Option.none_or, h.file]

/-- Code that was saved comes back wherever it is loaded before something else is saved there. -/
theorem load_after_save (room : s.files.TakesFile p) {xs : List (Event ι)}
    (untouched : ∀ text, (p, text) ∉ (s.keep who p).saved xs) (other : ι) :
    let t := (s.keep who p).run xs
    t.step (.load other p) =
      (.done, t.put other ((t.editor other).importText (s.editor who).buffer.code)) := by
  intro t
  refine step_load ?_ other
  rw [String.utf8Encode_toList]
  exact hasFile_run (room.hasFile_put _) untouched

/-- After any run, a place holds the text that was saved there last, or what stood there at first. A
save is done just if there is room for a file; then the place holds the code, encoded, all else is as it
was, and until something else is saved there a load gives any editor that code. A load is done just if
there is a file whose bytes encode a text; that text becomes the code, and there is no suggestion. What
fails changes nothing. -/
theorem saved_code_comes_back (start : Editors ι) (xs : List (Event ι)) :
    let s := start.run xs
    (∀ p, s.files.node? p = (held (start.saved xs) p).or (start.files.node? p)) ∧
    (∀ who p,
      let code := (s.editor who).buffer.code
      let answer := (s.step (.save who p)).1
      let t := (s.step (.save who p)).2
      (answer = .done ↔ s.files.TakesFile p) ∧
      (answer = .done → t.editor = s.editor ∧ t.files.HasFile p code.toList.utf8Encode ∧
        (∀ q ≠ p, t.files.node? q = s.files.node? q) ∧
        ∀ later, (∀ text, (p, text) ∉ t.saved later) → ∀ other,
          let load := (t.run later).step (.load other p)
          load.1 = .done ∧ (load.2.editor other).buffer.code = code)) ∧
    (∀ who p,
      let answer := (s.step (.load who p)).1
      let t := (s.step (.load who p)).2
      (answer = .done ↔ ∃ bytes, s.files.HasFile p bytes ∧ bytes.IsValidUTF8) ∧
      ∀ code : String, s.files.HasFile p code.toList.utf8Encode →
        t = s.put who { s.editor who with
          buffer := { (s.editor who).buffer with code, suggestion := none } }) ∧
    ∀ x why, (s.step x).1 = .failed why → (s.step x).2 = s := by
  intro s
  refine ⟨start.node?_run xs, fun who p => ?_, fun who p => ?_, fun x why => step_failed⟩
  · obtain ⟨room, done⟩ | ⟨full, why, unchanged⟩ := s.save_cases who p
    · rw [done]
      refine ⟨iff_of_true rfl room, fun _ => ⟨rfl, ?_, fun q other => ?_, ?_⟩⟩
      · rw [String.utf8Encode_toList]
        exact room.hasFile_put _
      · exact (node?_put room.ne_nil _ q).trans (if_neg other)
      · intro later untouched other load
        have loaded : load = _ := load_after_save room untouched other
        rw [loaded]
        exact ⟨rfl, by simp [put, Editor.importText, Buffer.replace]⟩
    · rw [unchanged]
      exact ⟨iff_of_false nofun full, nofun⟩
  · refine ⟨⟨fun done => ?_, ?_⟩, fun code found => congrArg Prod.snd (step_load found who)⟩
    · obtain ⟨text, found, -⟩ | ⟨-, why, unchanged⟩ := s.load_cases who p
      · exact ⟨_, found, ⟨text.toList, rfl⟩⟩
      · rw [unchanged] at done
        contradiction
    · rintro ⟨bytes, found, ⟨m, rfl⟩⟩
      have text : (String.ofList m).toList = m := String.toList_ofList
      rw [← text] at found
      rw [step_load found who]

end Workpad.Editors
