import Workpad.Proofs.Json.Members
import Workpad.Settings.Document

/-!
Documents that name only some of the settings. What they name replaces the default, and nothing else
in them matters: not the order of the keys, not the gaps, not what stands under other keys.
-/
namespace Workpad

open Json

structure Icons.Overrides where
  image : Option String := none
  vector : Option String := none
  document : Option String := none
deriving DecidableEq, Repr

structure Settings.Overrides where
  runtimeLocation : Option String := none
  fetchTimeoutSecs : Option UInt64 := none
  maxRuntimeBytes : Option UInt64 := none
  plotKeyword : Option String := none
  plotPrelude : Option String := none
  icons : Option Icons.Overrides := none
  helpWrapWidth : Option UInt64 := none
deriving DecidableEq, Repr

def Icons.Overrides.onto (o : Icons.Overrides) (i : Icons) : Icons where
  image := o.image.getD i.image
  vector := o.vector.getD i.vector
  document := o.document.getD i.document

def Settings.Overrides.onto (o : Settings.Overrides) (s : Settings) : Settings where
  runtimeLocation := o.runtimeLocation.getD s.runtimeLocation
  fetchTimeoutSecs := o.fetchTimeoutSecs.getD s.fetchTimeoutSecs
  maxRuntimeBytes := o.maxRuntimeBytes.getD s.maxRuntimeBytes
  plotKeyword := o.plotKeyword.getD s.plotKeyword
  plotPrelude := o.plotPrelude.getD s.plotPrelude
  icons := (o.icons.getD {}).onto s.icons
  helpWrapWidth := o.helpWrapWidth.getD s.helpWrapWidth

def Settings.WordText (text : List Char) (n : UInt64) : Prop := text = writeNat n.toNat

structure Icons.Overrides.NamedBy (o : Icons.Overrides) (ms : List Member) : Prop where
  image : Gives ms "image" StringText o.image
  vector : Gives ms "vector" StringText o.vector
  document : Gives ms "document" StringText o.document
  others : ∀ m ∈ ms, m.1 ∉ ["image", "vector", "document"] → Written .value m.2

def Icons.OverridesText (text : List Char) (o : Icons.Overrides) : Prop :=
  ∃ ms, ObjectText ms text ∧ o.NamedBy ms

namespace Settings

/-- The members of an object name these settings, each once. Under other keys stands any value. -/
structure Overrides.NamedBy (o : Overrides) (ms : List Member) : Prop where
  runtimeLocation : Gives ms "runtime_location" StringText o.runtimeLocation
  fetchTimeoutSecs : Gives ms "fetch_timeout_secs" WordText o.fetchTimeoutSecs
  maxRuntimeBytes : Gives ms "max_runtime_bytes" WordText o.maxRuntimeBytes
  plotKeyword : Gives ms "plot_keyword" StringText o.plotKeyword
  plotPrelude : Gives ms "plot_prelude" StringText o.plotPrelude
  icons : Gives ms "icons" Icons.OverridesText o.icons
  helpWrapWidth : Gives ms "help_wrap_width" WordText o.helpWrapWidth
  others : ∀ m ∈ ms, m.1 ∉ ["runtime_location", "fetch_timeout_secs", "max_runtime_bytes",
    "plot_keyword", "plot_prelude", "icons", "help_wrap_width"] → Written .value m.2

def Overrides.NamedIn (o : Overrides) (text : String) : Prop :=
  ∃ gap object gap' ms, text.toList = gap ++ (object ++ gap') ∧ Gap gap ∧ Gap gap' ∧
    ObjectText ms object ∧ o.NamedBy ms

theorem WordText.reads {text : List Char} {n : UInt64} (h : WordText text n) :
    Reads word text n := by
  subst h
  intro gap rest hg hr
  simp [word, reads_natural n.toNat_lt gap rest hg hr, Except.map]

/-- To change what is named is to put it over what is there. -/
theorem elim_eq_getD {σ α : Type} (get : σ → α) (named : Option α) {set : α → σ → σ} (s : σ)
    (same : ∀ s, set (get s) s = s) : named.elim id set s = set (named.getD (get s)) s := by
  cases named with
  | none => exact (same s).symm
  | some a => rfl

theorem iconFields_apart : Apart iconFields where
  names := by simp [iconFields, KnownKey.of]
  independent := by
    simp only [iconFields, List.pairwise_cons, List.forall_mem_cons, List.Pairwise.nil,
      List.not_mem_nil, IsEmpty.forall_iff, implies_true, and_true]
    repeat' apply And.intro
    all_goals exact KnownKey.independent_of fun _ _ _ => rfl

theorem fields_apart : Apart fields where
  names := by simp [fields, KnownKey.of]
  independent := by
    simp only [fields, List.pairwise_cons, List.forall_mem_cons, List.Pairwise.nil,
      List.not_mem_nil, IsEmpty.forall_iff, implies_true, and_true]
    repeat' apply And.intro
    all_goals exact KnownKey.independent_of fun _ _ _ => rfl

/-! The changes that the members make put the overrides over what is there. -/

theorem makes_of_icons {o : Icons.Overrides} {ms : List Member} (h : o.NamedBy ms) :
    ∃ changes, Makes iconFields ms changes ∧ ∀ i, allChanges changes i = o.onto i := by
  let changes : List (Icons → Icons) := [
    o.image.elim id fun v i => { i with image := v },
    o.vector.elim id fun v i => { i with vector := v },
    o.document.elim id fun v i => { i with document := v }]
  have known : List.Forall₂ (KnownKey.Stands ms) iconFields changes :=
    .cons (.of_gives h.image StringText.reads _) <|
    .cons (.of_gives h.vector StringText.reads _) <|
    .cons (.of_gives h.document StringText.reads _) .nil
  refine ⟨changes, ⟨known, fun m hm other => h.others m hm ?_⟩, fun i => ?_⟩
  · simpa [iconFields, KnownKey.of, eq_comm] using other
  · simp only [changes, allChanges, List.foldl_cons, List.foldl_nil]
    rw [elim_eq_getD Icons.document, elim_eq_getD Icons.vector, elim_eq_getD Icons.image]
    · rfl
    all_goals exact fun _ => rfl

theorem iconsText_reads {text : List Char} {o : Icons.Overrides} (h : Icons.OverridesText text o) :
    Reads (record iconFields {}) text (o.onto {}) := by
  obtain ⟨ms, object, named⟩ := h
  obtain ⟨changes, makes, onto⟩ := makes_of_icons named
  rw [← onto]
  exact object.reads iconFields_apart makes {}

/-- Icons that are named replace the default ones, so the settings must have those. -/
theorem makes_of_named {o : Overrides} {ms : List Member} (h : o.NamedBy ms) :
    ∃ changes, Makes fields ms changes ∧ allChanges changes {} = o.onto {} := by
  let changes : List (Settings → Settings) := [
    o.runtimeLocation.elim id withRuntimeLocation,
    o.fetchTimeoutSecs.elim id fun v s => { s with fetchTimeoutSecs := v },
    o.maxRuntimeBytes.elim id fun v s => { s with maxRuntimeBytes := v },
    o.plotKeyword.elim id withPlotKeyword,
    o.plotPrelude.elim id withPlotPrelude,
    o.icons.elim id fun v => withIcons (v.onto {}),
    o.helpWrapWidth.elim id withHelpWrapWidth]
  have known : List.Forall₂ (KnownKey.Stands ms) fields changes :=
    .cons (.of_gives h.runtimeLocation StringText.reads _) <|
    .cons (.of_gives h.fetchTimeoutSecs WordText.reads _) <|
    .cons (.of_gives h.maxRuntimeBytes WordText.reads _) <|
    .cons (.of_gives h.plotKeyword StringText.reads _) <|
    .cons (.of_gives h.plotPrelude StringText.reads _) <|
    .cons (.of_gives h.icons iconsText_reads _) <|
    .cons (.of_gives h.helpWrapWidth WordText.reads _) .nil
  refine ⟨changes, ⟨known, fun m hm other => h.others m hm ?_⟩, ?_⟩
  · simpa [fields, KnownKey.of, eq_comm] using other
  · simp only [changes, allChanges, List.foldl_cons, List.foldl_nil]
    rw [elim_eq_getD Settings.helpWrapWidth, elim_eq_getD Settings.plotPrelude,
      elim_eq_getD Settings.plotKeyword, elim_eq_getD Settings.maxRuntimeBytes,
      elim_eq_getD Settings.fetchTimeoutSecs, elim_eq_getD Settings.runtimeLocation]
    · rcases o with ⟨_, _, _, _, _, _ | icons, _⟩ <;> rfl
    all_goals exact fun _ => rfl

theorem decode_of_namedIn {o : Overrides} {text : String} (h : o.NamedIn text) :
    decode text = .ok (o.onto {}) := by
  obtain ⟨gap, object, gap', ms, written, hg, hg', members, named⟩ := h
  obtain ⟨changes, makes, onto⟩ := makes_of_named named
  rw [decode, written, ← onto]
  exact document_of_reads (members.reads fields_apart makes {}) hg hg'

theorem ofJson_of_decode {text : String} {s : Settings} (h : decode text = .ok s) :
    ofJson text = match s.defect? with
      | none => .ok s
      | some d => .error (.unusable d) := by
  rw [ofJson, h]
  cases hd : s.defect? <;> simp [hd]

/-- A document replaces the default of each setting that it names, and of each icon, and nothing
else. What comes out is checked as a whole, and two documents that name the same settings cannot be
told apart. -/
theorem named_settings_replace_defaults {o : Overrides} {text : String} (h : o.NamedIn text) :
    decode text = .ok (o.onto {}) ∧
      (ofJson text = match (o.onto {}).defect? with
        | none => .ok (o.onto {})
        | some d => .error (.unusable d)) ∧
      ∀ text', o.NamedIn text' → ofJson text' = ofJson text := by
  have checked {text : String} (h : o.NamedIn text) := ofJson_of_decode (decode_of_namedIn h)
  refine ⟨decode_of_namedIn h, checked h, fun text' h' => ?_⟩
  rw [checked h, checked h']

/-- A key that nobody knows comes first here, and two of the icons keep their defaults. -/
theorem named_settings_replace_defaults_nested :
    let o : Overrides := { icons := some { image := some "img" }, helpWrapWidth := some 60 }
    let text := " \x7b\"theme\": [1, \x7b\x7d], \"icons\":\x7b\"image\" :\"img\"\x7d\n" ++
      ",\"help_wrap_width\":60\x7d"
    o.NamedIn text ∧ decode text = .ok { icons := { image := "img" }, helpWrapWidth := 60 } := by
  intro o text
  have space : Gap [' '] := by simp [Gap]
  have line : Gap ['\n'] := by simp [Gap]
  have digits : Whole ['1'] := by simp [Whole, Digits, decimalDigits]
  have one : Written .value ['1'] := .scalar (.number false digits (.inl rfl) (.inl rfl))
  have theme : Written .value _ :=
    .filled (.more .array gap_nil one gap_nil (.last .array space (.empty .object gap_nil) gap_nil))
  have image : ObjectText [("image", quote "img".toList)] _ :=
    ⟨_, rfl, .cons true gap_nil gap_nil (stringText_quote "image") space gap_nil (.nil false gap_nil)⟩
  have icons : Icons.OverridesText _ { image := some "img" } :=
    ⟨_, image, ⟨_, rfl, stringText_quote "img"⟩, rfl, rfl, by simp⟩
  have members (theme icons : List Char) :
      ObjectText [("theme", theme), ("icons", icons), ("help_wrap_width", writeNat 60)] _ :=
    ⟨_, rfl, .cons true gap_nil gap_nil (stringText_quote "theme") gap_nil space <|
      .cons false gap_nil space (stringText_quote "icons") gap_nil gap_nil <|
      .cons false line gap_nil (stringText_quote "help_wrap_width") gap_nil gap_nil <|
      .nil false gap_nil⟩
  have settings : o.NamedBy [("theme", _), ("icons", _), ("help_wrap_width", writeNat 60)] :=
    ⟨rfl, rfl, rfl, rfl, rfl, ⟨_, rfl, icons⟩, ⟨_, rfl, rfl⟩,
      List.forall_mem_cons.mpr ⟨fun _ => theme, by simp⟩⟩
  have named : o.NamedIn text := by
    refine ⟨[' '], _, [], _, ?_, space, gap_nil, members _ _, settings⟩
    decide +kernel
  exact ⟨named, (named_settings_replace_defaults named).1⟩

end Settings

end Workpad
