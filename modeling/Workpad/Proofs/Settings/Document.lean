import Workpad.Proofs.Settings.Partial

/-!
Settings survive being written. The written form names every setting, so nothing of the defaults is
left when it is read, and only what makes settings unusable can refuse them.
-/
namespace Workpad

open Json

def Icons.all (i : Icons) : Icons.Overrides := ⟨some i.image, some i.vector, some i.document⟩

namespace Settings

def all (s : Settings) : Overrides where
  runtimeLocation := some s.runtimeLocation
  fetchTimeoutSecs := some s.fetchTimeoutSecs
  maxRuntimeBytes := some s.maxRuntimeBytes
  plotKeyword := some s.plotKeyword
  plotPrelude := some s.plotPrelude
  icons := some s.icons.all
  helpWrapWidth := some s.helpWrapWidth

theorem overridesText_encodeIcons (i : Icons) : Icons.OverridesText (encodeIcons i) i.all := by
  refine ⟨_, objectText_writeObject _, ?_⟩
  simp only [List.map_cons, List.map_nil, String.ofList_toList]
  exact {
    image := ⟨_, rfl, stringText_quote i.image⟩
    vector := ⟨_, rfl, stringText_quote i.vector⟩
    document := ⟨_, rfl, stringText_quote i.document⟩
    others := by simp }

theorem namedIn_toJson (s : Settings) : s.all.NamedIn s.toJson := by
  refine ⟨[], s.encode, [], _, ?_, gap_nil, gap_nil, objectText_writeObject _, ?_⟩
  · simp [toJson]
  · simp only [List.map_cons, List.map_nil, String.ofList_toList]
    exact {
      runtimeLocation := ⟨_, rfl, stringText_quote s.runtimeLocation⟩
      fetchTimeoutSecs := ⟨_, rfl, rfl⟩
      maxRuntimeBytes := ⟨_, rfl, rfl⟩
      plotKeyword := ⟨_, rfl, stringText_quote s.plotKeyword⟩
      plotPrelude := ⟨_, rfl, stringText_quote s.plotPrelude⟩
      icons := ⟨_, rfl, overridesText_encodeIcons s.icons⟩
      helpWrapWidth := ⟨_, rfl, rfl⟩
      others := by simp }

theorem decode_toJson (s : Settings) : decode s.toJson = .ok s :=
  decode_of_namedIn (namedIn_toJson s)

/-- Of the three checks only the first that fails is reported. -/
theorem defect?_eq (s : Settings) : s.defect? =
    if Text.allBlank s.runtimeLocation.toList = true then some .locationBlank
    else if s.plotKeyword = "" then some .keywordEmpty
    else if s.helpWrapWidth.toNat < 8 then some (.wrapTooNarrow s.helpWrapWidth)
    else none := by
  simp only [defect?, String.isEmpty_iff, UInt64.lt_iff_toNat_lt]
  rfl

theorem ofJson_toJson_of_defect {s : Settings} {d : Defect} (h : s.defect? = some d) :
    ofJson s.toJson = .error (.unusable d) := by
  rw [ofJson_of_decode (decode_toJson s), h]

theorem ofJson_toJson_of_usable {s : Settings} (h : s.defect? = none) : ofJson s.toJson = .ok s := by
  rw [ofJson_of_decode (decode_toJson s), h]

/-- Settings written as JSON text come back as they were if they are usable: the location has a
character that is not blank, the keyword is not empty, and the width is at least 8. Otherwise the
first of these that fails is what is reported, never a fault of the text. -/
theorem usable_settings_come_back (s : Settings) :
    let located := ∃ c ∈ s.runtimeLocation.toList, Text.isBlank c = false
    (located → s.plotKeyword ≠ "" → 8 ≤ s.helpWrapWidth.toNat → ofJson s.toJson = .ok s) ∧
      (¬located → ofJson s.toJson = .error (.unusable .locationBlank)) ∧
      (located → s.plotKeyword = "" → ofJson s.toJson = .error (.unusable .keywordEmpty)) ∧
      (located → s.plotKeyword ≠ "" → s.helpWrapWidth.toNat < 8 →
        ofJson s.toJson = .error (.unusable (.wrapTooNarrow s.helpWrapWidth))) ∧
      ∀ why, ofJson s.toJson ≠ .error (.json why) := by
  intro located
  have blank : Text.allBlank s.runtimeLocation.toList = true ↔ ¬located := by
    simp [Text.allBlank, located]
  refine ⟨fun hl hk hw => ?_, fun hl => ?_, fun hl hk => ?_, fun hl hk hw => ?_, fun why => ?_⟩
  · refine ofJson_toJson_of_usable ?_
    rw [defect?_eq, if_neg (by simpa [blank] using hl), if_neg hk, if_neg (by omega)]
  · refine ofJson_toJson_of_defect ?_
    rw [defect?_eq, if_pos (blank.mpr hl)]
  · refine ofJson_toJson_of_defect ?_
    rw [defect?_eq, if_neg (by simpa [blank] using hl), if_pos hk]
  · refine ofJson_toJson_of_defect ?_
    rw [defect?_eq, if_neg (by simpa [blank] using hl), if_neg hk, if_pos hw]
  · cases h : s.defect? with
    | some d => simp [ofJson_toJson_of_defect h]
    | none => simp [ofJson_toJson_of_usable h]

end Settings

end Workpad
