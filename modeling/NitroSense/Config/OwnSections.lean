import NitroSense.Config.Accepts
import NitroSense.Config.Agreement

/-!
# The sections of a document

A section parser searches from the first place where the name of its section
is quoted to the end of the text.  It reads the values of its own section when
every key it asks for is found at the section's own member first, and occurs
nowhere behind that place when the section has no such member.
-/

namespace NitroSense

open Lib

/-- Each section with the keys its parser asks for. -/
def profileSections : List (String × List String) :=
  [("safety", safetyKeys), ("fan_modes", fanModeKeys), ("platform_profiles", platformProfileKeys),
   ("power_source_profiles", powerSourceProfileKeys),
   ("keyboard_backlight", keyboardBacklightKeys)]

/-- The keys without which a section is invalid. -/
def requiredSectionKeys : List (String × String) :=
  [("fan_modes", "cpu_register"), ("fan_modes", "gpu_register"), ("platform_profiles", "register"),
   ("power_source_profiles", "ac"), ("power_source_profiles", "battery"),
   ("keyboard_backlight", "register"), ("keyboard_backlight", "max_value")]

/-! ## What the profile should hold -/

/-- Every scalar of a section is what its parser gives for the members of the section's object. -/
structure OwnValues (root : Json) (cfg : AnsConfig) : Prop where
  safety : configParseSafety (profileSection root "safety") cfg.criticalTemperatureC =
    some cfg.safety
  fanModes : configParseFanModes (profileSection root "fan_modes") = some cfg.fanModes
  platformProfiles :
    match profileSection root "platform_profiles" with
    | none => cfg.platformProfiles = {}
    | some profiles =>
        cfg.platformProfiles.available = true ∧
          parsePlatformProfileHeader profiles =
            some (cfg.platformProfiles.reg, cfg.platformProfiles.defaultProfile)
  powerSourceProfiles : configParsePowerSourceProfiles
    (profileSection root "power_source_profiles") cfg.platformProfiles =
      some cfg.powerSourceProfiles
  keyboardBacklight : configParseKeyboardBacklight (profileSection root "keyboard_backlight") =
    some cfg.keyboardBacklight

/-- No section lacks a key it requires. -/
def RequiredPresent (root : Json) : Prop :=
  ∀ required ∈ requiredSectionKeys, ∀ section_ ∈ profileSection root required.1,
    (section_.member? required.2.toList).isSome = true

/-! ## Where the search stays in the section -/

/-- Every section is absent, or its keys are found at its own members. -/
def OwnSections (text : CString) (root : Json) : Prop :=
  ∀ entry ∈ profileSections,
    FromSection (fun found section_ => ReadsKeys found section_ entry.2) text root entry.1

instance (text : CString) (root : Json) : Decidable (OwnSections text root) :=
  inferInstanceAs (Decidable (∀ entry ∈ profileSections, _))

theorem profileSections_keyText : ∀ entry ∈ profileSections,
    KeyText entry.1.toList ∧ ∀ key ∈ entry.2, KeyText key.toList := by decide

section Sections

variable {text : CString} {root : Json} {cfg : AnsConfig}

/-- The text search and the document agree on every section. -/
theorem OwnSections.agree (own : OwnSections text root) {name : String} {keys : List String}
    (entry : (name, keys) ∈ profileSections) :
    AgreeSection (jsonFindKey text name.toList) (profileSection root name) keys := by
  obtain ⟨nameText, keyTexts⟩ := profileSections_keyText _ entry
  exact (own _ entry).rel nameText fun _ _ reads => reads.agree keyTexts

/-- A profile read from such a text has the values of the document's sections. -/
theorem Loads.ownValues (loads : Loads text cfg) (own : OwnSections text root) :
    OwnValues root cfg := by
  constructor
  · exact configParseSafety_agrees (own.agree (by decide)) loads.safety
  · exact configParseFanModes_agrees (own.agree (by decide)) loads.fanModes
  · have agree : AgreeSection (jsonFindKey text "platform_profiles".toList)
        (profileSection root "platform_profiles") platformProfileKeys := own.agree (by decide)
    have read := loads.platformProfiles
    generalize jsonFindKey text "platform_profiles".toList = found at agree read
    generalize profileSection root "platform_profiles" = section_ at agree
    cases agree with
    | none => exact (Except.ok.inj read).symm
    | some agree =>
        obtain ⟨available, header, _⟩ := configParsePlatformProfiles_some read
        exact ⟨available, parsePlatformProfileHeader_agrees agree header⟩
  · exact configParsePowerSourceProfiles_agrees (own.agree (by decide)) loads.powerSourceProfiles
  · exact configParseKeyboardBacklight_agrees (own.agree (by decide)) loads.keyboardBacklight

theorem member_of_requiredInt {json : Json} {key : String} {x : Int}
    (read : configRequiredIntKey json key = some x) : (json.member? key.toList).isSome = true := by
  obtain ⟨value, found, _⟩ := Option.bind_eq_some_iff.mp read
  obtain ⟨member, here, _⟩ := Option.map_eq_some_iff.mp found
  rw [here]
  rfl

theorem member_of_requiredString {json : Json} {key : String} {outLen : Nat} {x : CString}
    (read : configRequiredStringKey json key outLen = some x) :
    (json.member? key.toList).isSome = true := by
  obtain ⟨stored, _⟩ := Option.filter_eq_some_iff.mp read
  obtain ⟨value, found, _⟩ := Option.bind_eq_some_iff.mp stored
  obtain ⟨member, here, _⟩ := Option.map_eq_some_iff.mp found
  rw [here]
  rfl

/-- A profile with the values of the document's sections needs their required keys. -/
theorem OwnValues.requiredPresent (own : OwnValues root cfg) : RequiredPresent root := by
  have fanModes {section_ : Json} (here : section_ ∈ profileSection root "fan_modes") :
      (section_.member? "cpu_register".toList).isSome = true ∧
        (section_.member? "gpu_register".toList).isSome = true := by
    have read := own.fanModes
    rw [Option.mem_def.mp here] at read
    obtain ⟨registers, first, _⟩ := Option.bind_eq_some_iff.mp read
    simp only [parseFanModeRegisters, bind, Option.bind_eq_some_iff] at first
    obtain ⟨_, cpu, _, gpu, _⟩ := first
    exact ⟨member_of_requiredInt cpu, member_of_requiredInt gpu⟩
  have platform {section_ : Json} (here : section_ ∈ profileSection root "platform_profiles") :
      (section_.member? "register".toList).isSome = true := by
    have read := own.platformProfiles
    rw [Option.mem_def.mp here] at read
    obtain ⟨_, reg, _⟩ := Option.bind_eq_some_iff.mp read.2
    exact member_of_requiredInt reg
  have powerSource {section_ : Json}
      (here : section_ ∈ profileSection root "power_source_profiles") :
      (section_.member? "ac".toList).isSome = true ∧
        (section_.member? "battery".toList).isSome = true := by
    have read := own.powerSourceProfiles
    rw [Option.mem_def.mp here] at read
    obtain ⟨fields, first, _⟩ := Option.bind_eq_some_iff.mp read
    simp only [parsePowerSourceProfileFields, bind, Option.bind_eq_some_iff] at first
    obtain ⟨_, ac, _, battery, _⟩ := first
    exact ⟨member_of_requiredString ac, member_of_requiredString battery⟩
  have keyboard {section_ : Json} (here : section_ ∈ profileSection root "keyboard_backlight") :
      (section_.member? "register".toList).isSome = true ∧
        (section_.member? "max_value".toList).isSome = true := by
    have read := own.keyboardBacklight
    rw [Option.mem_def.mp here] at read
    obtain ⟨fields, first, _⟩ := Option.bind_eq_some_iff.mp read
    simp only [parseKeyboardBacklightFields, bind, Option.bind_eq_some_iff] at first
    obtain ⟨_, reg, _, maxValue, _⟩ := first
    exact ⟨member_of_requiredInt reg, member_of_requiredInt maxValue⟩
  simp only [RequiredPresent, requiredSectionKeys, List.forall_mem_cons]
  exact ⟨fun _ here => (fanModes here).1, fun _ here => (fanModes here).2,
    fun _ here => platform here, fun _ here => (powerSource here).1,
    fun _ here => (powerSource here).2, fun _ here => (keyboard here).1,
    fun _ here => (keyboard here).2, List.forall_mem_nil _⟩

end Sections

/-! ## Loading a document -/

/-- Where every section parser stays in its section, a document that loads has all required keys,
and the profile has the values of its own sections. -/
theorem configLoad_ownValues {document : JsonDocument} {cfg : AnsConfig}
    (loaded : configLoad (some document.text) = .ok cfg)
    (own : OwnSections (readTextFile (128 * 1024) document.text) document.root) :
    OwnValues document.root cfg ∧ RequiredPresent document.root := by
  have values := (configLoadText_eq_ok.mp loaded).ownValues own
  exact ⟨values, values.requiredPresent⟩

theorem AcerNitroAn517.document_ownSections :
    OwnSections (readTextFile (128 * 1024) document.text) document.root := by
  decide +kernel

theorem configLoad_ownValues_shipped :
    OwnValues AcerNitroAn517.document.root AcerNitroAn517.config ∧
      RequiredPresent AcerNitroAn517.document.root :=
  configLoad_ownValues AcerNitroAn517.document_loads AcerNitroAn517.document_ownSections

/-- A keyboard without a register, before an initial write with one. -/
def borrowedDocument : JsonDocument :=
  smallestDocument
    [(.key "ec", .ofMembers
      [(.key "keyboard_backlight", .ofMembers [(.key "max_value", .numeral "4")]),
       (.key "init_writes", .ofItems [.ofMembers
        [(.key "register", .numeral "34"), (.key "value", .numeral "12"),
         (.key "reset_value", .numeral "4")]])])]

def borrowedConfig : AnsConfig :=
  { smallestConfig with
    keyboardBacklight := { available := true, reg := 34, maxValue := 4 }
    initWrites := [⟨34, 12, 4⟩] }

theorem borrowedDocument_loads : configLoad (some borrowedDocument.text) = .ok borrowedConfig := by
  decide +kernel

/-- The backlight of that document is driven through the register of the initial write. -/
theorem configLoad_ownValues_fails :
    ¬ ∀ (document : JsonDocument) (cfg : AnsConfig), configLoad (some document.text) = .ok cfg →
      OwnValues document.root cfg ∧ RequiredPresent document.root := by
  intro claim
  obtain ⟨-, present⟩ := claim borrowedDocument borrowedConfig borrowedDocument_loads
  have keyboard : profileSection borrowedDocument.root "keyboard_backlight" =
      some (.ofMembers [(.key "max_value", .numeral "4")]) := rfl
  have register := present ("keyboard_backlight", "register") (by decide) _ keyboard
  cases register

end NitroSense
