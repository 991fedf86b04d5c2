import NitroSense.Config.Lists
import NitroSense.Config.Sections
import NitroSense.Lib.Pieces

/-!
# Loading a profile

`config_load` of `config/config.c`, and the list of DMI names of
`config/lists.c`, which is read by its quotes alone.  `Loads` says once what an
accepted text gives for every field.
-/

namespace NitroSense

/-- The loop of `config_parse_allowed_dmi`: the texts between every other pair of quotes. -/
def allowedDmiEntries : (limit : Nat) → CString → List CString
  | 0, _ => []
  | limit + 1, p =>
      match p.dropWhile (· ≠ '"') with
      | [] => []
      | _ :: q =>
          match q.dropWhile (· ≠ '"') with
          | [] => []
          | _ :: rest => jsonCopySlice 64 (q.takeWhile (· ≠ '"')) :: allowedDmiEntries limit rest

/-- The entries are the quoted pieces of the text, as many as there is room for, each cut. -/
theorem allowedDmiEntries_eq (limit : Nat) (p : CString) :
    allowedDmiEntries limit p = ((Lib.pieces '"' p).take limit).map (jsonCopySlice 64) := by
  induction limit generalizing p with
  | zero => rfl
  | succ limit ih =>
      rw [allowedDmiEntries]
      rcases Lib.cut_cases '"' p with ⟨free, none⟩ | ⟨q, opened, gapFree, shape⟩
      · rw [none, Lib.pieces_free free]
        rfl
      · rw [opened]
        dsimp only
        rcases Lib.cut_cases '"' q with ⟨free, none⟩ | ⟨rest, closed, free, piece⟩
        · rw [none, shape, Lib.pieces_open gapFree free]
          rfl
        · rw [closed]
          dsimp only
          rw [ih rest]
          have first := Lib.pieces_closed gapFree free rest
          rw [← piece, ← shape] at first
          rw [first, List.take_succ_cons, List.map_cons]

/-- `config_parse_allowed_dmi`; without an array the list stays empty. -/
def configParseAllowedDmi (json : CString) : List CString :=
  match jsonFindArray json "allowed_dmi_substrings".toList with
  | none => []
  | some p => allowedDmiEntries 8 p

def configLoadIdentity (json : CString) : Option (CString × CString × CString) := do
  let model ← configRequiredStringKey json "model" 96
  let defaultPreset ← configRequiredStringKey json "default_preset" 32
  let ecPath ← configOptionalStringKey json "path" "/sys/kernel/debug/ec/ec0/io".toList 256
  some (model, defaultPreset, ecPath)

def configLoadBoundedInt (json : CString) (key : String) (value low high : Int) : Option Int :=
  (configOptionalIntKey json key value).filter fun value => low ≤ value && value ≤ high

/-- `config_load` behind `read_text_file`. -/
def configLoadText (json : CString) : ConfigResult AnsConfig := do
  let (model, defaultPreset, ecPath) ← orInvalid (configLoadIdentity json)
    "model/default_preset/path fields are invalid"
  let pollIntervalMs ← orInvalid (configLoadBoundedInt json "poll_interval_ms" 3000 100 60000)
    "poll_interval_ms must be 100-60000"
  let criticalTemperatureC ← orInvalid
    (configLoadBoundedInt json "critical_temperature_c" 90 1 130)
    "critical_temperature_c must be 1-130"
  let readWords ← orInvalid (configOptionalBoolKey json "read_words" true)
    "read_words must be true or false"
  let safety ← orInvalid
    (configParseSafety (jsonFindKey json "safety".toList) criticalTemperatureC)
    "safety section is invalid"
  let fanModes ← orInvalid (configParseFanModes (jsonFindKey json "fan_modes".toList))
    "fan_modes section is invalid"
  let platformProfiles ← alsoInvalid
    (configParsePlatformProfiles (jsonFindKey json "platform_profiles".toList))
    "platform_profiles section is invalid"
  let powerSourceProfiles ← orInvalid
    (configParsePowerSourceProfiles (jsonFindKey json "power_source_profiles".toList)
      platformProfiles)
    "power_source_profiles section is invalid"
  let keyboardBacklight ← orInvalid
    (configParseKeyboardBacklight (jsonFindKey json "keyboard_backlight".toList))
    "keyboard_backlight section is invalid"
  let allowedDmi := configParseAllowedDmi json
  let initWrites ← configParseInitWrites json
  let fans ← alsoInvalid (configParseFans json) "fans section is invalid"
  let presets ← alsoInvalid (configParsePresets json) "presets section is invalid"
  .ok {
    model, defaultPreset, ecPath, allowedDmi, pollIntervalMs, criticalTemperatureC, readWords
    safety
    coolboostDefaultEnabled := false
    fanModes, platformProfiles, powerSourceProfiles, keyboardBacklight, initWrites, fans
    presets }

/-- The text `read_text_file` returns for the bytes of a file, as a C string. -/
def readTextFile (limit : Nat) (bytes : List Char) : CString :=
  (bytes.take limit).takeWhile (· ≠ '\x00')

/-- `config_load`; `none` is a file that cannot be read. -/
def configLoad (file : Option (List Char)) : ConfigResult AnsConfig :=
  match file with
  | none => .error []
  | some bytes => configLoadText (readTextFile (128 * 1024) bytes)

/-! ## What a loaded profile comes from -/

/-- What each parser returned for the fields of the profile. -/
structure Loads (json : CString) (cfg : AnsConfig) : Prop where
  identity : configLoadIdentity json = some (cfg.model, cfg.defaultPreset, cfg.ecPath)
  pollIntervalMs : configLoadBoundedInt json "poll_interval_ms" 3000 100 60000 =
    some cfg.pollIntervalMs
  criticalTemperatureC : configLoadBoundedInt json "critical_temperature_c" 90 1 130 =
    some cfg.criticalTemperatureC
  readWords : configOptionalBoolKey json "read_words" true = some cfg.readWords
  safety : configParseSafety (jsonFindKey json "safety".toList) cfg.criticalTemperatureC =
    some cfg.safety
  coolboostDefaultEnabled : cfg.coolboostDefaultEnabled = false
  fanModes : configParseFanModes (jsonFindKey json "fan_modes".toList) = some cfg.fanModes
  platformProfiles : configParsePlatformProfiles (jsonFindKey json "platform_profiles".toList) =
    .ok cfg.platformProfiles
  powerSourceProfiles : configParsePowerSourceProfiles
    (jsonFindKey json "power_source_profiles".toList) cfg.platformProfiles =
      some cfg.powerSourceProfiles
  keyboardBacklight : configParseKeyboardBacklight
    (jsonFindKey json "keyboard_backlight".toList) = some cfg.keyboardBacklight
  allowedDmi : cfg.allowedDmi = configParseAllowedDmi json
  initWrites : configParseInitWrites json = .ok cfg.initWrites
  fans : configParseFans json = .ok cfg.fans
  presets : configParsePresets json = .ok cfg.presets

/-- Loading succeeds with a profile when every parser gives its part of it. -/
theorem configLoadText_eq_ok {json : CString} {cfg : AnsConfig} :
    configLoadText json = .ok cfg ↔ Loads json cfg := by
  unfold configLoadText
  simp only [bind_eq_ok, orInvalid_eq_ok, alsoInvalid_eq_ok]
  constructor
  · rintro ⟨⟨model, defaultPreset, ecPath⟩, identity, poll, polls, critical, criticals, readWords,
      reads, safety, safeties, fanModes, modes, platform, platforms, power, powers, keyboard,
      keyboards, writes, initWrites, fans, parsedFans, presets, parsedPresets, same⟩
    cases same
    exact ⟨identity, polls, criticals, reads, safeties, rfl, modes, platforms, powers, keyboards,
      rfl, initWrites, parsedFans, parsedPresets⟩
  · intro loads
    refine ⟨_, loads.identity, _, loads.pollIntervalMs, _, loads.criticalTemperatureC, _,
      loads.readWords, _, loads.safety, _, loads.fanModes, _, loads.platformProfiles, _,
      loads.powerSourceProfiles, _, loads.keyboardBacklight, _, loads.initWrites, _, loads.fans, _,
      loads.presets, ?_⟩
    rw [← loads.allowedDmi, ← loads.coolboostDefaultEnabled]

end NitroSense
