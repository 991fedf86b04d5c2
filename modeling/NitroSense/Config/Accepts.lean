import NitroSense.Config.Load
import NitroSense.Json.Scalars
import NitroSense.Models

/-!
# What `config_load` accepts is valid

One lemma for each parser, about whatever text it reads: an accepted value is
in its range.  Required strings are plain because the string reader stores no
others.
-/

namespace NitroSense

open Lib

/-- All that is checked of an accepted profile. -/
structure AnsConfig.Accepted (cfg : AnsConfig) : Prop extends AnsConfig.Valid cfg where
  model : RequiredText 96 cfg.model
  fanNames : ∀ fan ∈ cfg.fans, RequiredText 64 fan.name
  allowedDmi : cfg.allowedDmi.length ≤ 8 ∧ ∀ entry ∈ cfg.allowedDmi, entry.length < 64

section Keys

variable {σ : Type} [KeySource σ] {json : σ} {key : String}

/-- A clamped key is in its range, also when its default is. -/
theorem configOptionalClampedIntKey_bounds {value low high result : Int} (range : low ≤ high)
    (read : configOptionalClampedIntKey json key value low high = some result) :
    low ≤ result ∧ result ≤ high := by
  obtain ⟨raw, _, rfl⟩ := Option.map_eq_some_iff.mp read
  exact ⟨le_clamp range raw, clamp_le range raw⟩

theorem configLoadBoundedInt_bounds {json : CString} {value low high result : Int}
    (read : configLoadBoundedInt json key value low high = some result) :
    low ≤ result ∧ result ≤ high := by
  obtain ⟨_, inside⟩ := Option.filter_eq_some_iff.mp read
  simpa using inside

theorem stringKey_accepted {json key text : CString} {outLen : Nat}
    (read : KeySource.stringKey json key outLen = some text) :
    PlainText text ∧ text.length < outLen := by
  have taken : (if (jsonStringKeyChecked json key [] outLen).2 then
      some (jsonStringKeyChecked json key [] outLen).1 else none) = some text := read
  split at taken
  · rename_i accepted
    cases taken
    obtain ⟨_, _, ⟨_, _, plain, _⟩, fits⟩ := jsonStringKeyChecked_stored accepted
    exact ⟨plain, fits⟩
  · cases taken

theorem configRequiredStringKey_accepted {json text : CString} {outLen : Nat}
    (read : configRequiredStringKey json key outLen = some text) : RequiredText outLen text := by
  obtain ⟨stored, nonempty⟩ := Option.filter_eq_some_iff.mp read
  obtain ⟨plain, fits⟩ := stringKey_accepted stored
  exact ⟨plain, by simpa using nonempty, fits⟩

theorem configOptionalStringKey_accepted {json out text : CString} {outLen : Nat}
    (read : configOptionalStringKey json key out outLen = some text) :
    text = out ∨ (PlainText text ∧ text.length < outLen) := by
  unfold configOptionalStringKey at read
  split at read
  · exact Or.inr (stringKey_accepted read)
  · exact Or.inl (Option.some.inj read).symm

end Keys

/-! ## Lists -/

section Lists

variable {α σ : Type} {parse : σ → ConfigResult α} {entries : List σ} {values : List α}

/-- Every parsed value comes from an entry, and there are as many. -/
theorem parseEach_forall₂ (parsed : parseEach parse entries = .ok values) :
    List.Forall₂ (fun entry value => parse entry = .ok value) entries values := by
  induction entries generalizing values with
  | nil =>
      cases parsed
      exact .nil
  | cons entry rest ih =>
      obtain ⟨value, first, later⟩ := bind_eq_ok.mp parsed
      obtain ⟨others, tail, same⟩ := bind_eq_ok.mp later
      cases same
      exact .cons first (ih tail)

/-- Every value of a paired list comes from a member of the other one. -/
theorem exists_of_forall₂ {R : σ → α → Prop} (pairs : List.Forall₂ R entries values) :
    ∀ value ∈ values, ∃ entry ∈ entries, R entry value := by
  induction pairs with
  | nil => exact nofun
  | cons first _ ih =>
      intro value member
      rcases List.mem_cons.mp member with rfl | later
      · exact ⟨_, List.mem_cons_self, first⟩
      · obtain ⟨entry, inside, related⟩ := ih value later
        exact ⟨entry, List.mem_cons_of_mem _ inside, related⟩

theorem parseEach_all {P : α → Prop} (each : ∀ entry value, parse entry = .ok value → P value)
    (parsed : parseEach parse entries = .ok values) : ∀ value ∈ values, P value := by
  intro value member
  obtain ⟨entry, _, read⟩ := exists_of_forall₂ (parseEach_forall₂ parsed) value member
  exact each entry value read

theorem parseEach_length (parsed : parseEach parse entries = .ok values) :
    values.length = entries.length :=
  (parseEach_forall₂ parsed).length_eq.symm

end Lists

/-- No list is longer than its array. -/
theorem objects_length_le {json key : CString} {bufLen limit : Nat} {entries : List CString}
    (found : KeySource.objects json key bufLen limit = some entries) : entries.length ≤ limit := by
  obtain ⟨p, _, rfl⟩ := Option.map_eq_some_iff.mp found
  exact jsonObjects_length_le bufLen limit p

theorem parseOptionalList_accepted {α : Type} {parse : CString → ConfigResult α} {P : α → Prop}
    (each : ∀ entry value, parse entry = .ok value → P value) {json : CString} {key : String}
    {bufLen limit : Nat} {values : List α}
    (parsed : parseOptionalList parse json key bufLen limit = .ok values) :
    (∀ value ∈ values, P value) ∧ values.length ≤ limit := by
  unfold parseOptionalList at parsed
  refine ⟨parseEach_all each parsed, ?_⟩
  rw [parseEach_length parsed]
  cases found : KeySource.objects json key.toList bufLen limit with
  | none => exact Nat.zero_le limit
  | some entries => exact objects_length_le found

/-! ## The sections -/

theorem defaultSafety_valid {criticalTemperatureC : Int} (critical : 1 ≤ criticalTemperatureC) :
    (defaultSafety criticalTemperatureC).Valid criticalTemperatureC where
  minSpeedPercent := (by decide : configPercentValueValid 30)
  minSpeedTemperatureC := (by decide : (1 : Int) ≤ 60 ∧ (60 : Int) ≤ 130)
  criticalSpeedPercent := (by decide : configPercentValueValid 100)
  criticalStepPercent := (by decide : configPercentValueValid 20)
  criticalConsecutiveSamples := (by decide : (1 : Int) ≤ 1 ∧ (1 : Int) ≤ 10)
  criticalReleaseTemperatureC :=
    (by omega : criticalTemperatureC - 5 ≤ criticalTemperatureC)
  autoRampUpPercent := (by decide : configSpeedValueValid 0)
  autoRampBypassTemperatureC := (by omega : (0 : Int) ≤ 0 ∧ 0 ≤ criticalTemperatureC)
  missingTemperatureSpeedPercent := (by decide : configPercentValueValid 60)
  maxEcReadFailures := (by decide : configPercentValueValid 3)
  maxEcWriteFailures := (by decide : configPercentValueValid 3)

section Sections

variable {σ : Type} [KeySource σ]

theorem parseSafetyPolicy_valid {safety : σ} {criticalTemperatureC : Int} {parsed : SafetyConfig}
    (critical : 1 ≤ criticalTemperatureC)
    (read : parseSafetyPolicy safety criticalTemperatureC = some parsed) :
    parsed.Valid criticalTemperatureC := by
  unfold parseSafetyPolicy at read
  simp only [bind, Option.bind_eq_some_iff] at read
  obtain ⟨_, minSpeed, _, minSpeedTemperature, _, criticalSpeed, _, _, _, criticalStep, _, samples,
    _, release, _, rampUp, _, bypass, _, missing, _, readFailures, _, writeFailures, same⟩ := read
  cases same
  exact {
    minSpeedPercent := configOptionalClampedIntKey_bounds (by decide) minSpeed
    minSpeedTemperatureC := configOptionalClampedIntKey_bounds (by decide) minSpeedTemperature
    criticalSpeedPercent := configOptionalClampedIntKey_bounds (by decide) criticalSpeed
    criticalStepPercent := configOptionalClampedIntKey_bounds (by decide) criticalStep
    criticalConsecutiveSamples := configOptionalClampedIntKey_bounds (by decide) samples
    criticalReleaseTemperatureC := (configOptionalClampedIntKey_bounds critical release).2
    autoRampUpPercent := configOptionalClampedIntKey_bounds (by decide) rampUp
    autoRampBypassTemperatureC := configOptionalClampedIntKey_bounds (by omega) bypass
    missingTemperatureSpeedPercent := configOptionalClampedIntKey_bounds (by decide) missing
    maxEcReadFailures := configOptionalClampedIntKey_bounds (by decide) readFailures
    maxEcWriteFailures := configOptionalClampedIntKey_bounds (by decide) writeFailures }

theorem configParseSafety_valid {safety : Option σ} {criticalTemperatureC : Int}
    {parsed : SafetyConfig} (critical : 1 ≤ criticalTemperatureC)
    (read : configParseSafety safety criticalTemperatureC = some parsed) :
    parsed.Valid criticalTemperatureC := by
  cases safety with
  | none =>
      cases read
      exact defaultSafety_valid critical
  | some safety => exact parseSafetyPolicy_valid critical read

theorem configParseFanModes_valid {fanModes : Option σ} {parsed : FanModeConfig}
    (read : configParseFanModes fanModes = some parsed) : parsed.Valid := by
  cases fanModes with
  | none =>
      cases read
      constructor <;> decide
  | some fanModes =>
      obtain ⟨registers, found, values⟩ := Option.bind_eq_some_iff.mp read
      obtain ⟨cfg, overridden, checked⟩ := Option.bind_eq_some_iff.mp values
      split at checked
      · rename_i bytes
        cases checked
        obtain ⟨cpuAuto, cpuManual, cpuTurbo, gpuAuto, gpuManual, gpuTurbo⟩ := bytes
        have registersValid : configByteValueValid parsed.cpuReg ∧
            configByteValueValid parsed.gpuReg := by
          unfold parseFanModeRegisters at found
          unfold parseFanModeValues at overridden
          simp only [bind, Option.bind_eq_some_iff] at found overridden
          obtain ⟨cpuReg, _, gpuReg, _, bounded⟩ := found
          obtain ⟨_, _, _, _, _, _, _, _, _, _, _, _, same⟩ := overridden
          split at bounded
          · rename_i inside
            cases bounded
            cases same
            exact inside
          · cases bounded
        exact ⟨registersValid.1, registersValid.2, cpuAuto, cpuManual, cpuTurbo, gpuAuto,
          gpuManual, gpuTurbo⟩
      · cases checked

theorem configParsePowerSourceProfiles_valid {profiles : Option σ}
    {platformProfiles : PlatformProfileConfig} {parsed : PowerSourceProfileConfig}
    (read : configParsePowerSourceProfiles profiles platformProfiles = some parsed) :
    (parsed.acProfile = [] ∧ parsed.batteryProfile = []) ∨
      powerSourceProfilesReferToKnownProfiles platformProfiles parsed := by
  cases profiles with
  | none =>
      cases read
      exact Or.inl ⟨rfl, rfl⟩
  | some profiles =>
      obtain ⟨cfg, _, checked⟩ := Option.bind_eq_some_iff.mp read
      split at checked
      · rename_i known
        cases checked
        exact Or.inr known
      · cases checked

theorem configParseKeyboardBacklight_valid {section_ : Option σ} {parsed : KeyboardBacklightConfig}
    (read : configParseKeyboardBacklight section_ = some parsed) : parsed.Valid := by
  cases section_ with
  | none =>
      cases read
      constructor <;> decide
  | some section_ =>
      obtain ⟨cfg, _, checked⟩ := Option.bind_eq_some_iff.mp read
      split at checked
      · rename_i valid
        cases checked
        obtain ⟨⟨reg, minValue, maxValue⟩, range, seconds⟩ := valid
        exact ⟨fun _ => reg, minValue, maxValue, fun _ => range, seconds⟩
      · cases checked

theorem parseCurveEntry_valid {thresholdJson : σ} {threshold : Threshold}
    (read : parseCurveEntry thresholdJson = some threshold) : threshold.Valid := by
  unfold parseCurveEntry at read
  simp only [bind, Option.bind_eq_some_iff] at read
  obtain ⟨up, _, down, _, speed, _, checked⟩ := read
  split at checked
  · rename_i inside
    cases checked
    obtain ⟨upLow, upHigh, downLow, _, ordered, bounded⟩ := inside
    exact ⟨⟨upLow, upHigh⟩, ⟨downLow, ordered⟩, bounded⟩
  · cases checked

theorem parseInitWrite_valid {writeJson : σ} {write : EcWriteConfig}
    (parsed : parseInitWrite writeJson = .ok write) :
    configByteValueValid write.reg ∧ configByteValueValid write.value ∧
      configByteValueValid write.resetValue := by
  have read := orInvalid_eq_ok.mp parsed
  simp only [bind, Option.bind_eq_some_iff] at read
  obtain ⟨reg, _, value, _, resetValue, _, checked⟩ := read
  split at checked
  · rename_i bytes
    cases checked
    exact bytes
  · cases checked

theorem parseFanEcRegisters_valid {fanJson : σ} {registers : Int × Int}
    (parsed : parseFanEcRegisters fanJson = .ok registers) :
    configByteValueValid registers.1 ∧ configByteValueValid registers.2 := by
  have read := orInvalid_eq_ok.mp parsed
  simp only [bind, Option.bind_eq_some_iff] at read
  obtain ⟨readRegister, _, writeRegister, _, checked⟩ := read
  split at checked
  · rename_i bytes
    cases checked
    exact bytes
  · cases checked

theorem parseFanTemperatureRegisters_valid {fanJson : σ} {registers : Int × Int}
    (parsed : parseFanTemperatureRegisters fanJson = .ok registers) :
    (registers.1 = -1 ∨ configByteValueValid registers.1) ∧
      (registers.2 = -1 ∨ configByteValueValid registers.2) := by
  obtain ⟨⟨first, second⟩, _, checked⟩ := bind_eq_ok.mp parsed
  dsimp only at checked
  split at checked
  · cases checked
  · rename_i firstByte
    split at checked
    · cases checked
    · rename_i secondByte
      cases checked
      exact ⟨by tauto, by tauto⟩

theorem parseFanNumericLimits_missing {fanJson : σ} {limits : FanNumericLimits}
    (parsed : parseFanNumericLimits fanJson = .ok limits) :
    configSpeedValueValid limits.missingTemperatureSpeedPercent := by
  have read := orInvalid_eq_ok.mp parsed
  simp only [bind, Option.bind_eq_some_iff] at read
  obtain ⟨_, _, _, _, _, _, _, _, _, _, _, missing, same⟩ := read
  cases same
  exact configOptionalClampedIntKey_bounds (by decide) missing

theorem validateFanNumericRanges_eq_ok {limits : FanNumericLimits}
    (checked : validateFanNumericRanges limits = .ok ()) :
    (0 ≤ limits.readMin ∧ limits.readMin < limits.readMax) ∧
      (0 ≤ limits.writeMin ∧ limits.writeMax ≤ 100 ∧ limits.writeMin < limits.writeMax) ∧
        limits.writeMin ≤ limits.resetSpeed ∧ limits.resetSpeed ≤ limits.writeMax := by
  unfold validateFanNumericRanges at checked
  split at checked
  · rename_i ranges
    exact ranges
  · cases checked

end Sections

/-! ## Fans, profiles and presets -/

section Entries

theorem parsePlatformProfileEntry_valid {profileJson : CString} {profile : PlatformProfileEntry}
    (parsed : parsePlatformProfileEntry profileJson = .ok profile) :
    RequiredText 32 profile.id ∧ configByteValueValid profile.value := by
  obtain ⟨value, _, id, found, checked⟩ := parsePlatformProfileEntry_eq_ok.mp parsed
  split at checked
  · rename_i byte
    cases checked
    exact ⟨configRequiredStringKey_accepted found, byte⟩
  · cases checked

theorem configParsePlatformProfiles_valid {profiles : Option CString}
    {parsed : PlatformProfileConfig} (read : configParsePlatformProfiles profiles = .ok parsed) :
    configByteValueValid parsed.reg ∧
      (∀ profile ∈ parsed.profiles,
        RequiredText 32 profile.id ∧ configByteValueValid profile.value) ∧
          parsed.profiles.length ≤ 8 := by
  cases profiles with
  | none =>
      cases read
      exact ⟨by decide, nofun, by decide⟩
  | some profiles =>
      obtain ⟨_, header, each⟩ := configParsePlatformProfiles_some read
      have accepted := parseOptionalList_accepted
        (fun _ _ parsed => parsePlatformProfileEntry_valid parsed) each
      refine ⟨?_, accepted⟩
      unfold parsePlatformProfileHeader at header
      simp only [bind, Option.bind_eq_some_iff] at header
      obtain ⟨_, _, _, _, checked⟩ := header
      split at checked
      · rename_i byte
        cases checked
        exact byte
      · cases checked

theorem parsePreset_valid {presetJson : CString} {preset : PresetConfig}
    (parsed : parsePreset presetJson = .ok preset) :
    RequiredText 32 preset.id ∧ configPercentValueValid preset.cpu ∧
      configPercentValueValid preset.gpu := by
  have read := orInvalid_eq_ok.mp parsed
  simp only [bind, Option.bind_eq_some_iff] at read
  obtain ⟨cpu, _, gpu, _, id, found, checked⟩ := read
  split at checked
  · rename_i percents
    cases checked
    exact ⟨configRequiredStringKey_accepted found, percents⟩
  · cases checked

theorem parseFanIdentity_valid {fanJson id name sensorGroup : CString}
    (read : parseFanIdentity fanJson = some (id, name, sensorGroup)) :
    RequiredText 16 id ∧ RequiredText 64 name ∧ RequiredText 16 sensorGroup := by
  unfold parseFanIdentity at read
  simp only [bind, Option.bind_eq_some_iff] at read
  obtain ⟨_, foundId, _, foundName, _, foundGroup, same⟩ := read
  cases same
  exact ⟨configRequiredStringKey_accepted foundId, configRequiredStringKey_accepted foundName,
    configRequiredStringKey_accepted foundGroup⟩

/-- The control group is a plain string, be it read or copied from the sensor group. -/
theorem parseFanSensorConfig_valid {fanJson sensorGroup : CString} {sensor : FanSensorConfig}
    (group : RequiredText 16 sensorGroup)
    (parsed : parseFanSensorConfig fanJson sensorGroup = .ok sensor) :
    (PlainText sensor.controlSensorGroup ∧ sensor.controlSensorGroup.length < 16) ∧
      (sensor.sensorPowerControl = [] ∨ sensor.sensorPowerControl = "on".toList ∨
        sensor.sensorPowerControl = "auto".toList) := by
  obtain ⟨controlGroup, foundGroup, rest⟩ := bind_eq_ok.mp parsed
  obtain ⟨keepAwake, _, rest⟩ := bind_eq_ok.mp rest
  obtain ⟨powerControl, _, same⟩ := bind_eq_ok.mp rest
  cases same
  constructor
  · obtain ⟨plain, _, fits⟩ := group
    rcases configOptionalStringKey_accepted (orInvalid_eq_ok.mp foundGroup) with rfl | accepted
    · have whole : copyDefaultControlSensorGroup sensorGroup = sensorGroup :=
        List.take_of_length_le (by omega)
      rw [whole]
      exact ⟨plain, fits⟩
    · exact accepted
  · dsimp only
    split
    · exact Or.inl rfl
    · tauto

theorem parseCurve_valid {fanJson : CString} {curve : List Threshold}
    (parsed : parseCurve fanJson = .ok curve) :
    (∀ threshold ∈ curve, threshold.Valid) ∧ curve ≠ [] ∧ curve.length ≤ 32 := by
  obtain ⟨points, found, rest⟩ := bind_eq_ok.mp parsed
  obtain ⟨thresholds, each, checked⟩ := bind_eq_ok.mp rest
  split at checked
  · rename_i nonempty
    cases checked
    refine ⟨parseEach_all (fun _ _ point => parseCurveEntry_valid (orInvalid_eq_ok.mp point)) each,
      List.length_pos_iff.mp nonempty, ?_⟩
    rw [parseEach_length each]
    exact objects_length_le (orInvalid_eq_ok.mp found)
  · cases checked

theorem parseFan_valid {fanJson : CString} {fan : FanConfig}
    (parsed : parseFan fanJson = .ok fan) : fan.Valid ∧ RequiredText 64 fan.name := by
  have loads := parseFan_eq_ok.mp parsed
  obtain ⟨validId, validName, validGroup⟩ := parseFanIdentity_valid loads.identity
  obtain ⟨controlGroup, powerControl⟩ := parseFanSensorConfig_valid validGroup loads.sensor
  obtain ⟨readByte, writeByte⟩ := parseFanEcRegisters_valid loads.registers
  obtain ⟨temperatureByte, controlByte⟩ := parseFanTemperatureRegisters_valid loads.temperatures
  obtain ⟨readRange, ⟨writeMin, writeMax, writeRange⟩, resetSpeed⟩ :=
    validateFanNumericRanges_eq_ok loads.ranges
  refine ⟨?_, validName⟩
  exact {
    id := validId
    sensorGroup := validGroup
    controlSensorGroup := controlGroup
    sensorPowerControl := powerControl
    readRegister := readByte
    writeRegister := writeByte
    temperatureRegister := temperatureByte
    controlTemperatureRegister := controlByte
    readRange := readRange
    writeMin := writeMin
    writeMax := writeMax
    writeRange := writeRange
    resetSpeed := resetSpeed
    missingTemperatureSpeedPercent := parseFanNumericLimits_missing loads.limits
    curve := parseCurve_valid loads.curve }

theorem configParseFans_valid {json : CString} {fans : List FanConfig}
    (parsed : configParseFans json = .ok fans) :
    (∀ fan ∈ fans, fan.Valid ∧ RequiredText 64 fan.name) ∧ 1 ≤ fans.length ∧ fans.length ≤ 2 := by
  obtain ⟨entries, found, each, nonempty⟩ := configParseFans_eq_ok.mp parsed
  refine ⟨parseEach_all (fun _ _ entry => parseFan_valid entry) each, nonempty, ?_⟩
  rw [parseEach_length each]
  exact objects_length_le found

end Entries

theorem allowedDmiEntries_bounds (limit : Nat) (p : CString) :
    (allowedDmiEntries limit p).length ≤ limit ∧
      ∀ entry ∈ allowedDmiEntries limit p, entry.length < 64 := by
  rw [allowedDmiEntries_eq]
  constructor
  · rw [List.length_map, List.length_take]
    exact Nat.min_le_left _ _
  · intro entry member
    obtain ⟨piece, _, rfl⟩ := List.mem_map.mp member
    rw [jsonCopySlice, List.length_take]
    omega

/-! ## The loader -/

theorem Loads.accepted {json : CString} {cfg : AnsConfig} (loads : Loads json cfg) :
    cfg.Accepted := by
  have critical := configLoadBoundedInt_bounds loads.criticalTemperatureC
  have identity := loads.identity
  unfold configLoadIdentity at identity
  simp only [bind, Option.bind_eq_some_iff] at identity
  obtain ⟨_, model, _, defaultPreset, _, _, same⟩ := identity
  cases same
  obtain ⟨reg, profiles, profileLen⟩ := configParsePlatformProfiles_valid loads.platformProfiles
  obtain ⟨fans, fanLen⟩ := configParseFans_valid loads.fans
  obtain ⟨writes, writeLen⟩ := parseOptionalList_accepted
    (fun _ _ write => parseInitWrite_valid write) loads.initWrites
  obtain ⟨presets, presetLen⟩ := parseOptionalList_accepted
    (fun _ _ preset => parsePreset_valid preset) loads.presets
  exact {
    defaultPreset := configRequiredStringKey_accepted defaultPreset
    pollIntervalMs := configLoadBoundedInt_bounds loads.pollIntervalMs
    criticalTemperatureC := critical
    safety := configParseSafety_valid critical.1 loads.safety
    coolboostDefaultEnabled := loads.coolboostDefaultEnabled
    fanModes := configParseFanModes_valid loads.fanModes
    platformProfileReg := reg
    platformProfiles := profiles
    platformProfileLen := profileLen
    powerSourceProfiles := configParsePowerSourceProfiles_valid loads.powerSourceProfiles
    keyboardBacklight := configParseKeyboardBacklight_valid loads.keyboardBacklight
    initWrites := writes
    initWriteLen := writeLen
    fans := fun fan member => (fans fan member).1
    fanLen := fanLen
    presets := presets
    presetLen := presetLen
    model := configRequiredStringKey_accepted model
    fanNames := fun fan member => (fans fan member).2
    allowedDmi := by
      rw [loads.allowedDmi, configParseAllowedDmi]
      split
      · exact ⟨Nat.zero_le _, nofun⟩
      · exact allowedDmiEntries_bounds 8 _ }

/-- Whatever the bytes of the file are, a profile that loads is valid. -/
theorem configLoad_accepted {bytes : List Char} {cfg : AnsConfig}
    (loaded : configLoad (some bytes) = .ok cfg) : cfg.Accepted :=
  (configLoadText_eq_ok.mp loaded).accepted

/-- A profile of one fan with the required keys only, as it loads. -/
def smallestConfig : AnsConfig where
  model := "small".toList
  defaultPreset := "auto".toList
  safety := { criticalReleaseTemperatureC := 85 }
  fanModes := absentFanModes
  fans :=
    [{ id := "cpu".toList
       name := "CPU fan".toList
       sensorGroup := "cpu".toList
       controlSensorGroup := "cpu".toList
       readRegister := 19
       writeRegister := 55
       curve := [⟨60, 50, 40⟩] }]

theorem AcerNitroAn517.document_loads : configLoad (some document.text) = .ok config := by
  decide +kernel

theorem configLoad_accepted_shipped : AcerNitroAn517.config.Accepted :=
  configLoad_accepted AcerNitroAn517.document_loads

end NitroSense
