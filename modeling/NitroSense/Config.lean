import Mathlib.Data.List.GetD
import Mathlib.Data.List.Nodup
import NitroSense.Json

/-!
# Model profiles

The structures of `config/types.h` and what `config_load` checks before it
accepts a profile.  Fixed-size arrays are lists, so the length fields of the
source are list lengths.
-/

namespace NitroSense

structure Threshold where
  up : Int
  down : Int
  speed : Int
  deriving DecidableEq, Repr, Inhabited

structure FanConfig where
  id : CString
  name : CString
  sensorGroup : CString
  controlSensorGroup : CString
  sensorPowerControl : CString := []
  keepAwake : Bool := false
  readRegister : Int
  writeRegister : Int
  temperatureRegister : Int := -1
  controlTemperatureRegister : Int := -1
  readMin : Int := 0
  readMax : Int := 6000
  writeMin : Int := 0
  writeMax : Int := 100
  resetSpeed : Int := 50
  missingTemperatureSpeedPercent : Int := 0
  curve : List Threshold
  deriving DecidableEq, Repr, Inhabited

structure EcWriteConfig where
  reg : Int
  value : Int
  resetValue : Int
  deriving DecidableEq, Repr, Inhabited

structure PresetConfig where
  id : CString
  cpu : Int
  gpu : Int
  deriving DecidableEq, Repr, Inhabited

/-- The safety policy; the field defaults are those of `config_parse_safety`. -/
structure SafetyConfig where
  minSpeedPercent : Int := 30
  minSpeedTemperatureC : Int := 60
  criticalSpeedPercent : Int := 100
  criticalFullSpeed : Bool := true
  criticalStepPercent : Int := 20
  criticalConsecutiveSamples : Int := 1
  criticalReleaseTemperatureC : Int
  autoRampUpPercent : Int := 0
  autoRampBypassTemperatureC : Int := 0
  missingTemperatureSpeedPercent : Int := 60
  maxEcReadFailures : Int := 3
  maxEcWriteFailures : Int := 3
  deriving DecidableEq, Repr

structure FanModeConfig where
  available : Bool
  cpuReg : Int
  gpuReg : Int
  cpuAutoValue : Int := 4
  cpuManualValue : Int := 12
  cpuTurboValue : Int := 8
  gpuAutoValue : Int := 16
  gpuManualValue : Int := 48
  gpuTurboValue : Int := 32
  deriving DecidableEq, Repr

structure PlatformProfileEntry where
  id : CString
  value : Int
  deriving DecidableEq, Repr, Inhabited

structure PlatformProfileConfig where
  available : Bool := false
  reg : Int := 0
  defaultProfile : CString := []
  profiles : List PlatformProfileEntry := []
  deriving DecidableEq, Repr

structure PowerSourceProfileConfig where
  autoApply : Bool := false
  acProfile : CString := []
  batteryProfile : CString := []
  deriving DecidableEq, Repr

structure KeyboardBacklightConfig where
  available : Bool := false
  reg : Int := -1
  minValue : Int := 0
  maxValue : Int := 0
  timeoutSupported : Bool := false
  timeoutDefaultEnabled : Bool := false
  timeoutSeconds : Int := 30
  deriving DecidableEq, Repr

/-- A complete model profile; `coolboost.default_enabled` is always false after loading. -/
structure AnsConfig where
  model : CString
  defaultPreset : CString
  ecPath : CString := "/sys/kernel/debug/ec/ec0/io".toList
  allowedDmi : List CString := []
  pollIntervalMs : Int := 3000
  criticalTemperatureC : Int := 90
  readWords : Bool := true
  safety : SafetyConfig
  coolboostDefaultEnabled : Bool := false
  fanModes : FanModeConfig
  platformProfiles : PlatformProfileConfig := {}
  powerSourceProfiles : PowerSourceProfileConfig := {}
  keyboardBacklight : KeyboardBacklightConfig := {}
  initWrites : List EcWriteConfig := []
  fans : List FanConfig
  presets : List PresetConfig := []
  deriving DecidableEq, Repr

namespace AnsConfig

abbrev fanLen (cfg : AnsConfig) : Nat := cfg.fans.length

/-- `cfg->fans[i]`; loops only ask for `i < fan_len`. -/
def fan (cfg : AnsConfig) (i : Nat) : FanConfig := cfg.fans.getD i default

theorem fan_mem {cfg : AnsConfig} {i : Nat} (below : i < cfg.fanLen) : cfg.fan i ∈ cfg.fans := by
  rw [fan, List.getD_eq_getElem _ _ below]
  exact List.getElem_mem below

end AnsConfig

/-! ## The registers a profile names -/

namespace AnsConfig

variable (cfg : AnsConfig)

def modeRegisters : List Int :=
  if cfg.fanModes.available then [cfg.fanModes.cpuReg, cfg.fanModes.gpuReg] else []

/-- The registers of the profiles and the keyboard. -/
def sideRegisters : List Int :=
  (if cfg.platformProfiles.available then [cfg.platformProfiles.reg] else []) ++
    if cfg.keyboardBacklight.available then [cfg.keyboardBacklight.reg] else []

def observedRegisters : List Int :=
  cfg.fans.map FanConfig.readRegister ++
    (cfg.fans.map FanConfig.temperatureRegister ++
      cfg.fans.map FanConfig.controlTemperatureRegister).filter (0 ≤ ·)

/-- Every register but those of the fan modes. -/
def otherRegisters : List Int :=
  cfg.fans.map FanConfig.writeRegister ++
    (cfg.sideRegisters ++ (cfg.observedRegisters ++ cfg.initWrites.map EcWriteConfig.reg))

def RegistersDistinct : Prop := (cfg.modeRegisters ++ cfg.otherRegisters).Nodup

instance : Decidable cfg.RegistersDistinct := inferInstanceAs (Decidable (List.Nodup _))

theorem writeRegister_mem {cfg : AnsConfig} {i : Nat} (below : i < cfg.fanLen) :
    (cfg.fan i).writeRegister ∈ cfg.fans.map FanConfig.writeRegister :=
  List.mem_map_of_mem (fan_mem below)

/-- Fans with distinct write registers are told apart by them. -/
theorem writeRegister_inj {cfg : AnsConfig}
    (distinct : (cfg.fans.map FanConfig.writeRegister).Nodup) {i j : Nat} (first : i < cfg.fanLen)
    (second : j < cfg.fanLen) (same : (cfg.fan i).writeRegister = (cfg.fan j).writeRegister) :
    i = j := by
  rw [fan, fan, List.getD_eq_getElem _ _ first, List.getD_eq_getElem _ _ second] at same
  have inj := @List.Nodup.getElem_inj_iff _ _ distinct i (by simpa using first) j
    (by simpa using second)
  exact inj.mp (by simpa using same)

end AnsConfig

/-! ## Lookups -/

def configFindPreset (cfg : AnsConfig) (id : CString) : Option PresetConfig :=
  cfg.presets.find? fun preset => preset.id = id

def configFindPlatformProfile (cfg : AnsConfig) (id : CString) : Option PlatformProfileEntry :=
  cfg.platformProfiles.profiles.find? fun profile => profile.id = id

def configFindFan (cfg : AnsConfig) (id : CString) : Option FanConfig :=
  cfg.fans.find? fun fan => fan.id = id

theorem configFindPreset_id {cfg : AnsConfig} {id : CString} {preset : PresetConfig}
    (found : configFindPreset cfg id = some preset) : preset ∈ cfg.presets ∧ preset.id = id :=
  ⟨List.mem_of_find?_eq_some found, by simpa using List.find?_some found⟩

/-! ## What `config_load` accepts -/

def configByteValueValid (value : Int) : Prop := 0 ≤ value ∧ value ≤ 255

def configPercentValueValid (value : Int) : Prop := 1 ≤ value ∧ value ≤ 100

def configSpeedValueValid (value : Int) : Prop := 0 ≤ value ∧ value ≤ 100

instance (value : Int) : Decidable (configByteValueValid value) :=
  inferInstanceAs (Decidable (_ ∧ _))

instance (value : Int) : Decidable (configPercentValueValid value) :=
  inferInstanceAs (Decidable (_ ∧ _))

instance (value : Int) : Decidable (configSpeedValueValid value) :=
  inferInstanceAs (Decidable (_ ∧ _))

/-- A required string key: plain, nonempty and shorter than its buffer. -/
def RequiredText (bufLen : Nat) (text : CString) : Prop :=
  PlainText text ∧ text ≠ [] ∧ text.length < bufLen

instance (bufLen : Nat) (text : CString) : Decidable (RequiredText bufLen text) :=
  inferInstanceAs (Decidable (_ ∧ _ ∧ _))

/-- `parse_safety_policy` clamps every field into these ranges. -/
structure SafetyConfig.Valid (safety : SafetyConfig) (criticalTemperatureC : Int) : Prop where
  minSpeedPercent : configPercentValueValid safety.minSpeedPercent
  minSpeedTemperatureC : 1 ≤ safety.minSpeedTemperatureC ∧ safety.minSpeedTemperatureC ≤ 130
  criticalSpeedPercent : configPercentValueValid safety.criticalSpeedPercent
  criticalStepPercent : configPercentValueValid safety.criticalStepPercent
  criticalConsecutiveSamples :
    1 ≤ safety.criticalConsecutiveSamples ∧ safety.criticalConsecutiveSamples ≤ 10
  criticalReleaseTemperatureC : safety.criticalReleaseTemperatureC ≤ criticalTemperatureC
  autoRampUpPercent : configSpeedValueValid safety.autoRampUpPercent
  autoRampBypassTemperatureC : 0 ≤ safety.autoRampBypassTemperatureC ∧
    safety.autoRampBypassTemperatureC ≤ criticalTemperatureC
  missingTemperatureSpeedPercent : configPercentValueValid safety.missingTemperatureSpeedPercent
  maxEcReadFailures : configPercentValueValid safety.maxEcReadFailures
  maxEcWriteFailures : configPercentValueValid safety.maxEcWriteFailures

structure Threshold.Valid (threshold : Threshold) : Prop where
  up : 0 ≤ threshold.up ∧ threshold.up ≤ 130
  down : 0 ≤ threshold.down ∧ threshold.down ≤ threshold.up
  speed : configSpeedValueValid threshold.speed

instance (threshold : Threshold) : Decidable threshold.Valid :=
  decidable_of_iff
    ((0 ≤ threshold.up ∧ threshold.up ≤ 130) ∧ (0 ≤ threshold.down ∧ threshold.down ≤ threshold.up) ∧
      configSpeedValueValid threshold.speed)
    ⟨fun ⟨up, down, speed⟩ => ⟨up, down, speed⟩, fun ⟨up, down, speed⟩ => ⟨up, down, speed⟩⟩

/-- What `parse_fan` checks of one fan entry. -/
structure FanConfig.Valid (fan : FanConfig) : Prop where
  id : RequiredText 16 fan.id
  sensorGroup : RequiredText 16 fan.sensorGroup
  controlSensorGroup : PlainText fan.controlSensorGroup ∧ fan.controlSensorGroup.length < 16
  sensorPowerControl : fan.sensorPowerControl = [] ∨ fan.sensorPowerControl = "on".toList ∨
    fan.sensorPowerControl = "auto".toList
  readRegister : configByteValueValid fan.readRegister
  writeRegister : configByteValueValid fan.writeRegister
  temperatureRegister : fan.temperatureRegister = -1 ∨ configByteValueValid fan.temperatureRegister
  controlTemperatureRegister : fan.controlTemperatureRegister = -1 ∨
    configByteValueValid fan.controlTemperatureRegister
  readRange : 0 ≤ fan.readMin ∧ fan.readMin < fan.readMax
  writeMin : 0 ≤ fan.writeMin
  writeMax : fan.writeMax ≤ 100
  writeRange : fan.writeMin < fan.writeMax
  resetSpeed : fan.writeMin ≤ fan.resetSpeed ∧ fan.resetSpeed ≤ fan.writeMax
  missingTemperatureSpeedPercent : configSpeedValueValid fan.missingTemperatureSpeedPercent
  curve : (∀ threshold ∈ fan.curve, threshold.Valid) ∧ fan.curve ≠ [] ∧ fan.curve.length ≤ 32

/-- What `config_parse_fan_modes` leaves: byte registers and byte values. -/
structure FanModeConfig.Valid (fanModes : FanModeConfig) : Prop where
  cpuReg : configByteValueValid fanModes.cpuReg
  gpuReg : configByteValueValid fanModes.gpuReg
  cpuAutoValue : configByteValueValid fanModes.cpuAutoValue
  cpuManualValue : configByteValueValid fanModes.cpuManualValue
  cpuTurboValue : configByteValueValid fanModes.cpuTurboValue
  gpuAutoValue : configByteValueValid fanModes.gpuAutoValue
  gpuManualValue : configByteValueValid fanModes.gpuManualValue
  gpuTurboValue : configByteValueValid fanModes.gpuTurboValue

/-- What `config_parse_keyboard_backlight` checks when the section is present. -/
structure KeyboardBacklightConfig.Valid (keyboard : KeyboardBacklightConfig) : Prop where
  reg : keyboard.available = true → configByteValueValid keyboard.reg
  minValue : configByteValueValid keyboard.minValue
  maxValue : configByteValueValid keyboard.maxValue
  range : keyboard.available = true → keyboard.minValue < keyboard.maxValue
  timeoutSeconds : 5 ≤ keyboard.timeoutSeconds ∧ keyboard.timeoutSeconds ≤ 3600

/-- An accepted profile: everything `config_load` checks before it returns 0. -/
structure AnsConfig.Valid (cfg : AnsConfig) : Prop where
  defaultPreset : RequiredText 32 cfg.defaultPreset
  pollIntervalMs : 100 ≤ cfg.pollIntervalMs ∧ cfg.pollIntervalMs ≤ 60000
  criticalTemperatureC : 1 ≤ cfg.criticalTemperatureC ∧ cfg.criticalTemperatureC ≤ 130
  safety : cfg.safety.Valid cfg.criticalTemperatureC
  coolboostDefaultEnabled : cfg.coolboostDefaultEnabled = false
  fanModes : cfg.fanModes.Valid
  platformProfileReg : configByteValueValid cfg.platformProfiles.reg
  platformProfiles : ∀ profile ∈ cfg.platformProfiles.profiles,
    RequiredText 32 profile.id ∧ configByteValueValid profile.value
  platformProfileLen : cfg.platformProfiles.profiles.length ≤ 8
  powerSourceProfiles :
    (cfg.powerSourceProfiles.acProfile = [] ∧ cfg.powerSourceProfiles.batteryProfile = []) ∨
      (cfg.platformProfiles.available = true ∧
        (configFindPlatformProfile cfg cfg.powerSourceProfiles.acProfile).isSome ∧
        (configFindPlatformProfile cfg cfg.powerSourceProfiles.batteryProfile).isSome)
  keyboardBacklight : cfg.keyboardBacklight.Valid
  initWrites : ∀ write ∈ cfg.initWrites, configByteValueValid write.reg ∧
    configByteValueValid write.value ∧ configByteValueValid write.resetValue
  initWriteLen : cfg.initWrites.length ≤ 8
  fans : ∀ fan ∈ cfg.fans, fan.Valid
  fanLen : 1 ≤ cfg.fanLen ∧ cfg.fanLen ≤ 2
  presets : ∀ preset ∈ cfg.presets, RequiredText 32 preset.id ∧
    configPercentValueValid preset.cpu ∧ configPercentValueValid preset.gpu
  presetLen : cfg.presets.length ≤ 16

namespace AnsConfig.Valid

variable {cfg : AnsConfig}

theorem fan (valid : cfg.Valid) {i : Nat} (below : i < cfg.fanLen) : (cfg.fan i).Valid :=
  valid.fans _ (cfg.fan_mem below)

theorem preset (valid : cfg.Valid) {id : CString} {preset : PresetConfig}
    (found : configFindPreset cfg id = some preset) :
    RequiredText 32 preset.id ∧ configPercentValueValid preset.cpu ∧
      configPercentValueValid preset.gpu :=
  valid.presets preset (configFindPreset_id found).1

end AnsConfig.Valid

end NitroSense
