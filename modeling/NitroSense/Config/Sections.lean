import NitroSense.Config.Parse

/-!
# The sections of the `ec` object

`config/safety.c`, `config/sections.c` and `config/platform.c`.  Each parser
stands behind the search for its section; one that is absent leaves its
defaults.
-/

namespace NitroSense

variable {σ : Type} [KeySource σ]

/-! ## Safety -/

/-- The policy `config_parse_safety` starts from. -/
def defaultSafety (criticalTemperatureC : Int) : SafetyConfig where
  criticalReleaseTemperatureC := criticalTemperatureC - 5

def parseSafetyPolicy (safety : σ) (criticalTemperatureC : Int) : Option SafetyConfig := do
  let defaults := defaultSafety criticalTemperatureC
  let minSpeedPercent ← configOptionalClampedIntKey safety "min_speed_percent"
    defaults.minSpeedPercent 1 100
  let minSpeedTemperatureC ← configOptionalClampedIntKey safety "min_speed_temperature_c"
    defaults.minSpeedTemperatureC 1 130
  let criticalSpeedPercent ← configOptionalClampedIntKey safety "critical_speed_percent"
    defaults.criticalSpeedPercent 1 100
  let criticalFullSpeed ← configOptionalBoolKey safety "critical_full_speed"
    defaults.criticalFullSpeed
  let criticalStepPercent ← configOptionalClampedIntKey safety "critical_step_percent"
    defaults.criticalStepPercent 1 100
  let criticalConsecutiveSamples ← configOptionalClampedIntKey safety
    "critical_consecutive_samples" defaults.criticalConsecutiveSamples 1 10
  let criticalReleaseTemperatureC ← configOptionalClampedIntKey safety
    "critical_release_temperature_c" defaults.criticalReleaseTemperatureC 1 criticalTemperatureC
  let autoRampUpPercent ← configOptionalClampedIntKey safety "auto_ramp_up_percent"
    defaults.autoRampUpPercent 0 100
  let autoRampBypassTemperatureC ← configOptionalClampedIntKey safety
    "auto_ramp_bypass_temperature_c" defaults.autoRampBypassTemperatureC 0 criticalTemperatureC
  let missingTemperatureSpeedPercent ← configOptionalClampedIntKey safety
    "missing_temperature_speed_percent" defaults.missingTemperatureSpeedPercent 1 100
  let maxEcReadFailures ← configOptionalClampedIntKey safety "max_ec_read_failures"
    defaults.maxEcReadFailures 1 100
  let maxEcWriteFailures ← configOptionalClampedIntKey safety "max_ec_write_failures"
    defaults.maxEcWriteFailures 1 100
  some {
    minSpeedPercent, minSpeedTemperatureC, criticalSpeedPercent, criticalFullSpeed
    criticalStepPercent, criticalConsecutiveSamples, criticalReleaseTemperatureC
    autoRampUpPercent, autoRampBypassTemperatureC, missingTemperatureSpeedPercent
    maxEcReadFailures, maxEcWriteFailures }

def configParseSafety (safety : Option σ) (criticalTemperatureC : Int) : Option SafetyConfig :=
  match safety with
  | none => some (defaultSafety criticalTemperatureC)
  | some safety => parseSafetyPolicy safety criticalTemperatureC

/-! ## Fan modes -/

/-- What `config_parse_fan_modes` leaves without the section. -/
def absentFanModes : FanModeConfig where
  available := false
  cpuReg := 0
  gpuReg := 0
  cpuAutoValue := 0
  cpuManualValue := 0
  cpuTurboValue := 0
  gpuAutoValue := 0
  gpuManualValue := 0
  gpuTurboValue := 0

/-- `parse_fan_mode_registers`, with the defaults of `set_default_fan_mode_values` behind it. -/
def parseFanModeRegisters (fanModes : σ) : Option FanModeConfig := do
  let cpuReg ← configRequiredIntKey fanModes "cpu_register"
  let gpuReg ← configRequiredIntKey fanModes "gpu_register"
  if configByteValueValid cpuReg ∧ configByteValueValid gpuReg then
    some { available := true, cpuReg, gpuReg }
  else none

def parseFanModeValues (fanModes : σ) (cfg : FanModeConfig) : Option FanModeConfig := do
  let cpuAutoValue ← configOptionalIntKey fanModes "cpu_auto_value" cfg.cpuAutoValue
  let cpuManualValue ← configOptionalIntKey fanModes "cpu_manual_value" cfg.cpuManualValue
  let cpuTurboValue ← configOptionalIntKey fanModes "cpu_turbo_value" cfg.cpuTurboValue
  let gpuAutoValue ← configOptionalIntKey fanModes "gpu_auto_value" cfg.gpuAutoValue
  let gpuManualValue ← configOptionalIntKey fanModes "gpu_manual_value" cfg.gpuManualValue
  let gpuTurboValue ← configOptionalIntKey fanModes "gpu_turbo_value" cfg.gpuTurboValue
  some { cfg with
    cpuAutoValue, cpuManualValue, cpuTurboValue, gpuAutoValue, gpuManualValue, gpuTurboValue }

def fanModeValuesValid (cfg : FanModeConfig) : Prop :=
  configByteValueValid cfg.cpuAutoValue ∧ configByteValueValid cfg.cpuManualValue ∧
    configByteValueValid cfg.cpuTurboValue ∧ configByteValueValid cfg.gpuAutoValue ∧
      configByteValueValid cfg.gpuManualValue ∧ configByteValueValid cfg.gpuTurboValue

instance (cfg : FanModeConfig) : Decidable (fanModeValuesValid cfg) :=
  inferInstanceAs (Decidable (_ ∧ _))

def configParseFanModes (fanModes : Option σ) : Option FanModeConfig :=
  match fanModes with
  | none => some absentFanModes
  | some fanModes => do
      let registers ← parseFanModeRegisters fanModes
      let cfg ← parseFanModeValues fanModes registers
      if fanModeValuesValid cfg then some cfg else none

/-! ## Platform profiles -/

def parsePlatformProfileEntry (profileJson : σ) : ConfigResult PlatformProfileEntry :=
  let entry : Option PlatformProfileEntry := do
    let value ← configRequiredIntKey profileJson "value"
    let id ← configRequiredStringKey profileJson "id" 32
    if configByteValueValid value then some { id, value } else none
  match entry with
  | none => .error []
  | some entry => .ok entry

theorem parsePlatformProfileEntry_eq_ok {profileJson : σ} {profile : PlatformProfileEntry} :
    parsePlatformProfileEntry profileJson = .ok profile ↔
      ∃ value, configRequiredIntKey profileJson "value" = some value ∧
        ∃ id, configRequiredStringKey profileJson "id" 32 = some id ∧
          (if configByteValueValid value then some ⟨id, value⟩ else none) = some profile := by
  simp only [parsePlatformProfileEntry, bind, ← Option.bind_eq_some_iff]
  split
  · rename_i missing
    rw [missing]
    exact ⟨nofun, nofun⟩
  · rename_i entry read
    rw [read]
    exact ⟨fun same => by cases same; rfl, fun same => by cases same; rfl⟩

def parsePlatformProfileHeader (profiles : σ) : Option (Int × CString) := do
  let reg ← configRequiredIntKey profiles "register"
  let defaultProfile ← configOptionalStringKey profiles "default_profile" [] 32
  if configByteValueValid reg then some (reg, defaultProfile) else none

def configParsePlatformProfiles (profiles : Option σ) : ConfigResult PlatformProfileConfig :=
  match profiles with
  | none => .ok {}
  | some profiles =>
      match parsePlatformProfileHeader profiles with
      | none => .error []
      | some (reg, defaultProfile) => do
          -- without the list the section is accepted with an empty table
          let entries ← parseOptionalList parsePlatformProfileEntry profiles "profiles" 512 8
          .ok { available := true, reg, defaultProfile, profiles := entries }

/-- What a platform section that parses consists of. -/
theorem configParsePlatformProfiles_some {profiles : σ} {parsed : PlatformProfileConfig}
    (read : configParsePlatformProfiles (some profiles) = .ok parsed) :
    parsed.available = true ∧
      parsePlatformProfileHeader profiles = some (parsed.reg, parsed.defaultProfile) ∧
        parseOptionalList parsePlatformProfileEntry profiles "profiles" 512 8 =
          .ok parsed.profiles := by
  unfold configParsePlatformProfiles at read
  dsimp only at read
  split at read
  · cases read
  · rename_i header
    obtain ⟨entries, each, same⟩ := bind_eq_ok.mp read
    cases same
    exact ⟨rfl, header, each⟩

/-! ## Power sources -/

def parsePowerSourceProfileFields (profiles : σ) : Option PowerSourceProfileConfig := do
  let acProfile ← configRequiredStringKey profiles "ac" 32
  let batteryProfile ← configRequiredStringKey profiles "battery" 32
  let autoApply ← configOptionalBoolKey profiles "auto_apply" false
  some { autoApply, acProfile, batteryProfile }

/-- `power_source_profiles_refer_to_known_profiles`, on the platform profiles parsed before. -/
def powerSourceProfilesReferToKnownProfiles (platformProfiles : PlatformProfileConfig)
    (cfg : PowerSourceProfileConfig) : Prop :=
  platformProfiles.available = true ∧
    (platformProfiles.profiles.find? fun profile => profile.id = cfg.acProfile).isSome ∧
      (platformProfiles.profiles.find? fun profile => profile.id = cfg.batteryProfile).isSome

instance (platformProfiles : PlatformProfileConfig) (cfg : PowerSourceProfileConfig) :
    Decidable (powerSourceProfilesReferToKnownProfiles platformProfiles cfg) :=
  inferInstanceAs (Decidable (_ ∧ _))

def configParsePowerSourceProfiles (profiles : Option σ)
    (platformProfiles : PlatformProfileConfig) : Option PowerSourceProfileConfig :=
  match profiles with
  | none => some {}
  | some profiles => do
      let cfg ← parsePowerSourceProfileFields profiles
      if powerSourceProfilesReferToKnownProfiles platformProfiles cfg then some cfg else none

/-! ## Keyboard backlight -/

/-- `parse_keyboard_backlight_fields`; an available backlight that is still to be validated. -/
def parseKeyboardBacklightFields (section_ : σ) : Option KeyboardBacklightConfig := do
  let reg ← configRequiredIntKey section_ "register"
  let maxValue ← configRequiredIntKey section_ "max_value"
  let minValue ← configOptionalIntKey section_ "min_value" 0
  let timeoutSupported ← configOptionalBoolKey section_ "timeout_supported" false
  let timeoutDefaultEnabled ← configOptionalBoolKey section_ "timeout_default_enabled" false
  let timeoutSeconds ← configOptionalIntKey section_ "timeout_seconds" 30
  some { available := true, reg, minValue, maxValue, timeoutSupported, timeoutDefaultEnabled
         timeoutSeconds }

def keyboardBacklightValuesValid (cfg : KeyboardBacklightConfig) : Prop :=
  (configByteValueValid cfg.reg ∧ configByteValueValid cfg.minValue ∧
    configByteValueValid cfg.maxValue) ∧ cfg.minValue < cfg.maxValue ∧
      5 ≤ cfg.timeoutSeconds ∧ cfg.timeoutSeconds ≤ 3600

instance (cfg : KeyboardBacklightConfig) : Decidable (keyboardBacklightValuesValid cfg) :=
  inferInstanceAs (Decidable (_ ∧ _))

def configParseKeyboardBacklight (section_ : Option σ) : Option KeyboardBacklightConfig :=
  match section_ with
  | none => some {}
  | some section_ => do
      let cfg ← parseKeyboardBacklightFields section_
      if keyboardBacklightValuesValid cfg then some cfg else none

end NitroSense
