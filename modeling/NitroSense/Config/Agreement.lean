import NitroSense.Config.Document

/-!
# Parsers over agreeing sources

What a section parser accepts from one source it accepts from any other that
agrees with it on the keys the parser asks for.
-/

namespace NitroSense

open Lib

variable {σ τ : Type} [KeySource σ] [KeySource τ] {first : σ} {second : τ}

/-- The sources agree on every one of these keys. -/
def Agree (first : σ) (second : τ) (keys : List String) : Prop :=
  ∀ key ∈ keys, Agrees first second key

theorem ReadsKeys.agree {text : CString} {json : Json} {keys : List String}
    (reads : ReadsKeys text json keys) (keyTexts : ∀ key ∈ keys, KeyText key.toList) :
    Agree text json keys :=
  fun key member => (reads key member).agrees (keyTexts key member)

/-- A section is absent from both sources, or they agree on its keys. -/
def AgreeSection (first : Option σ) (second : Option τ) (keys : List String) : Prop :=
  Option.Rel (fun found section_ => Agree found section_ keys) first second

/-! ## The keys of each parser -/

def safetyKeys : List String :=
  ["min_speed_percent", "min_speed_temperature_c", "critical_speed_percent",
   "critical_full_speed", "critical_step_percent", "critical_consecutive_samples",
   "critical_release_temperature_c", "auto_ramp_up_percent", "auto_ramp_bypass_temperature_c",
   "missing_temperature_speed_percent", "max_ec_read_failures", "max_ec_write_failures"]

def fanModeKeys : List String :=
  ["cpu_register", "gpu_register", "cpu_auto_value", "cpu_manual_value", "cpu_turbo_value",
   "gpu_auto_value", "gpu_manual_value", "gpu_turbo_value"]

def platformProfileKeys : List String := ["register", "default_profile"]

def powerSourceProfileKeys : List String := ["ac", "battery", "auto_apply"]

def keyboardBacklightKeys : List String :=
  ["register", "max_value", "min_value", "timeout_supported", "timeout_default_enabled",
   "timeout_seconds"]

def platformProfileEntryKeys : List String := ["value", "id"]

def curveEntryKeys : List String := ["up", "down", "speed"]

/-- The keys of a fan, its curve apart. -/
def fanKeys : List String :=
  ["id", "name", "sensor_group", "control_sensor_group", "keep_awake", "sensor_power_control",
   "read_register", "write_register", "temperature_register", "control_temperature_register",
   "read_min", "read_max", "write_min", "write_max", "reset_speed",
   "missing_temperature_speed_percent"]

def initWriteKeys : List String := ["register", "value", "reset_value"]

def presetKeys : List String := ["cpu", "gpu", "id"]

/-! ## Sections -/

section Sections

theorem parseSafetyPolicy_agrees (agree : Agree first second safetyKeys) {critical : Int}
    {safety : SafetyConfig} (read : parseSafetyPolicy first critical = some safety) :
    parseSafetyPolicy second critical = some safety := by
  simp only [Agree, safetyKeys, List.forall_mem_cons] at agree
  obtain ⟨minSpeed, minTemperature, speed, full, step, samples, release, ramp, bypass, missing,
    reads, writes, -⟩ := agree
  simp only [parseSafetyPolicy, bind, Option.bind_eq_some_iff] at read ⊢
  obtain ⟨_, readMinSpeed, _, readMinTemperature, _, readSpeed, _, readFull, _, readStep, _,
    readSamples, _, readRelease, _, readRamp, _, readBypass, _, readMissing, _, readReads, _,
    readWrites, same⟩ := read
  exact ⟨_, minSpeed.clampedInt readMinSpeed, _, minTemperature.clampedInt readMinTemperature,
    _, speed.clampedInt readSpeed, _, full.optionalBool readFull, _, step.clampedInt readStep,
    _, samples.clampedInt readSamples, _, release.clampedInt readRelease,
    _, ramp.clampedInt readRamp, _, bypass.clampedInt readBypass,
    _, missing.clampedInt readMissing, _, reads.clampedInt readReads,
    _, writes.clampedInt readWrites, same⟩

theorem configParseSafety_agrees {first : Option σ} {second : Option τ}
    (agree : AgreeSection first second safetyKeys) {critical : Int} {safety : SafetyConfig}
    (read : configParseSafety first critical = some safety) :
    configParseSafety second critical = some safety := by
  cases agree with
  | none => exact read
  | some agree => exact parseSafetyPolicy_agrees agree read

theorem parseFanModeRegisters_agrees (agree : Agree first second fanModeKeys)
    {cfg : FanModeConfig} (read : parseFanModeRegisters first = some cfg) :
    parseFanModeRegisters second = some cfg := by
  simp only [Agree, fanModeKeys, List.forall_mem_cons] at agree
  obtain ⟨cpuRegister, gpuRegister, -⟩ := agree
  simp only [parseFanModeRegisters, bind, Option.bind_eq_some_iff] at read ⊢
  obtain ⟨_, readCpu, _, readGpu, checked⟩ := read
  exact ⟨_, cpuRegister.requiredInt readCpu, _, gpuRegister.requiredInt readGpu, checked⟩

theorem parseFanModeValues_agrees (agree : Agree first second fanModeKeys)
    {registers cfg : FanModeConfig} (read : parseFanModeValues first registers = some cfg) :
    parseFanModeValues second registers = some cfg := by
  simp only [Agree, fanModeKeys, List.forall_mem_cons] at agree
  obtain ⟨-, -, cpuAuto, cpuManual, cpuTurbo, gpuAuto, gpuManual, gpuTurbo, -⟩ := agree
  simp only [parseFanModeValues, bind, Option.bind_eq_some_iff] at read ⊢
  obtain ⟨_, readCpuAuto, _, readCpuManual, _, readCpuTurbo, _, readGpuAuto, _, readGpuManual, _,
    readGpuTurbo, same⟩ := read
  exact ⟨_, cpuAuto.optionalInt readCpuAuto, _, cpuManual.optionalInt readCpuManual,
    _, cpuTurbo.optionalInt readCpuTurbo, _, gpuAuto.optionalInt readGpuAuto,
    _, gpuManual.optionalInt readGpuManual, _, gpuTurbo.optionalInt readGpuTurbo, same⟩

theorem configParseFanModes_agrees {first : Option σ} {second : Option τ}
    (agree : AgreeSection first second fanModeKeys) {cfg : FanModeConfig}
    (read : configParseFanModes first = some cfg) : configParseFanModes second = some cfg := by
  cases agree with
  | none => exact read
  | some agree =>
      obtain ⟨registers, first, rest⟩ := Option.bind_eq_some_iff.mp read
      obtain ⟨values, second, checked⟩ := Option.bind_eq_some_iff.mp rest
      exact Option.bind_eq_some_iff.mpr ⟨registers, parseFanModeRegisters_agrees agree first,
        Option.bind_eq_some_iff.mpr ⟨values, parseFanModeValues_agrees agree second, checked⟩⟩

theorem parsePlatformProfileHeader_agrees (agree : Agree first second platformProfileKeys)
    {header : Int × CString} (read : parsePlatformProfileHeader first = some header) :
    parsePlatformProfileHeader second = some header := by
  simp only [Agree, platformProfileKeys, List.forall_mem_cons] at agree
  obtain ⟨register, defaultProfile, -⟩ := agree
  simp only [parsePlatformProfileHeader, bind, Option.bind_eq_some_iff] at read ⊢
  obtain ⟨_, readRegister, _, readProfile, checked⟩ := read
  exact ⟨_, register.requiredInt readRegister, _, defaultProfile.optionalString readProfile,
    checked⟩

theorem parsePowerSourceProfileFields_agrees (agree : Agree first second powerSourceProfileKeys)
    {cfg : PowerSourceProfileConfig} (read : parsePowerSourceProfileFields first = some cfg) :
    parsePowerSourceProfileFields second = some cfg := by
  simp only [Agree, powerSourceProfileKeys, List.forall_mem_cons] at agree
  obtain ⟨ac, battery, autoApply, -⟩ := agree
  simp only [parsePowerSourceProfileFields, bind, Option.bind_eq_some_iff] at read ⊢
  obtain ⟨_, readAc, _, readBattery, _, readApply, same⟩ := read
  exact ⟨_, ac.requiredString readAc, _, battery.requiredString readBattery,
    _, autoApply.optionalBool readApply, same⟩

theorem configParsePowerSourceProfiles_agrees {first : Option σ} {second : Option τ}
    (agree : AgreeSection first second powerSourceProfileKeys) {platform : PlatformProfileConfig}
    {cfg : PowerSourceProfileConfig}
    (read : configParsePowerSourceProfiles first platform = some cfg) :
    configParsePowerSourceProfiles second platform = some cfg := by
  cases agree with
  | none => exact read
  | some agree =>
      obtain ⟨fields, found, checked⟩ := Option.bind_eq_some_iff.mp read
      exact Option.bind_eq_some_iff.mpr
        ⟨fields, parsePowerSourceProfileFields_agrees agree found, checked⟩

theorem parseKeyboardBacklightFields_agrees (agree : Agree first second keyboardBacklightKeys)
    {cfg : KeyboardBacklightConfig} (read : parseKeyboardBacklightFields first = some cfg) :
    parseKeyboardBacklightFields second = some cfg := by
  simp only [Agree, keyboardBacklightKeys, List.forall_mem_cons] at agree
  obtain ⟨register, maxValue, minValue, supported, enabled, seconds, -⟩ := agree
  simp only [parseKeyboardBacklightFields, bind, Option.bind_eq_some_iff] at read ⊢
  obtain ⟨_, readRegister, _, readMax, _, readMin, _, readSupported, _, readEnabled, _,
    readSeconds, same⟩ := read
  exact ⟨_, register.requiredInt readRegister, _, maxValue.requiredInt readMax,
    _, minValue.optionalInt readMin, _, supported.optionalBool readSupported,
    _, enabled.optionalBool readEnabled, _, seconds.optionalInt readSeconds, same⟩

theorem configParseKeyboardBacklight_agrees {first : Option σ} {second : Option τ}
    (agree : AgreeSection first second keyboardBacklightKeys) {cfg : KeyboardBacklightConfig}
    (read : configParseKeyboardBacklight first = some cfg) :
    configParseKeyboardBacklight second = some cfg := by
  cases agree with
  | none => exact read
  | some agree =>
      obtain ⟨fields, found, checked⟩ := Option.bind_eq_some_iff.mp read
      exact Option.bind_eq_some_iff.mpr
        ⟨fields, parseKeyboardBacklightFields_agrees agree found, checked⟩

end Sections

/-! ## Entries of lists -/

section Entries

theorem parsePlatformProfileEntry_agrees (agree : Agree first second platformProfileEntryKeys)
    {profile : PlatformProfileEntry} (parsed : parsePlatformProfileEntry first = .ok profile) :
    parsePlatformProfileEntry second = .ok profile := by
  simp only [Agree, platformProfileEntryKeys, List.forall_mem_cons] at agree
  obtain ⟨value, id, -⟩ := agree
  obtain ⟨_, readValue, _, readId, checked⟩ := parsePlatformProfileEntry_eq_ok.mp parsed
  exact parsePlatformProfileEntry_eq_ok.mpr
    ⟨_, value.requiredInt readValue, _, id.requiredString readId, checked⟩

theorem parseInitWrite_agrees (agree : Agree first second initWriteKeys) {write : EcWriteConfig}
    (parsed : parseInitWrite first = .ok write) : parseInitWrite second = .ok write := by
  simp only [Agree, initWriteKeys, List.forall_mem_cons] at agree
  obtain ⟨register, value, resetValue, -⟩ := agree
  simp only [parseInitWrite, orInvalid_eq_ok, bind, Option.bind_eq_some_iff] at parsed ⊢
  obtain ⟨_, readRegister, _, readValue, _, readReset, checked⟩ := parsed
  exact ⟨_, register.requiredInt readRegister, _, value.requiredInt readValue,
    _, resetValue.requiredInt readReset, checked⟩

theorem parsePreset_agrees (agree : Agree first second presetKeys) {preset : PresetConfig}
    (parsed : parsePreset first = .ok preset) : parsePreset second = .ok preset := by
  simp only [Agree, presetKeys, List.forall_mem_cons] at agree
  obtain ⟨cpu, gpu, id, -⟩ := agree
  simp only [parsePreset, orInvalid_eq_ok, bind, Option.bind_eq_some_iff] at parsed ⊢
  obtain ⟨_, readCpu, _, readGpu, _, readId, checked⟩ := parsed
  exact ⟨_, cpu.requiredInt readCpu, _, gpu.requiredInt readGpu, _, id.requiredString readId,
    checked⟩

theorem parseCurvePoint_agrees (agree : Agree first second curveEntryKeys)
    {threshold : Threshold} (parsed : parseCurvePoint first = .ok threshold) :
    parseCurvePoint second = .ok threshold := by
  simp only [Agree, curveEntryKeys, List.forall_mem_cons] at agree
  obtain ⟨up, down, speed, -⟩ := agree
  simp only [parseCurvePoint, parseCurveEntry, orInvalid_eq_ok, bind,
    Option.bind_eq_some_iff] at parsed ⊢
  obtain ⟨_, readUp, _, readDown, _, readSpeed, checked⟩ := parsed
  exact ⟨_, up.requiredInt readUp, _, down.requiredInt readDown, _, speed.requiredInt readSpeed,
    checked⟩

end Entries

/-! ## Fans -/

section Fans

theorem parseFanIdentity_agrees (agree : Agree first second fanKeys)
    {identity : CString × CString × CString} (read : parseFanIdentity first = some identity) :
    parseFanIdentity second = some identity := by
  simp only [parseFanIdentity, bind, Option.bind_eq_some_iff] at read ⊢
  obtain ⟨id, readId, name, readName, group, readGroup, same⟩ := read
  exact ⟨id, (agree _ (by decide)).requiredString readId,
    name, (agree _ (by decide)).requiredString readName,
    group, (agree _ (by decide)).requiredString readGroup, same⟩

theorem parseFanSensorConfig_agrees (agree : Agree first second fanKeys) {sensorGroup : CString}
    {sensor : FanSensorConfig} (parsed : parseFanSensorConfig first sensorGroup = .ok sensor) :
    parseFanSensorConfig second sensorGroup = .ok sensor := by
  simp only [parseFanSensorConfig, bind_eq_ok, orInvalid_eq_ok] at parsed ⊢
  obtain ⟨control, readControl, awake, readAwake, power, readPower, same⟩ := parsed
  exact ⟨control, (agree _ (by decide)).optionalString readControl,
    awake, (agree _ (by decide)).optionalBool readAwake,
    power, (agree _ (by decide)).optionalString readPower, same⟩

theorem parseFanEcRegisters_agrees (agree : Agree first second fanKeys) {registers : Int × Int}
    (parsed : parseFanEcRegisters first = .ok registers) :
    parseFanEcRegisters second = .ok registers := by
  simp only [parseFanEcRegisters, orInvalid_eq_ok, bind, Option.bind_eq_some_iff] at parsed ⊢
  obtain ⟨read, readRead, write, readWrite, checked⟩ := parsed
  exact ⟨read, (agree _ (by decide)).requiredInt readRead,
    write, (agree _ (by decide)).requiredInt readWrite, checked⟩

theorem parseFanTemperatureRegisters_agrees (agree : Agree first second fanKeys)
    {registers : Int × Int} (parsed : parseFanTemperatureRegisters first = .ok registers) :
    parseFanTemperatureRegisters second = .ok registers := by
  obtain ⟨found, read, checked⟩ := bind_eq_ok.mp parsed
  simp only [orInvalid_eq_ok, bind, Option.bind_eq_some_iff] at read
  obtain ⟨register, readRegister, control, readControl, same⟩ := read
  refine bind_eq_ok.mpr ⟨found, ?_, checked⟩
  simp only [orInvalid_eq_ok, bind, Option.bind_eq_some_iff]
  exact ⟨register, (agree _ (by decide)).optionalInt readRegister,
    control, (agree _ (by decide)).optionalInt readControl, same⟩

theorem parseFanNumericLimits_agrees (agree : Agree first second fanKeys)
    {limits : FanNumericLimits} (parsed : parseFanNumericLimits first = .ok limits) :
    parseFanNumericLimits second = .ok limits := by
  simp only [parseFanNumericLimits, orInvalid_eq_ok, bind, Option.bind_eq_some_iff] at parsed ⊢
  obtain ⟨readMin, foundReadMin, readMax, foundReadMax, writeMin, foundWriteMin, writeMax,
    foundWriteMax, reset, foundReset, missing, foundMissing, same⟩ := parsed
  exact ⟨readMin, (agree _ (by decide)).optionalInt foundReadMin,
    readMax, (agree _ (by decide)).optionalInt foundReadMax,
    writeMin, (agree _ (by decide)).optionalInt foundWriteMin,
    writeMax, (agree _ (by decide)).optionalInt foundWriteMax,
    reset, (agree _ (by decide)).optionalInt foundReset,
    missing, (agree _ (by decide)).clampedInt foundMissing, same⟩

/-- Points that agree pairwise make the same curve. -/
theorem parseCurve_agrees
    (points : AgreeList (fun entry point => Agree entry point curveEntryKeys) first second "curve"
      256 32) {curve : List Threshold} (parsed : parseCurve first = .ok curve) :
    parseCurve second = .ok curve := by
  obtain ⟨entries, found, rest⟩ := bind_eq_ok.mp parsed
  obtain ⟨thresholds, each, checked⟩ := bind_eq_ok.mp rest
  obtain ⟨items, shown, related⟩ := points.exists_items (orInvalid_eq_ok.mp found)
  refine bind_eq_ok.mpr ⟨items, orInvalid_eq_ok.mpr shown, bind_eq_ok.mpr ⟨thresholds, ?_, checked⟩⟩
  refine parseEach_related ?_ related each
  exact fun _ _ agree _ point => parseCurvePoint_agrees agree point

/-- The sources agree on a fan: on its keys, and on every point of its curve. -/
structure AgreeOnFan (first : σ) (second : τ) : Prop where
  keys : Agree first second fanKeys
  curve : AgreeList (fun entry point => Agree entry point curveEntryKeys) first second "curve" 256 32

theorem parseFan_agrees (agree : AgreeOnFan first second) {fan : FanConfig}
    (parsed : parseFan first = .ok fan) : parseFan second = .ok fan := by
  obtain ⟨keys, curve⟩ := agree
  have loads := parseFan_eq_ok.mp parsed
  exact parseFan_eq_ok.mpr {
    identity := parseFanIdentity_agrees keys loads.identity
    sensor := parseFanSensorConfig_agrees keys loads.sensor
    registers := parseFanEcRegisters_agrees keys loads.registers
    temperatures := parseFanTemperatureRegisters_agrees keys loads.temperatures
    limits := parseFanNumericLimits_agrees keys loads.limits
    ranges := loads.ranges
    curve := parseCurve_agrees curve loads.curve }

end Fans

end NitroSense
