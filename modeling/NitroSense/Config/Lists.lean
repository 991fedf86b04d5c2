import NitroSense.Config.Parse

/-!
# Fans, presets and initial writes

`config/fans.c` and `config/lists.c`.  Each list is read up to the length of
its array in the configuration, every entry from a copy in a bounded buffer.
-/

namespace NitroSense

variable {σ : Type} [KeySource σ]

/-! ## Fans -/

def parseCurveEntry (thresholdJson : σ) : Option Threshold := do
  let up ← configRequiredIntKey thresholdJson "up"
  let down ← configRequiredIntKey thresholdJson "down"
  let speed ← configRequiredIntKey thresholdJson "speed"
  if up ≥ 0 ∧ up ≤ 130 ∧ down ≥ 0 ∧ down ≤ 130 ∧ down ≤ up ∧ configSpeedValueValid speed then
    some { up, down, speed }
  else none

def parseCurvePoint (thresholdJson : σ) : ConfigResult Threshold :=
  orInvalid (parseCurveEntry thresholdJson)
    "fan curve entries require up/down temperatures and 0-100 speed"

def parseCurve (fanJson : σ) : ConfigResult (List Threshold) := do
  let points ← orInvalid (KeySource.objects fanJson "curve".toList 256 32) "fan curve is required"
  let curve ← parseEach parseCurvePoint points
  if curve.length > 0 then .ok curve
  else configInvalid "fan curve must contain at least one point"

def copyDefaultControlSensorGroup (sensorGroup : CString) : CString := snprintf 16 sensorGroup

def parseFanIdentity (fanJson : σ) : Option (CString × CString × CString) := do
  let id ← configRequiredStringKey fanJson "id" 16
  let name ← configRequiredStringKey fanJson "name" 64
  let sensorGroup ← configRequiredStringKey fanJson "sensor_group" 16
  some (id, name, sensorGroup)

structure FanSensorConfig where
  controlSensorGroup : CString
  keepAwake : Bool
  sensorPowerControl : CString

def parseFanSensorConfig (fanJson : σ) (sensorGroup : CString) : ConfigResult FanSensorConfig := do
  let controlSensorGroup ← orInvalid
    (configOptionalStringKey fanJson "control_sensor_group"
      (copyDefaultControlSensorGroup sensorGroup) 16)
    "fan control_sensor_group must be a plain string"
  let keepAwake ← orInvalid (configOptionalBoolKey fanJson "keep_awake" false)
    "fan keep_awake must be true or false"
  let sensorPowerControl ← orInvalid
    (configOptionalStringKey fanJson "sensor_power_control"
      (if keepAwake then "on".toList else []) 8)
    "fan sensor_power_control must be a plain string"
  .ok {
    controlSensorGroup, keepAwake
    sensorPowerControl :=
      if sensorPowerControl ≠ "on".toList ∧ sensorPowerControl ≠ "auto".toList then []
      else sensorPowerControl }

def parseFanEcRegisters (fanJson : σ) : ConfigResult (Int × Int) :=
  let registers : Option (Int × Int) := do
    let readRegister ← configRequiredIntKey fanJson "read_register"
    let writeRegister ← configRequiredIntKey fanJson "write_register"
    if configByteValueValid readRegister ∧ configByteValueValid writeRegister then
      some (readRegister, writeRegister)
    else none
  orInvalid registers "fan entries require byte read_register and write_register"

def parseFanTemperatureRegisters (fanJson : σ) : ConfigResult (Int × Int) := do
  let registers : Option (Int × Int) := do
    let temperatureRegister ← configOptionalIntKey fanJson "temperature_register" (-1)
    let controlTemperatureRegister ← configOptionalIntKey fanJson
      "control_temperature_register" (-1)
    some (temperatureRegister, controlTemperatureRegister)
  let (temperatureRegister, controlTemperatureRegister) ←
    orInvalid registers "fan temperature registers are invalid"
  if temperatureRegister ≠ -1 ∧ ¬ configByteValueValid temperatureRegister then
    configInvalid "fan temperature_register must be a byte register"
  else if controlTemperatureRegister ≠ -1 ∧ ¬ configByteValueValid controlTemperatureRegister then
    configInvalid "fan control_temperature_register must be a byte register"
  else .ok (temperatureRegister, controlTemperatureRegister)

/-- The fields of `set_fan_numeric_defaults`, with its defaults. -/
structure FanNumericLimits where
  readMin : Int := 0
  readMax : Int := 6000
  writeMin : Int := 0
  writeMax : Int := 100
  resetSpeed : Int := 50
  missingTemperatureSpeedPercent : Int := 0

def parseFanNumericLimits (fanJson : σ) : ConfigResult FanNumericLimits :=
  let defaults : FanNumericLimits := {}
  let limits : Option FanNumericLimits := do
    let readMin ← configOptionalIntKey fanJson "read_min" defaults.readMin
    let readMax ← configOptionalIntKey fanJson "read_max" defaults.readMax
    let writeMin ← configOptionalIntKey fanJson "write_min" defaults.writeMin
    let writeMax ← configOptionalIntKey fanJson "write_max" defaults.writeMax
    let resetSpeed ← configOptionalIntKey fanJson "reset_speed" defaults.resetSpeed
    let missingTemperatureSpeedPercent ← configOptionalClampedIntKey fanJson
      "missing_temperature_speed_percent" defaults.missingTemperatureSpeedPercent 0 100
    some { readMin, readMax, writeMin, writeMax, resetSpeed, missingTemperatureSpeedPercent }
  orInvalid limits "fan numeric limits are invalid"

def validateFanNumericRanges (limits : FanNumericLimits) : ConfigResult Unit :=
  if (limits.readMin ≥ 0 ∧ limits.readMax > limits.readMin) ∧
      (limits.writeMin ≥ 0 ∧ limits.writeMax ≤ 100 ∧ limits.writeMax > limits.writeMin) ∧
      limits.resetSpeed ≥ limits.writeMin ∧ limits.resetSpeed ≤ limits.writeMax then .ok ()
  else configInvalid "fan numeric ranges are invalid"

def parseFan (fanJson : σ) : ConfigResult FanConfig := do
  let (id, name, sensorGroup) ← orInvalid (parseFanIdentity fanJson)
    "fan entries require non-empty id, name, and sensor_group"
  let sensor ← parseFanSensorConfig fanJson sensorGroup
  let (readRegister, writeRegister) ← parseFanEcRegisters fanJson
  let (temperatureRegister, controlTemperatureRegister) ← parseFanTemperatureRegisters fanJson
  let limits ← parseFanNumericLimits fanJson
  validateFanNumericRanges limits
  let curve ← parseCurve fanJson
  .ok {
    id, name, sensorGroup
    controlSensorGroup := sensor.controlSensorGroup
    sensorPowerControl := sensor.sensorPowerControl
    keepAwake := sensor.keepAwake
    readRegister, writeRegister, temperatureRegister, controlTemperatureRegister
    readMin := limits.readMin
    readMax := limits.readMax
    writeMin := limits.writeMin
    writeMax := limits.writeMax
    resetSpeed := limits.resetSpeed
    missingTemperatureSpeedPercent := limits.missingTemperatureSpeedPercent
    curve }

def FanConfig.numericLimits (fan : FanConfig) : FanNumericLimits where
  readMin := fan.readMin
  readMax := fan.readMax
  writeMin := fan.writeMin
  writeMax := fan.writeMax
  resetSpeed := fan.resetSpeed
  missingTemperatureSpeedPercent := fan.missingTemperatureSpeedPercent

/-- What each parser returned for the fields of a fan. -/
structure FanLoads (fanJson : σ) (fan : FanConfig) : Prop where
  identity : parseFanIdentity fanJson = some (fan.id, fan.name, fan.sensorGroup)
  sensor : parseFanSensorConfig fanJson fan.sensorGroup =
    .ok ⟨fan.controlSensorGroup, fan.keepAwake, fan.sensorPowerControl⟩
  registers : parseFanEcRegisters fanJson = .ok (fan.readRegister, fan.writeRegister)
  temperatures : parseFanTemperatureRegisters fanJson =
    .ok (fan.temperatureRegister, fan.controlTemperatureRegister)
  limits : parseFanNumericLimits fanJson = .ok fan.numericLimits
  ranges : validateFanNumericRanges fan.numericLimits = .ok ()
  curve : parseCurve fanJson = .ok fan.curve

theorem parseFan_eq_ok {fanJson : σ} {fan : FanConfig} :
    parseFan fanJson = .ok fan ↔ FanLoads fanJson fan := by
  unfold parseFan
  simp only [bind_eq_ok, orInvalid_eq_ok]
  constructor
  · rintro ⟨⟨id, name, group⟩, identity, sensor, sensors, ⟨read, write⟩, registers,
      ⟨temperature, control⟩, temperatures, limits, numeric, _, ranges, curve, points, same⟩
    cases same
    exact ⟨identity, sensors, registers, temperatures, numeric, ranges, points⟩
  · intro loads
    exact ⟨_, loads.identity, _, loads.sensor, _, loads.registers, _, loads.temperatures, _,
      loads.limits, _, loads.ranges, _, loads.curve, rfl⟩

def configParseFans (json : σ) : ConfigResult (List FanConfig) :=
  match KeySource.objects json "fans".toList 8192 2 with
  | none => .error []
  | some entries => do
      let fans ← parseEach parseFan entries
      if fans.length > 0 then .ok fans else .error []

/-- The fans of a profile are its entries, each parsed. -/
theorem configParseFans_eq_ok {json : σ} {fans : List FanConfig} :
    configParseFans json = .ok fans ↔
      ∃ entries, KeySource.objects json "fans".toList 8192 2 = some entries ∧
        parseEach parseFan entries = .ok fans ∧ fans.length > 0 := by
  unfold configParseFans
  split
  · rename_i missing
    rw [missing]
    exact ⟨nofun, nofun⟩
  · rename_i entries found
    rw [found, bind_eq_ok]
    constructor
    · rintro ⟨parsed, each, checked⟩
      split at checked
      · rename_i nonempty
        cases checked
        exact ⟨entries, rfl, each, nonempty⟩
      · cases checked
    · rintro ⟨_, same, each, nonempty⟩
      cases same
      exact ⟨fans, each, if_pos nonempty⟩

/-! ## Initial writes and presets -/

def parseInitWrite (writeJson : σ) : ConfigResult EcWriteConfig :=
  let write : Option EcWriteConfig := do
    let reg ← configRequiredIntKey writeJson "register"
    let value ← configRequiredIntKey writeJson "value"
    let resetValue ← configRequiredIntKey writeJson "reset_value"
    if configByteValueValid reg ∧ configByteValueValid value ∧ configByteValueValid resetValue then
      some { reg, value, resetValue }
    else none
  orInvalid write "init_writes entries require byte register/value/reset_value"

def parsePreset (presetJson : σ) : ConfigResult PresetConfig :=
  let preset : Option PresetConfig := do
    let cpu ← configRequiredIntKey presetJson "cpu"
    let gpu ← configRequiredIntKey presetJson "gpu"
    let id ← configRequiredStringKey presetJson "id" 32
    if configPercentValueValid cpu ∧ configPercentValueValid gpu then some { id, cpu, gpu }
    else none
  orInvalid preset "preset entries require id and 1-100 cpu/gpu percentages"

def configParseInitWrites (json : σ) : ConfigResult (List EcWriteConfig) :=
  parseOptionalList parseInitWrite json "init_writes" 512 8

def configParsePresets (json : σ) : ConfigResult (List PresetConfig) :=
  parseOptionalList parsePreset json "presets" 512 16

end NitroSense
