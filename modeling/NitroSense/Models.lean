import NitroSense.Config.Document
import NitroSense.Sensors

/-!
# The shipped model profile

`models/acer-nitro-an517-51.json` as a document and as `config_load` stores it,
and the hwmon tree of such a machine while its GPU sleeps.
-/

namespace NitroSense

open Lib

namespace AcerNitroAn517

def cpuFan : FanConfig where
  id := "cpu".toList
  name := "CPU fan".toList
  sensorGroup := "cpu".toList
  controlSensorGroup := "max".toList
  readRegister := 19
  writeRegister := 55
  readMax := 6122
  curve := [⟨0, 0, 0⟩, ⟨40, 40, 30⟩, ⟨42, 41, 32⟩, ⟨44, 43, 34⟩, ⟨48, 46, 36⟩, ⟨52, 50, 38⟩,
    ⟨54, 53, 41⟩, ⟨58, 56, 44⟩, ⟨62, 60, 47⟩, ⟨64, 63, 50⟩, ⟨68, 66, 55⟩, ⟨72, 70, 61⟩,
    ⟨74, 73, 68⟩, ⟨78, 76, 76⟩, ⟨82, 80, 85⟩, ⟨84, 83, 94⟩, ⟨88, 86, 100⟩]

def gpuFan : FanConfig where
  id := "gpu".toList
  name := "GPU fan".toList
  sensorGroup := "gpu".toList
  controlSensorGroup := "max".toList
  sensorPowerControl := "auto".toList
  readRegister := 21
  writeRegister := 58
  temperatureRegister := 42
  readMax := 6122
  curve := [⟨0, 0, 0⟩, ⟨40, 40, 22⟩, ⟨42, 41, 24⟩, ⟨44, 43, 26⟩, ⟨48, 46, 28⟩, ⟨52, 50, 30⟩,
    ⟨54, 53, 34⟩, ⟨58, 56, 38⟩, ⟨62, 60, 42⟩, ⟨64, 63, 46⟩, ⟨68, 66, 52⟩, ⟨72, 70, 59⟩,
    ⟨74, 73, 67⟩, ⟨78, 76, 76⟩, ⟨82, 80, 86⟩, ⟨84, 83, 96⟩, ⟨88, 86, 100⟩]

def config : AnsConfig where
  model := "Acer Nitro 5 AN517-51".toList
  defaultPreset := "firmware-auto".toList
  allowedDmi := ["AN517-51".toList, "AN715-51".toList, "AN515-51".toList]
  safety :=
    { minSpeedTemperatureC := 70
      criticalFullSpeed := false
      criticalConsecutiveSamples := 2
      criticalReleaseTemperatureC := 82
      autoRampUpPercent := 12
      missingTemperatureSpeedPercent := 35 }
  fanModes := { available := true, cpuReg := 34, gpuReg := 33 }
  platformProfiles :=
    { available := true
      reg := 44
      defaultProfile := "balanced".toList
      profiles := [⟨"quiet".toList, 0⟩, ⟨"balanced".toList, 1⟩, ⟨"performance".toList, 4⟩] }
  powerSourceProfiles := { acProfile := "balanced".toList, batteryProfile := "quiet".toList }
  keyboardBacklight := { available := true, reg := 49, maxValue := 4, timeoutSupported := true }
  initWrites := [⟨34, 12, 4⟩, ⟨33, 48, 16⟩, ⟨16, 0, 0⟩]
  fans := [cpuFan, gpuFan]
  presets := [⟨"silent".toList, 25, 25⟩, ⟨"quiet".toList, 35, 30⟩, ⟨"balanced".toList, 45, 40⟩,
    ⟨"cool".toList, 65, 60⟩, ⟨"performance".toList, 75, 75⟩, ⟨"turbo".toList, 90, 90⟩,
    ⟨"max".toList, 100, 100⟩]

theorem cpuFan_valid : cpuFan.Valid where
  id := by decide
  sensorGroup := by decide
  controlSensorGroup := by decide
  sensorPowerControl := by decide
  readRegister := by decide
  writeRegister := by decide
  temperatureRegister := by decide
  controlTemperatureRegister := by decide
  readRange := by decide
  writeMin := by decide
  writeMax := by decide
  writeRange := by decide
  resetSpeed := by decide
  missingTemperatureSpeedPercent := by decide
  curve := by decide

theorem gpuFan_valid : gpuFan.Valid where
  id := by decide
  sensorGroup := by decide
  controlSensorGroup := by decide
  sensorPowerControl := by decide
  readRegister := by decide
  writeRegister := by decide
  temperatureRegister := by decide
  controlTemperatureRegister := by decide
  readRange := by decide
  writeMin := by decide
  writeMax := by decide
  writeRange := by decide
  resetSpeed := by decide
  missingTemperatureSpeedPercent := by decide
  curve := by decide

/-- The shipped profile passes the checks of `config_load`. -/
theorem config_valid : config.Valid where
  defaultPreset := by decide
  pollIntervalMs := by decide
  criticalTemperatureC := by decide
  safety := by
    constructor <;> decide
  coolboostDefaultEnabled := rfl
  fanModes := by
    constructor <;> decide
  platformProfileReg := by decide
  platformProfiles := by decide
  platformProfileLen := by decide
  powerSourceProfiles := by decide
  keyboardBacklight := by
    constructor <;> decide
  initWrites := by decide
  initWriteLen := by decide
  fans := by
    intro fan member
    rcases List.mem_cons.mp member with rfl | rest
    · exact cpuFan_valid
    · rw [List.mem_singleton.mp rest]
      exact gpuFan_valid
  fanLen := by decide
  presets := by decide
  presetLen := by decide

/-- The shipped profile without its initial writes, which repeat the fan-mode registers. -/
def separateConfig : AnsConfig := { config with initWrites := [] }

theorem separateConfig_valid : separateConfig.Valid :=
  { config_valid with
    initWrites := by decide
    initWriteLen := by decide }

/-- A hwmon tree with a CPU chip and no readable GPU device. -/
def cpuSensors (celsius : Nat) : Sensors where
  hwmon := some [⟨"hwmon0".toList, some "coretemp\n".toList,
    some [⟨"temp1_input".toList, some (decimal (1000 * celsius) ++ "\n".toList)⟩], none⟩]

/-! ## The file -/

def curvePoint (up down speed : String) : Json :=
  .ofMembers
    [(.key "up", .numeral up), (.key "down", .numeral down), (.key "speed", .numeral speed)]

def presetEntry (id cpu gpu : String) : Json :=
  .ofMembers
    [(.key "id", .string (.key id)), (.key "cpu", .numeral cpu), (.key "gpu", .numeral gpu)]

def cpuFanDocument : Json :=
  .ofMembers [
    (.key "id", .string (.key "cpu")), (.key "name", .string (.key "CPU fan")),
    (.key "read_register", .numeral "19"), (.key "write_register", .numeral "55"),
    (.key "read_min", .numeral "0"), (.key "read_max", .numeral "6122"),
    (.key "write_min", .numeral "0"), (.key "write_max", .numeral "100"),
    (.key "reset_speed", .numeral "50"), (.key "sensor_group", .string (.key "cpu")),
    (.key "control_sensor_group", .string (.key "max")),
    (.key "curve", .ofItems [
        curvePoint "0" "0" "0", curvePoint "40" "40" "30", curvePoint "42" "41" "32",
        curvePoint "44" "43" "34", curvePoint "48" "46" "36", curvePoint "52" "50" "38",
        curvePoint "54" "53" "41", curvePoint "58" "56" "44", curvePoint "62" "60" "47",
        curvePoint "64" "63" "50", curvePoint "68" "66" "55", curvePoint "72" "70" "61",
        curvePoint "74" "73" "68", curvePoint "78" "76" "76", curvePoint "82" "80" "85",
        curvePoint "84" "83" "94", curvePoint "88" "86" "100"])]

def gpuFanDocument : Json :=
  .ofMembers [
    (.key "id", .string (.key "gpu")), (.key "name", .string (.key "GPU fan")),
    (.key "read_register", .numeral "21"), (.key "write_register", .numeral "58"),
    (.key "temperature_register", .numeral "42"), (.key "read_min", .numeral "0"),
    (.key "read_max", .numeral "6122"), (.key "write_min", .numeral "0"),
    (.key "write_max", .numeral "100"), (.key "reset_speed", .numeral "50"),
    (.key "sensor_group", .string (.key "gpu")),
    (.key "control_sensor_group", .string (.key "max")),
    (.key "sensor_power_control", .string (.key "auto")),
    (.key "curve", .ofItems [
        curvePoint "0" "0" "0", curvePoint "40" "40" "22", curvePoint "42" "41" "24",
        curvePoint "44" "43" "26", curvePoint "48" "46" "28", curvePoint "52" "50" "30",
        curvePoint "54" "53" "34", curvePoint "58" "56" "38", curvePoint "62" "60" "42",
        curvePoint "64" "63" "46", curvePoint "68" "66" "52", curvePoint "72" "70" "59",
        curvePoint "74" "73" "67", curvePoint "78" "76" "76", curvePoint "82" "80" "86",
        curvePoint "84" "83" "96", curvePoint "88" "86" "100"])]

def ecDocument : Json :=
  .ofMembers [
    (.key "path", .string (.key "/sys/kernel/debug/ec/ec0/io")),
    (.key "poll_interval_ms", .numeral "3000"), (.key "read_words", .bool true),
    (.key "critical_temperature_c", .numeral "90"),
    (.key "safety", .ofMembers [
        (.key "min_speed_percent", .numeral "30"),
        (.key "min_speed_temperature_c", .numeral "70"),
        (.key "critical_speed_percent", .numeral "100"),
        (.key "critical_full_speed", .bool false), (.key "critical_step_percent", .numeral "20"),
        (.key "critical_consecutive_samples", .numeral "2"),
        (.key "critical_release_temperature_c", .numeral "82"),
        (.key "auto_ramp_up_percent", .numeral "12"),
        (.key "auto_ramp_bypass_temperature_c", .numeral "0"),
        (.key "missing_temperature_speed_percent", .numeral "35"),
        (.key "max_ec_read_failures", .numeral "3"), (.key "max_ec_write_failures", .numeral "3")]),
    (.key "fan_modes", .ofMembers [
        (.key "cpu_register", .numeral "34"), (.key "cpu_auto_value", .numeral "4"),
        (.key "cpu_manual_value", .numeral "12"), (.key "cpu_turbo_value", .numeral "8"),
        (.key "gpu_register", .numeral "33"), (.key "gpu_auto_value", .numeral "16"),
        (.key "gpu_manual_value", .numeral "48"), (.key "gpu_turbo_value", .numeral "32")]),
    (.key "platform_profiles", .ofMembers [
        (.key "register", .numeral "44"), (.key "default_profile", .string (.key "balanced")),
        (.key "profiles", .ofItems [
            .ofMembers [(.key "id", .string (.key "quiet")), (.key "value", .numeral "0")],
            .ofMembers [(.key "id", .string (.key "balanced")), (.key "value", .numeral "1")],
            .ofMembers
              [(.key "id", .string (.key "performance")), (.key "value", .numeral "4")]])]),
    (.key "power_source_profiles", .ofMembers [
        (.key "auto_apply", .bool false), (.key "ac", .string (.key "balanced")),
        (.key "battery", .string (.key "quiet"))]),
    (.key "keyboard_backlight", .ofMembers [
        (.key "register", .numeral "49"), (.key "min_value", .numeral "0"),
        (.key "max_value", .numeral "4"), (.key "timeout_supported", .bool true),
        (.key "timeout_default_enabled", .bool false), (.key "timeout_seconds", .numeral "30")]),
    (.key "init_writes", .ofItems [
        .ofMembers [
          (.key "register", .numeral "34"), (.key "value", .numeral "12"),
          (.key "reset_value", .numeral "4"),
          (.key "description", .string (.key "CPU fan manual mode"))],
        .ofMembers [
          (.key "register", .numeral "33"), (.key "value", .numeral "48"),
          (.key "reset_value", .numeral "16"),
          (.key "description", .string (.key "GPU fan manual mode"))],
        .ofMembers [
          (.key "register", .numeral "16"), (.key "value", .numeral "0"),
          (.key "reset_value", .numeral "0"),
          (.key "description", .string (.key "Disable legacy firmware boost flag"))]])]

/-- The shipped file, without its white space. -/
def document : JsonDocument where
  root := .ofMembers
    [(.key "schema", .numeral "1"),
     (.key "model", .string (.key "Acer Nitro 5 AN517-51")),
     (.key "default_preset", .string (.key "firmware-auto")),
     (.key "source", .string (.key "Hardware-tuned Acer Nitro 5 AN517-51 profile.")),
     (.key "allowed_dmi_substrings", .ofItems [
        .string (.key "AN517-51"), .string (.key "AN715-51"), .string (.key "AN515-51")]),
     (.key "ec", ecDocument),
     (.key "fans", .ofItems [cpuFanDocument, gpuFanDocument]),
     (.key "presets", .ofItems [
        presetEntry "silent" "25" "25", presetEntry "quiet" "35" "30",
        presetEntry "balanced" "45" "40", presetEntry "cool" "65" "60",
        presetEntry "performance" "75" "75", presetEntry "turbo" "90" "90",
        presetEntry "max" "100" "100"])]

end AcerNitroAn517

end NitroSense
