import NitroSense.Commands.Status
import NitroSense.Json.Data

/-!
# The status file

`daemon/status_json.c`, `daemon/status_json_fans.c` and `write_status` of
`daemon/status.c`.  The text is put together from formatted pieces and escaped
strings; what it is to say is a list of named values.
-/

namespace NitroSense

open Lib

/-! ## The writer -/

structure HardwareNames where
  cpu : CString
  gpu : CString

def componentNameForFan (names : HardwareNames) (fan : FanConfig) : CString :=
  if fan.id = "cpu".toList then names.cpu
  else if fan.id = "gpu".toList then names.gpu
  else fan.name

/-- A key of the document on a line of its own. -/
def lineKey (key : String) : CString := jsonKey "\n  " key

/-- A key of a fan, all on one line. -/
def fanKey (key : String) : CString := jsonKey " " key

def fanStatusPieces (cfg : AnsConfig) (states : FanStates) (names : HardwareNames)
    (firmwareMode : Bool) (index : Nat) : List JsonPiece :=
  let state := states index
  let fan := cfg.fan index
  [.text "    \x7b \"id\": ".toList, .string fan.id,
    .text (fanKey "name"), .string fan.name,
    .text (fanKey "component_name"), .string (componentNameForFan names fan),
    .text
      [fanKey "rpm", decimal state.rpm, fanKey "temp_c", decimal state.tempC,
        fanKey "sensor_temp_c", decimal state.sensorTempC,
        fanKey "control_temp_c", decimal state.controlTempC,
        fanKey "control_sensor_temp_c", decimal state.controlSensorTempC,
        fanKey "temp_available", boolText state.tempAvailable,
        fanKey "control_temp_available", boolText state.controlTempAvailable,
        fanKey "control"].flatten,
    .string (statusFanControlSource firmwareMode state.safetyActive),
    .text
      [fanKey "active_percent",
        statusActivePercentText firmwareMode state.safetyActive state.percent "null".toList,
        fanKey "firmware_controlled",
        boolText (statusFanFirmwareControlled firmwareMode state.safetyActive),
        fanKey "percent", decimal state.percent,
        fanKey "requested_percent", decimal state.statusRequestedPercent,
        fanKey "effective_percent", decimal state.percent,
        fanKey "write_value", decimal state.writeValue,
        fanKey "critical_temp_samples", decimal state.criticalTempSamples,
        fanKey "ec_read_failures", decimal state.ecReadFailures,
        fanKey "ec_write_failures", decimal state.ecWriteFailures,
        fanKey "safety_active", boolText state.safetyActive,
        fanKey "safety_reason"].flatten,
    .string state.safetyReason.text,
    .text (" \x7d".toList ++ (if index = cfg.fanLen - 1 then [] else ",".toList) ++ "\n".toList)]

/-- The values `read_fan_mode` stores, each -1 when its register could not be read. -/
def readFanModeValues (ec : EcDevice) (cfg : AnsConfig) : EcDevice × Option (Int × Int) :=
  if cfg.fanModes.available = false then (ec, none)
  else
    let cpu := ecReadByte ec cfg.fanModes.cpuReg
    let gpu := ecReadByte cpu.1 cfg.fanModes.gpuReg
    (gpu.1, some (cpu.2, gpu.2))

/-- What `format_status_json` is told and what it has read from the hardware. -/
structure StatusReport where
  cfg : AnsConfig
  /-- `ec->name`. -/
  backend : CString
  states : FanStates
  autoMode : Bool
  preset : CString
  coolboostEnabled : Bool
  names : HardwareNames
  runtime : RuntimeState
  now : Int
  powerSource : PowerSource
  fanModeValues : Option (Int × Int)
  platformProfile : Int
  keyboard : KeyboardBacklightStatus

namespace StatusReport

variable (report : StatusReport)

def fanModeText (cpu : Bool) : CString :=
  match report.fanModeValues with
  | none => "unavailable".toList
  | some values =>
      let value := if cpu then values.1 else values.2
      if value ≥ 0 then fanModeValueName report.cfg.fanModes cpu value else "unavailable".toList

/-- The name of the platform profile, when there is one to read. -/
def platformProfileText : CString :=
  if report.cfg.platformProfiles.available ∧ report.platformProfile ≥ 0 then
    platformProfileValueName report.cfg report.platformProfile
  else "unavailable".toList

def firmwareMode : Bool := firmwareAutoMode report.autoMode report.preset

/-- The appends of `format_status_json` up to the fans. -/
def headPieces : List JsonPiece :=
  let cfg := report.cfg
  let keyboard := report.keyboard
  [.text "\x7b\n  \"model\": ".toList, .string cfg.model,
    .text (lineKey "backend"), .string report.backend,
    .text (lineKey "auto" ++ (boolText report.autoMode ++ lineKey "mode")),
    .string (controlMode report.autoMode report.preset),
    .text (lineKey "preset"), .string report.preset,
    .text
      [lineKey "coolboost_available", boolText cfg.fanModes.available,
        lineKey "coolboost", boolText report.coolboostEnabled,
        lineKey "fan_mode_available", boolText cfg.fanModes.available,
        lineKey "fan_mode_cpu"].flatten,
    .string (report.fanModeText true),
    .text (lineKey "fan_mode_gpu"), .string (report.fanModeText false),
    .text
      [lineKey "platform_profile_available", boolText cfg.platformProfiles.available,
        lineKey "platform_profile"].flatten,
    .string report.platformProfileText,
    .text (lineKey "power_source"), .string report.powerSource.name,
    .text
      [lineKey "power_source_profile_policy_available",
        boolText (powerSourceProfilePolicyAvailable cfg),
        lineKey "power_source_profile_auto_apply", boolText report.runtime.powerSourceAutoApply,
        lineKey "power_source_ac_profile"].flatten,
    .string (fallbackText cfg.powerSourceProfiles.acProfile "unavailable".toList),
    .text (lineKey "power_source_battery_profile"),
    .string (fallbackText cfg.powerSourceProfiles.batteryProfile "unavailable".toList),
    .text
      [lineKey "keyboard_backlight_available", boolText keyboard.available,
        lineKey "keyboard_backlight_name"].flatten,
    .string (fallbackText keyboard.name "unavailable".toList),
    .text
      [lineKey "keyboard_backlight_brightness", decimal keyboard.brightness,
        lineKey "keyboard_backlight_max_brightness", decimal keyboard.maxBrightness,
        lineKey "keyboard_backlight_percent", decimal keyboard.percent,
        lineKey "keyboard_backlight_backend"].flatten,
    .string (fallbackText keyboard.backend "none".toList),
    .text
      [lineKey "keyboard_backlight_register", decimal keyboard.reg,
        lineKey "keyboard_backlight_timeout_supported",
        boolText cfg.keyboardBacklight.timeoutSupported,
        lineKey "keyboard_backlight_timeout_enabled",
        boolText report.runtime.keyboardBacklightTimeoutEnabled,
        lineKey "keyboard_backlight_timeout_seconds",
        decimal (if cfg.keyboardBacklight.timeoutSupported then cfg.keyboardBacklight.timeoutSeconds
          else 0),
        lineKey "keyboard_backlight_timeout_backend"].flatten,
    .string
      (if cfg.keyboardBacklight.timeoutSupported then "input-activity".toList
      else "unsupported".toList),
    .text
      [lineKey "keyboard_backlight_timed_off", boolText report.runtime.keyboardBacklightTimedOff,
        lineKey "keyboard_backlight_restore_percent",
        decimal report.runtime.keyboardBacklightRestorePercent,
        lineKey "keyboard_backlight_reason"].flatten,
    .string (keyboardBacklightReason keyboard),
    .text
      [lineKey "timestamp", decimal report.now, lineKey "fans", "[\n".toList].flatten]

def pieces : List JsonPiece :=
  report.headPieces ++
    ((List.range report.cfg.fanLen).flatMap
        (fanStatusPieces report.cfg report.states report.names report.firmwareMode) ++
      [.text "  ]\n\x7d\n".toList])

/-- The formatting of `format_status_json` in a buffer: the text, unless something did not fit. -/
def format (bufLen : Nat) : Option CString :=
  let buffer : TextBuffer := { cap := bufLen }
  let out := buffer.appendPieces report.pieces
  if out.truncated then none else some out.text

end StatusReport

/-- What `format_status_json` reads before it formats. -/
def readStatusReport (cfg : AnsConfig) (backend : CString) (names : HardwareNames)
    (daemon : Daemon) : EcDevice × StatusReport :=
  let fanModes := readFanModeValues daemon.ec cfg
  let profile := readPlatformProfile fanModes.1 cfg
  let keyboard := keyboardBacklightReadAny profile.1 cfg daemon.host.leds
  (keyboard.1,
    { cfg := cfg, backend := backend, states := daemon.states, autoMode := daemon.autoMode
      preset := daemon.preset, coolboostEnabled := daemon.coolboostEnabled, names := names
      runtime := daemon.runtime, now := daemon.host.time.toInt
      powerSource := readPowerSource daemon.host.powerSupplies, fanModeValues := fanModes.2
      platformProfile := profile.2, keyboard := keyboard.2 })

/-- `write_status`: the text for the status file, when it fits the buffer. -/
def statusFileText (cfg : AnsConfig) (backend : CString) (names : HardwareNames)
    (daemon : Daemon) : Option CString :=
  (readStatusReport cfg backend names daemon).2.format 8192

end NitroSense
