import NitroSense.Daemon.State

/-!
# Replies that only report

`daemon/status_reply.c`, `daemon/feature_status.c`, `daemon/capabilities.c` and
`control_reply`.  A reply that reads EC registers also returns the device, whose
log of reads has grown.
-/

namespace NitroSense

open Lib EcDevice

/-- `control_reply`: a text that does not fit its buffer is not sent at all. -/
def controlReply (text : CString) : CString := if text.length < 4096 then text else []

def availabilityText (available : Bool) : CString :=
  if available then "available".toList else "unavailable".toList

def onOffText (enabled : Bool) : CString := if enabled then "on".toList else "off".toList

def supportedText (supported : Bool) : CString :=
  if supported then "available".toList else "unsupported".toList

def fallbackText (text fallback : CString) : CString := if text = [] then fallback else text

/-- A register as `0x%02x`. -/
def registerText (reg : Int) : CString := "0x".toList ++ hexByte reg

/-! ## Fans and presets -/

def statusFanControlSource (firmwareMode safetyActive : Bool) : CString :=
  if safetyActive then "safety".toList
  else if firmwareMode then "firmware".toList
  else "daemon".toList

def statusActivePercentText (firmwareMode safetyActive : Bool) (percent : Int)
    (firmwareText : CString) : CString :=
  if statusFanFirmwareControlled firmwareMode safetyActive then firmwareText else decimal percent

def statusFanText (id : CString) (state : FanState) (firmwareMode : Bool) : CString :=
  [id, " rpm=".toList, decimal state.rpm, " temp=".toList, decimal state.tempC,
    " control=".toList, statusFanControlSource firmwareMode state.safetyActive,
    " active_percent=".toList,
    statusActivePercentText firmwareMode state.safetyActive state.percent "firmware".toList,
    " requested=".toList, decimal state.statusRequestedPercent,
    " effective=".toList, decimal state.percent, " percent=".toList, decimal state.percent,
    " write_value=".toList, decimal state.writeValue,
    " safety=".toList, if state.safetyActive then "active".toList else "ok".toList,
    if state.safetyActive then " reason=".toList ++ state.safetyReason.text else [],
    " critical_samples=".toList, decimal state.criticalTempSamples,
    " ec_read_failures=".toList, decimal state.ecReadFailures,
    " ec_write_failures=".toList, decimal state.ecWriteFailures, "\n".toList].flatten

def replyStatus (cfg : AnsConfig) (daemon : Daemon) : CString :=
  let firmwareMode := firmwareAutoMode daemon.autoMode daemon.preset
  let model :=
    ["model=".toList, cfg.model, " mode=".toList, controlMode daemon.autoMode daemon.preset,
      " auto=".toList, if daemon.autoMode then "1".toList else "0".toList,
      " preset=".toList, daemon.preset, " coolboost=".toList,
      if cfg.fanModes.available then onOffText daemon.coolboostEnabled else "unavailable".toList,
      " power_source=".toList, (readPowerSource daemon.host.powerSupplies).name,
      "\n".toList].flatten
  controlReply model ++
    (List.range cfg.fanLen).flatMap fun i =>
      controlReply (statusFanText (cfg.fan i).id (daemon.states i) firmwareMode)

def replyPresetShow (cfg : AnsConfig) (daemon : Daemon) : CString :=
  let mode :=
    ["mode=".toList, controlMode daemon.autoMode daemon.preset, " preset=".toList, daemon.preset,
      "\n".toList].flatten
  controlReply mode ++
    (List.range cfg.fanLen).flatMap fun i =>
      let requested := (daemon.states i).statusRequestedPercent
      controlReply
        [(cfg.fan i).id, " requested=".toList, decimal requested,
          " effective=".toList, decimal (daemon.states i).percent,
          " percent=".toList, decimal requested, "\n".toList].flatten

def replyPresets (cfg : AnsConfig) : CString :=
  cfg.presets.flatMap fun preset =>
    controlReply
      ["preset=".toList, preset.id, " cpu=".toList, decimal preset.cpu, " gpu=".toList,
        decimal preset.gpu, "\n".toList].flatten

/-! ## Features -/

def replyCoolboostStatus (cfg : AnsConfig) (coolboostEnabled : Bool) : CString :=
  controlReply
    ["coolboost=".toList,
      if cfg.fanModes.available then onOffText coolboostEnabled else "unavailable".toList,
      "\n".toList].flatten

def replyFanModeStatus (ec : EcDevice) (cfg : AnsConfig) : EcDevice × CString :=
  let read := readFanMode ec cfg
  match read.2 with
  | none => (read.1, controlReply "fan_mode=unavailable\n".toList)
  | some (cpuValue, gpuValue) =>
      let cpuMode := fanModeValueName cfg.fanModes true cpuValue
      let gpuMode := fanModeValueName cfg.fanModes false gpuValue
      let mode := if cpuMode = gpuMode then cpuMode else "mixed".toList
      (read.1,
        controlReply
          ["fan_mode=".toList, mode, " cpu=".toList, cpuMode, " cpu_value=".toList,
            registerText cpuValue, " gpu=".toList, gpuMode, " gpu_value=".toList,
            registerText gpuValue, "\n".toList].flatten)

def replyProfileStatus (ec : EcDevice) (cfg : AnsConfig) : EcDevice × CString :=
  let read := readPlatformProfile ec cfg
  if read.2 < 0 then (read.1, controlReply "profile=unavailable\n".toList)
  else
    (read.1,
      controlReply
        ["profile=".toList, platformProfileValueName cfg read.2, " value=".toList,
          registerText read.2, "\n".toList].flatten)

def replyPowerSourceStatus (ec : EcDevice) (cfg : AnsConfig) (host : Host)
    (runtime : RuntimeState) : EcDevice × CString :=
  let source := readPowerSource host.powerSupplies
  let read := readPlatformProfile ec cfg
  (read.1,
    controlReply
      ["power_source=".toList, source.name,
        " policy=".toList, availabilityText (powerSourceProfilePolicyAvailable cfg),
        " auto_apply=".toList, onOffText runtime.powerSourceAutoApply,
        " ac_profile=".toList,
        fallbackText cfg.powerSourceProfiles.acProfile "unavailable".toList,
        " battery_profile=".toList,
        fallbackText cfg.powerSourceProfiles.batteryProfile "unavailable".toList,
        " current_profile=".toList,
        if cfg.platformProfiles.available ∧ read.2 ≥ 0 then platformProfileValueName cfg read.2
        else "unavailable".toList,
        " target_profile=".toList,
        (powerSourceProfileFor cfg source).getD "unavailable".toList, "\n".toList].flatten)

/-- `read_gpu_ec_temperature_c`: the temperature and its source, when readable. -/
def readGpuEcTemperatureC (ec : EcDevice) (cfg : AnsConfig) :
    EcDevice × Option (Int × CString) :=
  let reg := ((configFindFan cfg "gpu".toList).map FanConfig.temperatureRegister).getD (-1)
  if reg < 0 then (ec, none)
  else
    let temp := ecReadByte ec reg
    if temp.2 ≤ 0 ∨ temp.2 > 130 then (temp.1, none)
    else (temp.1, some (temp.2, snprintf 32 ("ec:".toList ++ registerText reg)))

def replyGpuTempStatus (ec : EcDevice) (cfg : AnsConfig) (sensors : Sensors) :
    EcDevice × CString :=
  let read := readGpuEcTemperatureC ec cfg
  let control := sensorReadGroupPowerControl sensors "gpu".toList 16
  let temp :=
    read.2.getD (sensorReadGroupMaxC sensors "gpu".toList, "hwmon".toList)
  let live (control : CString) : CString :=
    if control = "on".toList then "on".toList else "auto".toList
  if temp.1 ≥ 0 then
    (read.1,
      controlReply
        ["gpu_temp=available policy=".toList, control.getD "unavailable".toList,
          " live=".toList, (control.map live).getD "unavailable".toList,
          " temp=".toList, decimal temp.1, "C readable=1 source=".toList, temp.2,
          " reason=ok\n".toList].flatten)
  else
    match control with
    | none =>
        (read.1,
          controlReply ("gpu_temp=available policy=unknown live=unknown temp=-- readable=0 " ++
            "reason=no-power-control\n").toList)
    | some control =>
        (read.1,
          controlReply
            ["gpu_temp=available policy=".toList, control, " live=".toList, live control,
              " temp=-- readable=0 reason=sensor-unreadable\n".toList].flatten)

def replyKeyboardBacklightStatus (ec : EcDevice) (cfg : AnsConfig) (leds : Option (List Led))
    (runtime : RuntimeState) : EcDevice × CString :=
  let timeoutSupported := cfg.keyboardBacklight.timeoutSupported
  let read := keyboardBacklightReadAny ec cfg leds
  let keyboard := read.2
  (read.1,
    controlReply
      ["keyboard_backlight=".toList, availabilityText keyboard.available,
        " timeout=".toList,
        if timeoutSupported then onOffText runtime.keyboardBacklightTimeoutEnabled
        else "unsupported".toList,
        " timeout_seconds=".toList,
        decimal (if timeoutSupported then cfg.keyboardBacklight.timeoutSeconds else 0),
        " timeout_backend=".toList,
        if timeoutSupported then "input-activity".toList else "unsupported".toList,
        " timed_off=".toList,
        if runtime.keyboardBacklightTimedOff then "yes".toList else "no".toList,
        " restore_percent=".toList, decimal runtime.keyboardBacklightRestorePercent,
        " name=".toList, fallbackText keyboard.name "unavailable".toList,
        " brightness=".toList, decimal keyboard.brightness,
        " max_brightness=".toList, decimal keyboard.maxBrightness,
        " percent=".toList, decimal keyboard.percent,
        " backend=".toList, fallbackText keyboard.backend "none".toList,
        " register=".toList,
        if keyboard.reg ≥ 0 then snprintf 16 (registerText keyboard.reg)
        else "unavailable".toList,
        " reason=".toList, keyboardBacklightReason keyboard, "\n".toList].flatten)

/-! ## Capabilities -/

/-- `platform_profile_list`, cut where its 256-byte buffer ends. -/
def platformProfileList (cfg : AnsConfig) : CString :=
  if cfg.platformProfiles.available = false ∨ cfg.platformProfiles.profiles = [] then
    "unavailable".toList
  else
    snprintf 256
      (List.intercalate ",".toList (cfg.platformProfiles.profiles.map PlatformProfileEntry.id))

def gpuTemperatureSource (cfg : AnsConfig) : CString :=
  match (configFindFan cfg "gpu".toList).filter fun gpu => gpu.temperatureRegister ≥ 0 with
  | some gpu => snprintf 32 ("ec:".toList ++ registerText gpu.temperatureRegister)
  | none => "hwmon".toList

def keyboardBacklightControl (cfg : AnsConfig) (status : KeyboardBacklightStatus) : CString :=
  if cfg.keyboardBacklight.available then "ec-brightness".toList
  else if status.available then "sysfs-brightness".toList
  else "unsupported".toList

def replyCapabilities (cfg : AnsConfig) (host : Host) (runtime : RuntimeState) : CString :=
  let gpuPowerControl := sensorReadGroupPowerControl host.sensors "gpu".toList 16
  let gpuTempSource := gpuTemperatureSource cfg
  let keyboard := keyboardBacklightReadSysfs host.leds
  [controlReply "fan_control=available modes=manual,preset,auto,firmware-auto\n".toList,
    controlReply
      ["coolboost=".toList, availabilityText cfg.fanModes.available, " backend=".toList,
        if cfg.fanModes.available then "fan-mode-turbo".toList else "unavailable".toList,
        "\n".toList].flatten,
    controlReply
      ["fan_mode=".toList, availabilityText cfg.fanModes.available, " modes=".toList,
        if cfg.fanModes.available then "auto,manual,turbo".toList else "unavailable".toList,
        "\n".toList].flatten,
    controlReply
      ["platform_profile=".toList, availabilityText cfg.platformProfiles.available,
        " profiles=".toList, platformProfileList cfg, "\n".toList].flatten,
    controlReply
      ["power_source_profile=".toList, availabilityText (powerSourceProfilePolicyAvailable cfg),
        " auto_apply=".toList, onOffText runtime.powerSourceAutoApply,
        " ac_profile=".toList,
        fallbackText cfg.powerSourceProfiles.acProfile "unavailable".toList,
        " battery_profile=".toList,
        fallbackText cfg.powerSourceProfiles.batteryProfile "unavailable".toList,
        "\n".toList].flatten,
    controlReply
      ["gpu_temperature=".toList,
        if gpuPowerControl.isSome ∨ gpuTempSource ≠ "hwmon".toList then "available".toList
        else "cached-only".toList,
        " source=".toList, gpuTempSource, " live_policy=".toList,
        if gpuPowerControl.isSome then "auto,live".toList else "unavailable".toList,
        " current_policy=".toList, gpuPowerControl.getD "unavailable".toList, "\n".toList].flatten,
    controlReply
      ["keyboard_backlight=".toList,
        availabilityText (cfg.keyboardBacklight.available || keyboard.available),
        " control=".toList, keyboardBacklightControl cfg keyboard,
        " timeout=".toList, supportedText cfg.keyboardBacklight.timeoutSupported,
        " timeout_backend=".toList,
        if cfg.keyboardBacklight.timeoutSupported then "input-activity".toList
        else "unsupported".toList,
        " reason=".toList,
        if cfg.keyboardBacklight.available then "ok".toList
        else keyboardBacklightReason keyboard, "\n".toList].flatten].flatten

/-! ## Raw registers -/

def replyEcRead (ec : EcDevice) (reg : Int) : EcDevice × CString :=
  let read := ecReadByte ec reg
  if read.2 < 0 then
    (read.1,
      controlReply ["error ec read failed register=".toList, registerText reg, "\n".toList].flatten)
  else
    (read.1,
      controlReply
        ["ec[".toList, registerText reg, "]=".toList, registerText read.2, " (".toList,
          decimal read.2, ")\n".toList].flatten)

/-- One register of `reply_ec_dump`, `offset` registers behind the first. -/
def dumpRegister (start : Int) (length offset : Nat) (dump : EcDevice × CString) :
    EcDevice × CString :=
  let reg := start + offset
  let read := ecReadByte dump.1 reg
  (read.1,
    [dump.2,
      -- sixteen registers a row, each row behind the number of its first register
      if offset % 16 = 0 then controlReply ("0x".toList ++ hexByte reg ++ ":".toList) else [],
      if read.2 < 0 then controlReply " ??".toList else controlReply (' ' :: hexByte read.2),
      if offset % 16 = 15 ∨ offset + 1 = length then controlReply "\n".toList else []].flatten)

def replyEcDump (ec : EcDevice) (start last : Int) : EcDevice × CString :=
  let length := (last - start + 1).toNat
  loop length (dumpRegister start length) (ec, [])

/-! ## Reporting only reads -/

section OnlyRead

variable (ec : EcDevice) (cfg : AnsConfig)

theorem replyFanModeStatus_onlyRead : OnlyRead ec (replyFanModeStatus ec cfg).1 := by
  unfold replyFanModeStatus
  dsimp only
  split
  · exact readFanMode_onlyRead ec cfg
  · exact readFanMode_onlyRead ec cfg

theorem replyProfileStatus_onlyRead : OnlyRead ec (replyProfileStatus ec cfg).1 := by
  unfold replyProfileStatus
  dsimp only
  split
  · exact readPlatformProfile_onlyRead ec cfg
  · exact readPlatformProfile_onlyRead ec cfg

theorem readGpuEcTemperatureC_onlyRead : OnlyRead ec (readGpuEcTemperatureC ec cfg).1 := by
  unfold readGpuEcTemperatureC
  dsimp only
  split
  · exact OnlyRead.refl ec
  · split
    · exact ecReadByte_onlyRead ec _
    · exact ecReadByte_onlyRead ec _

theorem replyGpuTempStatus_onlyRead (sensors : Sensors) :
    OnlyRead ec (replyGpuTempStatus ec cfg sensors).1 := by
  unfold replyGpuTempStatus
  dsimp only
  split
  · exact readGpuEcTemperatureC_onlyRead ec cfg
  · split
    · exact readGpuEcTemperatureC_onlyRead ec cfg
    · exact readGpuEcTemperatureC_onlyRead ec cfg

theorem replyEcRead_onlyRead (reg : Int) : OnlyRead ec (replyEcRead ec reg).1 := by
  unfold replyEcRead
  dsimp only
  split
  · exact ecReadByte_onlyRead ec reg
  · exact ecReadByte_onlyRead ec reg

theorem replyEcDump_onlyRead (start last : Int) : OnlyRead ec (replyEcDump ec start last).1 :=
  loop_preserves (fun dump : EcDevice × CString => OnlyRead ec dump.1) (OnlyRead.refl ec)
    fun _ dump _ before => before.trans (ecReadByte_onlyRead dump.1 _)

end OnlyRead

end NitroSense
