import NitroSense.Commands.Status
import NitroSense.Daemon.EcAccess
import NitroSense.Hardware.Dmi
import NitroSense.Hardware.Names

/-!
# Diagnostics

`daemon/diagnostics.c`, `daemon/diagnostics_validate.c` and
`daemon/diagnostics_error.c`: what `--probe` and `--validate-model` print of a
profile and of the EC, and what is said when no backend opens.
-/

namespace NitroSense

open Lib EcDevice

/-- The speed of a fan as both diagnostics read it. -/
def readRaw (ec : EcDevice) (cfg : AnsConfig) (fan : FanConfig) : EcDevice × Int :=
  if cfg.readWords then ecReadWord ec fan.readRegister else ecReadByte ec fan.readRegister

/-- The loop over the fans of a diagnosis that reads the EC and prints. -/
def printFans (print : EcDevice → FanConfig → EcDevice × CString) :
    List FanConfig → EcDevice → EcDevice × CString
  | [], ec => (ec, [])
  | fan :: fans, ec =>
      let first := print ec fan
      let rest := printFans print fans first.1
      (rest.1, first.2 ++ rest.2)

/-! ## `--probe` -/

def probeFan (cfg : AnsConfig) (sensors : Sensors) (ec : EcDevice) (fan : FanConfig) :
    EcDevice × CString :=
  let raw := readRaw ec cfg fan
  (raw.1,
    [fan.id, " rpm=".toList, decimal raw.2,
      " temp=".toList, decimal (sensorReadGroupMaxC sensors fan.sensorGroup),
      " read_register=".toList, registerText fan.readRegister,
      " write_register=".toList, registerText fan.writeRegister, "\n".toList].flatten)

def probeEc (cfg : AnsConfig) (backend : CString) (sensors : Sensors) (ec : EcDevice) :
    EcDevice × CString :=
  let fans := printFans (probeFan cfg sensors) cfg.fans ec
  (fans.1, "backend=".toList ++ (backend ++ ("\n".toList ++ fans.2)))

/-! ## `--validate-model` -/

/-- `format_optional_register`, for a buffer of 16 bytes. -/
def formatOptionalRegister (reg : Int) : CString :=
  if reg ≥ 0 then snprintf 16 (registerText reg) else "none".toList

def fanEcTemperature (ec : EcDevice) (reg : Int) : EcDevice × Int :=
  let temp := if reg ≥ 0 then ecReadByte ec reg else (ec, -1)
  (temp.1, if temp.2 > 0 ∧ temp.2 ≤ 130 then temp.2 else -1)

/-- The control group of a fan, or its own group. -/
def controlGroup (fan : FanConfig) : CString :=
  if fan.controlSensorGroup ≠ [] then fan.controlSensorGroup else fan.sensorGroup

def validateFan (cfg : AnsConfig) (sensors : Sensors) (ec : EcDevice) (fan : FanConfig) :
    EcDevice × CString :=
  let ecTemp := fanEcTemperature ec fan.temperatureRegister
  let temp := if ecTemp.2 ≥ 0 then ecTemp.2 else sensorReadGroupMaxC sensors fan.sensorGroup
  let ecControlTemp := fanEcTemperature ecTemp.1 fan.controlTemperatureRegister
  let raw := readRaw ecControlTemp.1 cfg fan
  let controlTemp :=
    if ecControlTemp.2 ≥ 0 then ecControlTemp.2
    else if fan.controlSensorGroup ≠ [] then sensorReadGroupMaxC sensors fan.controlSensorGroup
    else temp
  (raw.1,
    ["fan=".toList, fan.id, " name=\"".toList, fan.name, "\" sensor_group=".toList,
      fan.sensorGroup, " control_sensor_group=".toList, controlGroup fan,
      " rpm=".toList, decimal raw.2, " temp=".toList, decimal temp,
      " control_temp=".toList, decimal controlTemp,
      " read_register=".toList, registerText fan.readRegister,
      " write_register=".toList, registerText fan.writeRegister,
      " temperature_register=".toList, formatOptionalRegister fan.temperatureRegister,
      " control_temperature_register=".toList,
      formatOptionalRegister fan.controlTemperatureRegister,
      " reset_speed=".toList, decimal fan.resetSpeed,
      " missing_temperature_speed_percent=".toList,
      decimal
        (if fan.missingTemperatureSpeedPercent > 0 then fan.missingTemperatureSpeedPercent
        else cfg.safety.missingTemperatureSpeedPercent),
      " curve_points=".toList, decimal fan.curve.length,
      " keep_awake=".toList, boolText fan.keepAwake,
      " sensor_power_control=".toList, fallbackText fan.sensorPowerControl "default".toList,
      "\n".toList].flatten)

def safetyDiagnosis (safety : SafetyConfig) : CString :=
  ["safety min_speed_percent=".toList, decimal safety.minSpeedPercent,
    " min_speed_temperature_c=".toList, decimal safety.minSpeedTemperatureC,
    " critical_speed_percent=".toList, decimal safety.criticalSpeedPercent,
    " critical_full_speed=".toList, boolText safety.criticalFullSpeed,
    " critical_step_percent=".toList, decimal safety.criticalStepPercent,
    " critical_consecutive_samples=".toList, decimal safety.criticalConsecutiveSamples,
    " critical_release_temperature_c=".toList, decimal safety.criticalReleaseTemperatureC,
    " auto_ramp_up_percent=".toList, decimal safety.autoRampUpPercent,
    " auto_ramp_bypass_temperature_c=".toList, decimal safety.autoRampBypassTemperatureC,
    " missing_temperature_speed_percent=".toList, decimal safety.missingTemperatureSpeedPercent,
    " max_ec_read_failures=".toList, decimal safety.maxEcReadFailures,
    " max_ec_write_failures=".toList, decimal safety.maxEcWriteFailures, "\n".toList].flatten

def fanModesDiagnosis (modes : FanModeConfig) : CString :=
  if modes.available then
    ["fan_modes available=true cpu_register=".toList, registerText modes.cpuReg,
      " gpu_register=".toList, registerText modes.gpuReg,
      " cpu_auto=".toList, registerText modes.cpuAutoValue,
      " cpu_manual=".toList, registerText modes.cpuManualValue,
      " cpu_turbo=".toList, registerText modes.cpuTurboValue,
      " gpu_auto=".toList, registerText modes.gpuAutoValue,
      " gpu_manual=".toList, registerText modes.gpuManualValue,
      " gpu_turbo=".toList, registerText modes.gpuTurboValue, "\n".toList].flatten
  else "fan_modes available=false\n".toList

def platformProfilesDiagnosis (profiles : PlatformProfileConfig) : CString :=
  if profiles.available then
    ["platform_profiles available=true register=".toList, registerText profiles.reg,
        " default=".toList, fallbackText profiles.defaultProfile "none".toList,
        " profiles=".toList, decimal profiles.profiles.length, "\n".toList].flatten ++
      profiles.profiles.flatMap fun profile =>
        ["platform_profile=".toList, profile.id, " value=".toList, registerText profile.value,
          "\n".toList].flatten
  else "platform_profiles available=false\n".toList

def powerSourceProfilesDiagnosis (cfg : AnsConfig) (source : PowerSource) : CString :=
  let profiles := cfg.powerSourceProfiles
  ["power_source_profiles available=".toList, boolText (powerSourceProfilePolicyAvailable cfg),
    " auto_apply=".toList, boolText profiles.autoApply,
    " ac=".toList, fallbackText profiles.acProfile "none".toList,
    " battery=".toList, fallbackText profiles.batteryProfile "none".toList,
    " current=".toList, source.name, "\n".toList].flatten

def validateModel (cfg : AnsConfig) (backend : CString) (host : Host) (dmi configPath : CString)
    (forceModel : Bool) (ec : EcDevice) : EcDevice × CString :=
  let fans := printFans (validateFan cfg host.sensors) cfg.fans ec
  let coolboost := if cfg.fanModes.available then "fan-mode-turbo".toList else "unavailable".toList
  (fans.1,
    ["config=".toList, configPath, "\nmodel=".toList, cfg.model,
      "\ndmi=".toList, fallbackText dmi "unknown".toList,
      "\ndmi_allowed=".toList, boolText (forceModel || dmiAllowed cfg dmi),
      "\nbackend=".toList, backend,
      "\nfans=".toList, decimal cfg.fanLen, " presets=".toList, decimal cfg.presets.length,
      " poll_interval_ms=".toList, decimal cfg.pollIntervalMs,
      " critical_temperature_c=".toList, decimal cfg.criticalTemperatureC, "\n".toList,
      safetyDiagnosis cfg.safety,
      "coolboost available=".toList, boolText cfg.fanModes.available,
      " backend=".toList, coolboost,
      " default_enabled=".toList, boolText cfg.coolboostDefaultEnabled, "\n".toList,
      fanModesDiagnosis cfg.fanModes, platformProfilesDiagnosis cfg.platformProfiles,
      powerSourceProfilesDiagnosis cfg (readPowerSource host.powerSupplies), fans.2].flatten)

/-! ## No backend -/

/-- `errno`: its text, and whether it is `EPERM`. -/
structure Errno where
  text : CString
  isPerm : Bool

def perror (what : CString) (errno : Errno) : CString :=
  what ++ (": ".toList ++ (errno.text ++ "\n".toList))

def lockdownBlocksRawIo (files : CString → Option (List Char)) : Bool :=
  match files "/sys/kernel/security/lockdown".toList with
  | none => false
  | some bytes =>
      let lockdown := readTextFile 256 bytes
      (findSub "[integrity]".toList lockdown).isSome ||
        (findSub "[confidentiality]".toList lockdown).isSome

def printEcOpenError (files : CString → Option (List Char)) (errno : Errno) : CString :=
  perror "EC backend".toList errno ++
    ("EC access failed. Tried ec_sys, acpi_ec (/dev/ec), then direct EC I/O ports.\n".toList ++
      if errno.isPerm ∧ lockdownBlocksRawIo files then
        "Kernel lockdown is active and blocks direct EC I/O even as root.\n".toList ++
          "This kernel also needs CONFIG_ACPI_EC_DEBUGFS for the ec_sys backend.\n".toList
      else "Run as root and make sure the kernel allows CAP_SYS_RAWIO/ioperm.\n".toList)

/-! ## What the diagnostics touch -/

/-- The EC is read, at registers of the profile, and nothing is written. -/
structure Inspects (allowed : Int → Prop) (before after : EcDevice) : Prop where
  only : OnlyRead before after
  within : AccessesWithin allowed before after

section Inspection

variable {cfg : AnsConfig} {allowed : Int → Prop} {ec : EcDevice} {fan : FanConfig}

@[refl] theorem Inspects.refl (ec : EcDevice) : Inspects allowed ec ec := ⟨.refl ec, .refl ec⟩

theorem Inspects.trans {first second third : EcDevice} (left : Inspects allowed first second)
    (right : Inspects allowed second third) : Inspects allowed first third :=
  ⟨left.only.trans right.only, left.within.trans right.within⟩

/-- A fan of the profile, with its registers in reach. -/
structure FanReach (cfg : AnsConfig) (allowed : Int → Prop) (fan : FanConfig) : Prop where
  read : allowed fan.readRegister
  word : cfg.readWords = true → allowed (fan.readRegister + 1)
  temperature : fan.temperatureRegister = -1 ∨ allowed fan.temperatureRegister
  control : fan.controlTemperatureRegister = -1 ∨ allowed fan.controlTemperatureRegister

theorem Reaches.fanReach (valid : cfg.Valid) (reaches : Reaches cfg allowed)
    (member : fan ∈ cfg.fans) : FanReach cfg allowed fan := by
  obtain ⟨i, below, same⟩ := List.mem_iff_getElem.mp member
  have here : cfg.fan i = fan := (List.getD_eq_getElem _ _ below).trans same
  have own := valid.fans fan member
  exact ⟨reaches.byte _ own.readRegister, fun words => here ▸ reaches.word words i below,
    own.temperatureRegister.imp_right (reaches.byte _),
    own.controlTemperatureRegister.imp_right (reaches.byte _)⟩

theorem readRaw_inspects (reach : FanReach cfg allowed fan) :
    Inspects allowed ec (readRaw ec cfg fan).1 := by
  unfold readRaw
  split
  · rename_i words
    exact ⟨ecReadWord_onlyRead ec _, ecReadWord_accesses reach.read (reach.word words)⟩
  · exact ⟨ecReadByte_onlyRead ec _, ecReadByte_accesses reach.read⟩

theorem fanEcTemperature_inspects {reg : Int} (optional : reg = -1 ∨ allowed reg) :
    Inspects allowed ec (fanEcTemperature ec reg).1 := by
  unfold fanEcTemperature
  dsimp only
  split
  · rename_i present
    rcases optional with rfl | inside
    · exact absurd present (by decide)
    · exact ⟨ecReadByte_onlyRead ec reg, ecReadByte_accesses inside⟩
  · exact .refl ec

theorem probeFan_inspects (reach : FanReach cfg allowed fan) (sensors : Sensors) :
    Inspects allowed ec (probeFan cfg sensors ec fan).1 :=
  readRaw_inspects reach

theorem validateFan_inspects (reach : FanReach cfg allowed fan) (sensors : Sensors) :
    Inspects allowed ec (validateFan cfg sensors ec fan).1 :=
  ((fanEcTemperature_inspects reach.temperature).trans
    (fanEcTemperature_inspects reach.control)).trans (readRaw_inspects reach)

/-- A loop whose rounds inspect the EC inspects it. -/
theorem printFans_inspects {print : EcDevice → FanConfig → EcDevice × CString}
    {fans : List FanConfig} (each : ∀ fan ∈ fans, ∀ ec, Inspects allowed ec (print ec fan).1)
    (ec : EcDevice) : Inspects allowed ec (printFans print fans ec).1 := by
  induction fans generalizing ec with
  | nil => exact .refl ec
  | cons fan fans ih =>
      obtain ⟨here, later⟩ := List.forall_mem_cons.mp each
      exact (here ec).trans (ih later _)

theorem probeEc_inspects (valid : cfg.Valid) (reaches : Reaches cfg allowed) (backend : CString)
    (sensors : Sensors) : Inspects allowed ec (probeEc cfg backend sensors ec).1 :=
  printFans_inspects (fun _ member _ => probeFan_inspects (reaches.fanReach valid member) sensors) ec

theorem validateModel_inspects (valid : cfg.Valid) (reaches : Reaches cfg allowed)
    (backend : CString) (host : Host) (dmi configPath : CString) (forceModel : Bool) :
    Inspects allowed ec (validateModel cfg backend host dmi configPath forceModel ec).1 :=
  printFans_inspects
    (fun _ member _ => validateFan_inspects (reaches.fanReach valid member) host.sensors) ec

end Inspection

end NitroSense
