import NitroSense.Commands.Parser
import NitroSense.Commands.Status

/-!
# The handlers of commands that change something

`commands/daemon/`, except its registry.  A handler first parses the line and
then acts; the acting half is a definition of its own, in the terms of what was
parsed.  Each returns the daemon and the text sent to the client.
-/

namespace NitroSense

open Lib

/-- A reply that may have read EC registers. -/
def Daemon.inspected (daemon : Daemon) (reply : EcDevice × CString) : Daemon × CString :=
  ({ daemon with ec := reply.1 }, reply.2)

/-- The tables that name a flag's two values. -/
def findToggle (name : CString) : Option Bool :=
  if name = "on".toList then some true
  else if name = "off".toList then some false
  else none

/-! ## Fan commands -/

/-- `disable_coolboost_if_needed`: the flag is cleared whether or not the writes succeed. -/
def disableCoolboostIfNeeded (cfg : AnsConfig) (daemon : Daemon) : Daemon :=
  if daemon.coolboostEnabled = false then daemon
  else
    { daemon with
      toFanBank := (applyCoolboost cfg daemon.toFanBank false).1
      coolboostEnabled := false }

/-- `fan_command_prepare_daemon_control`, whose failure is replied by `fanModeWriteFailed`. -/
def fanCommandPrepareDaemonControl (cfg : AnsConfig) (daemon : Daemon) : Daemon × Bool :=
  let daemon := disableCoolboostIfNeeded cfg daemon
  let switched := applyDaemonControlFanMode daemon.ec cfg
  ({ daemon with ec := switched.1 }, switched.2)

def fanModeWriteFailed : CString := controlReply "error fan-mode write failed\n".toList

/-- `fan_command_set_control_mode`, with the 32 bytes of the daemon's preset. -/
def fanCommandSetControlMode (daemon : Daemon) (autoEnabled : Bool) (presetName : CString) :
    Daemon :=
  { daemon with autoMode := autoEnabled, preset := (stringCopy 32 presetName).1 }

def setFan (cfg : AnsConfig) (daemon : Daemon) (fan : CString) (percent : Int) :
    Daemon × CString :=
  let ready := fanCommandPrepareDaemonControl cfg daemon
  if ready.2 = false then (ready.1, fanModeWriteFailed)
  else
    let daemon := fanCommandSetControlMode ready.1 false "manual".toList
    let set := setOne cfg daemon.toFanBank fan percent
    let daemon := { daemon with toFanBank := set.1 }
    if set.2 = 0 then
      (daemon, controlReply ["error unknown fan: ".toList, fan, "\n".toList].flatten)
    else
      (writeControlState cfg daemon,
        controlReply
          ["mode=manual fan=".toList, fan, " requested=".toList, decimal percent,
            "\n".toList].flatten)

def handleSetCommand (cfg : AnsConfig) (daemon : Daemon) (cmd : CString) : Daemon × CString :=
  match parseSetCommand cmd 32 with
  | none => (daemon, controlReply "error usage: set cpu|gpu|all 1-100\n".toList)
  | some (fan, percent) => setFan cfg daemon fan percent

def usePreset (cfg : AnsConfig) (daemon : Daemon) (presetName : CString) : Daemon × CString :=
  match configFindPreset cfg presetName with
  | none => (daemon, controlReply "error unknown preset\n".toList)
  | some p =>
      let ready := fanCommandPrepareDaemonControl cfg daemon
      if ready.2 = false then (ready.1, fanModeWriteFailed)
      else
        let daemon := fanCommandSetControlMode ready.1 false p.id
        let daemon := { daemon with toFanBank := (applyPreset cfg daemon.toFanBank p.id).1 }
        (writeControlState cfg daemon,
          controlReply
            ["mode=preset preset=".toList, p.id, " cpu=".toList, decimal p.cpu,
              " gpu=".toList, decimal p.gpu, "\n".toList].flatten)

def handlePresetCommand (cfg : AnsConfig) (daemon : Daemon) (cmd : CString) : Daemon × CString :=
  match parsePresetCommand cmd 32 with
  | none => (daemon, controlReply "error usage: preset NAME\n".toList)
  | some presetName => usePreset cfg daemon presetName

def startAuto (cfg : AnsConfig) (daemon : Daemon) : Daemon × CString :=
  let ready := fanCommandPrepareDaemonControl cfg daemon
  if ready.2 = false then (ready.1, fanModeWriteFailed)
  else
    let daemon := fanCommandSetControlMode ready.1 true "auto".toList
    let daemon :=
      { daemon with
        toFanBank :=
          setFans cfg (fun _ => true) (fun _ i => (cfg.fan i).resetSpeed)
            (fun bank => globalSafetyReason cfg bank.states) daemon.toFanBank }
    (writeControlState cfg daemon, controlReply "mode=auto preset=auto\n".toList)

def handleAutoCommand (cfg : AnsConfig) (daemon : Daemon) (cmd : CString) : Daemon × CString :=
  if commandIsExact cmd "auto".toList then startAuto cfg daemon
  else (daemon, controlReply "error usage: auto\n".toList)

def startFirmwareAuto (cfg : AnsConfig) (daemon : Daemon) : Daemon × CString :=
  if cfg.fanModes.available = false then
    (daemon, controlReply "error firmware-auto unavailable for this model\n".toList)
  else
    let applied := applyFirmwareAutoFanMode daemon.ec cfg
    let daemon := { daemon with ec := applied.1 }
    if applied.2 = false then (daemon, fanModeWriteFailed)
    else
      let daemon :=
        { fanCommandSetControlMode daemon false firmwareAutoPreset with coolboostEnabled := false }
      (writeControlState cfg daemon,
        controlReply
          ["mode=".toList, firmwareAutoPreset, " preset=".toList, firmwareAutoPreset,
            "\n".toList].flatten)

def handleFirmwareAutoCommand (cfg : AnsConfig) (daemon : Daemon) (cmd : CString) :
    Daemon × CString :=
  if commandIsExact cmd firmwareAutoPreset then startFirmwareAuto cfg daemon
  else (daemon, controlReply "error usage: firmware-auto\n".toList)

/-- `handle_fan_control_command`, which looks the command up again. -/
def handleFanControlCommand (cfg : AnsConfig) (daemon : Daemon) (cmd : CString) :
    Daemon × CString :=
  let unknown := (daemon, controlReply "error unknown command\n".toList)
  match commandFirstToken cmd 32 with
  | none => unknown
  | some command =>
      if command = "set".toList then handleSetCommand cfg daemon cmd
      else if command = "preset".toList then handlePresetCommand cfg daemon cmd
      else if command = "auto".toList then handleAutoCommand cfg daemon cmd
      else if command = firmwareAutoPreset then handleFirmwareAutoCommand cfg daemon cmd
      else unknown

/-! ## Fan modes and CoolBoost -/

/-- `fan_mode_action`; without a preset of its own a mode becomes firmware-auto. -/
structure FanModeAction where
  coolboostEnabled : Bool
  updatesControlMode : Bool
  preset : Option CString
  applyCurrentControl : Bool

def fanModeAction : FanMode → FanModeAction
  | .auto => ⟨false, true, none, false⟩
  | .manual => ⟨false, true, some "manual".toList, true⟩
  | .turbo => ⟨true, false, none, false⟩

def findFanModeAction (name : CString) : Option FanMode :=
  [FanMode.auto, FanMode.manual, FanMode.turbo].find? fun mode => mode.name = name

def useFanMode (cfg : AnsConfig) (daemon : Daemon) (mode : FanMode) : Daemon × CString :=
  if cfg.fanModes.available = false then
    (daemon, controlReply "error fan modes unavailable for this model\n".toList)
  else
    let applied := applyFanMode daemon.ec cfg mode
    let daemon := { daemon with ec := applied.1 }
    if applied.2 = false then (daemon, fanModeWriteFailed)
    else
      let entry := fanModeAction mode
      let daemon := { daemon with coolboostEnabled := entry.coolboostEnabled }
      let daemon :=
        if entry.updatesControlMode then
          fanCommandSetControlMode daemon false (entry.preset.getD firmwareAutoPreset)
        else daemon
      let daemon :=
        if entry.applyCurrentControl then
          { daemon with toFanBank := applyCurrentControlState cfg daemon.toFanBank }
        else daemon
      (writeControlState cfg daemon,
        controlReply ["fan_mode=".toList, mode.name, "\n".toList].flatten)

def handleFanModeCommand (cfg : AnsConfig) (daemon : Daemon) (cmd : CString) : Daemon × CString :=
  match (parseFanModeCommand cmd 16).bind findFanModeAction with
  | none => (daemon, controlReply "error usage: fan-mode status|auto|manual|turbo\n".toList)
  | some mode => useFanMode cfg daemon mode

def findCoolboostAction (name : CString) : Option Bool := findToggle name

/-- The switch behind `coolboost on` and `coolboost off`. -/
def switchCoolboost (cfg : AnsConfig) (daemon : Daemon) (enabled : Bool) : FanBank × Bool :=
  if enabled then applyCoolboost cfg daemon.toFanBank true
  else if firmwareAutoMode daemon.autoMode daemon.preset then
    let applied := applyFirmwareAutoFanMode daemon.ec cfg
    (⟨applied.1, daemon.states⟩, applied.2)
  else applyCoolboost cfg daemon.toFanBank false

def setCoolboost (cfg : AnsConfig) (daemon : Daemon) (enabled : Bool) : Daemon × CString :=
  if cfg.fanModes.available = false then
    (daemon, controlReply "error coolboost unavailable for this model\n".toList)
  else
    let applied := switchCoolboost cfg daemon enabled
    let daemon := { daemon with toFanBank := applied.1 }
    if applied.2 = false then (daemon, controlReply "error coolboost write failed\n".toList)
    else
      (writeControlState cfg { daemon with coolboostEnabled := enabled },
        controlReply ["coolboost=".toList, onOffText enabled, "\n".toList].flatten)

def handleCoolboostCommand (cfg : AnsConfig) (daemon : Daemon) (cmd : CString) :
    Daemon × CString :=
  match (parseCoolboostCommand cmd 16).bind findCoolboostAction with
  | none => (daemon, controlReply "error usage: coolboost on|off|status\n".toList)
  | some enabled => setCoolboost cfg daemon enabled

/-! ## Platform commands -/

def useProfile (cfg : AnsConfig) (daemon : Daemon) (profile : CString) : Daemon × CString :=
  if cfg.platformProfiles.available = false then
    (daemon, controlReply "error profiles unavailable for this model\n".toList)
  else
    match configFindPlatformProfile cfg profile with
    | none => (daemon, controlReply "error unknown profile\n".toList)
    | some entry =>
        let applied := applyPlatformProfile daemon.ec cfg profile
        let daemon := { daemon with ec := applied.1 }
        if applied.2 = false then (daemon, controlReply "error profile write failed\n".toList)
        else
          (daemon,
            controlReply
              ["profile=".toList, profile, " value=".toList, registerText entry.value,
                "\n".toList].flatten)

def handleProfileCommand (cfg : AnsConfig) (daemon : Daemon) (cmd : CString) : Daemon × CString :=
  match parseProfileCommand cmd 32 with
  | none => (daemon, controlReply "error usage: profile status|NAME\n".toList)
  | some profile => useProfile cfg daemon profile

def powerSourceUsage : CString :=
  controlReply "error usage: power-source status|apply|auto on|off\n".toList

def powerSourcePolicyUnavailable (source : PowerSource) : CString :=
  controlReply
    ["error power-source profile policy unavailable source=".toList, source.name,
      "\n".toList].flatten

def powerSourceWriteFailed : CString :=
  controlReply "error power-source profile write failed\n".toList

def findPowerSourceAutoValue (name : CString) : Option Bool := findToggle name

/-- The write behind `power-source auto on`, when the policy has a profile for the source. -/
def powerSourceAutoWrite (cfg : AnsConfig) (daemon : Daemon) (enabled : Bool) : EcDevice × Bool :=
  let source := readPowerSource daemon.host.powerSupplies
  if enabled ∧ (powerSourceProfileFor cfg source).isSome then
    applyPowerSourceProfile daemon.ec cfg source
  else (daemon.ec, true)

/-- Switching profiles with the power source; the flag is set before the profile is written. -/
def setPowerSourceAuto (cfg : AnsConfig) (daemon : Daemon) (enabled : Bool) : Daemon × CString :=
  let source := readPowerSource daemon.host.powerSupplies
  let applied := powerSourceAutoWrite cfg daemon enabled
  let daemon :=
    { daemon with
      runtime := { daemon.runtime with powerSourceAutoApply := enabled }
      ec := applied.1 }
  if applied.2 = false then (daemon, powerSourceWriteFailed)
  else
    (writeControlState cfg daemon,
      controlReply
        ["power_source=".toList, source.name, " auto_apply=".toList, onOffText enabled,
          " profile=".toList, (powerSourceProfileFor cfg source).getD "unavailable".toList,
          "\n".toList].flatten)

def handlePowerSourceAutoCommand (cfg : AnsConfig) (daemon : Daemon) (cmd : CString) :
    Daemon × CString :=
  match parsePowerSourceAutoCommand cmd 16 with
  | none => (daemon, powerSourceUsage)
  | some autoValue =>
      if powerSourceProfilePolicyAvailable cfg = false then
        (daemon, powerSourcePolicyUnavailable (readPowerSource daemon.host.powerSupplies))
      else
        match findPowerSourceAutoValue autoValue with
        | none => (daemon, powerSourceUsage)
        | some enabled => setPowerSourceAuto cfg daemon enabled

/-- Applying the profile of the current power source once. -/
def usePowerSourceProfile (cfg : AnsConfig) (daemon : Daemon) : Daemon × CString :=
  let source := readPowerSource daemon.host.powerSupplies
  match powerSourceProfileFor cfg source with
  | none => (daemon, powerSourcePolicyUnavailable source)
  | some targetProfile =>
      let applied := applyPowerSourceProfile daemon.ec cfg source
      let daemon := { daemon with ec := applied.1 }
      if applied.2 = false then (daemon, powerSourceWriteFailed)
      else
        (daemon,
          controlReply
            ["power_source=".toList, source.name, " profile=".toList, targetProfile,
              "\n".toList].flatten)

def handlePowerSourceApplyCommand (cfg : AnsConfig) (daemon : Daemon) (cmd : CString) :
    Daemon × CString :=
  match commandParseEnumAction cmd "power-source".toList ["apply".toList] 16 with
  | none => (daemon, powerSourceUsage)
  | some _ => usePowerSourceProfile cfg daemon

def handlePowerSourceCommand (cfg : AnsConfig) (daemon : Daemon) (cmd : CString) :
    Daemon × CString :=
  match commandSecondToken cmd 16 with
  | none => (daemon, powerSourceUsage)
  | some action =>
      if action = "apply".toList then handlePowerSourceApplyCommand cfg daemon cmd
      else if action = "auto".toList then handlePowerSourceAutoCommand cfg daemon cmd
      else (daemon, powerSourceUsage)

/-- `find_gpu_temp_action`: the policy, whose `live` text is the same. -/
def findGpuTempAction (name : CString) : Option CString :=
  if name = "auto".toList then some "auto".toList
  else if name = "live".toList then some "on".toList
  else none

def setGpuTempPolicy (daemon : Daemon) (policy : CString) : Daemon × CString :=
  let changed := sensorSetGroupPowerControl daemon.host.sensors "gpu".toList policy
  let daemon := { daemon with host := { daemon.host with sensors := changed.1 } }
  if changed.2 ≤ 0 then
    (daemon,
      controlReply ["error gpu-temp policy write failed policy=".toList, policy, "\n".toList].flatten)
  else
    (daemon,
      controlReply
        ["gpu_temp=available policy=".toList, policy, " live=".toList, policy,
          " changed=".toList, decimal changed.2, "\n".toList].flatten)

def handleGpuTempCommand (daemon : Daemon) (cmd : CString) : Daemon × CString :=
  match (parseGpuTempCommand cmd 16).bind findGpuTempAction with
  | none => (daemon, controlReply "error usage: gpu-temp status|auto|live\n".toList)
  | some policy => setGpuTempPolicy daemon policy

/-! ## Keyboard commands -/

def findKeyboardBacklightTimeoutValue (name : CString) : Option Bool := findToggle name

def keyboardBacklightTimeoutUsage : CString :=
  controlReply "error usage: keyboard-backlight timeout status|on|off\n".toList

def setKeyboardBacklightTimeout (cfg : AnsConfig) (daemon : Daemon) (enabled : Bool) :
    Daemon × CString :=
  let daemon :=
    { daemon with
      runtime :=
        { daemon.runtime with
          keyboardBacklightTimeoutEnabled := enabled
          keyboardBacklightTimedOff := enabled && daemon.runtime.keyboardBacklightTimedOff } }
  (writeControlState cfg daemon,
    controlReply
      ["keyboard_backlight_timeout=".toList, onOffText enabled, " timeout_seconds=".toList,
        decimal cfg.keyboardBacklight.timeoutSeconds, " backend=input-activity\n".toList].flatten)

def handleKeyboardBacklightTimeoutCommand (cfg : AnsConfig) (daemon : Daemon) (cmd : CString) :
    Daemon × CString :=
  match parseKeyboardBacklightTimeoutCommand cmd 16 with
  | none => (daemon, keyboardBacklightTimeoutUsage)
  | some action =>
      if cfg.keyboardBacklight.timeoutSupported = false then
        (daemon,
          controlReply "error keyboard-backlight timeout unavailable for this model\n".toList)
      else
        match findKeyboardBacklightTimeoutValue action with
        | none => (daemon, keyboardBacklightTimeoutUsage)
        | some enabled => setKeyboardBacklightTimeout cfg daemon enabled

def keyboardBacklightSetUsage : CString :=
  controlReply "error usage: keyboard-backlight set 0|25|50|75|100\n".toList

def setKeyboardBacklight (cfg : AnsConfig) (daemon : Daemon) (percent : Int) : Daemon × CString :=
  let set := keyboardBacklightSetPercent daemon.ec cfg percent
  let status := set.2
  let register := registerText cfg.keyboardBacklight.reg
  if cfg.keyboardBacklight.available = false then
    (daemon,
      controlReply
        "error keyboard-backlight unavailable: no EC backend configured for this model\n".toList)
  else if status.available = false then
    ({ daemon with ec := set.1 },
      controlReply
        ["error keyboard-backlight write failed register=".toList, register,
          " percent=".toList, decimal percent, "\n".toList].flatten)
  else
    ({ daemon with
        ec := set.1
        runtime := keyboardBacklightTimeoutNoteManualSet daemon.runtime status.percent },
      controlReply
        ["keyboard_backlight=available backend=ec register=".toList, register,
          " brightness=".toList, decimal status.brightness,
          " max_brightness=".toList, decimal status.maxBrightness,
          " percent=".toList, decimal status.percent, "\n".toList].flatten)

def handleKeyboardBacklightSetCommand (cfg : AnsConfig) (daemon : Daemon) (cmd : CString) :
    Daemon × CString :=
  match parseKeyboardBacklightSetCommand cmd with
  | none => (daemon, keyboardBacklightSetUsage)
  | some percent =>
      if [0, 25, 50, 75, 100].contains percent = false then (daemon, keyboardBacklightSetUsage)
      else setKeyboardBacklight cfg daemon percent

def handleKeyboardBacklightCommand (cfg : AnsConfig) (daemon : Daemon) (cmd : CString) :
    Daemon × CString :=
  let usage :=
    (daemon,
      controlReply ("error usage: keyboard-backlight status|set 0|25|50|75|100|" ++
        "timeout status|on|off\n").toList)
  match commandSecondToken cmd 16 with
  | none => usage
  | some action =>
      if action = "set".toList then handleKeyboardBacklightSetCommand cfg daemon cmd
      else if action = "timeout".toList then handleKeyboardBacklightTimeoutCommand cfg daemon cmd
      else usage

/-! ## Lifecycle and EC commands -/

def resume (cfg : AnsConfig) (daemon : Daemon) : Daemon × CString :=
  let mode := controlMode daemon.autoMode daemon.preset
  let daemon :=
    { daemon with
      ec := applyInitWrites daemon.ec cfg
      host :=
        { daemon.host with
          sensors := applySensorPowerControl cfg daemon.host.sensors "on".toList } }
  let daemon :=
    if firmwareAutoMode daemon.autoMode daemon.preset then
      { daemon with ec := (applyFirmwareAutoFanMode daemon.ec cfg).1 }
    else { daemon with toFanBank := applyCurrentControlState cfg daemon.toFanBank }
  (daemon,
    controlReply
      ["resume=ok mode=".toList, mode, " preset=".toList, daemon.preset, "\n".toList].flatten)

def handleResumeCommand (cfg : AnsConfig) (daemon : Daemon) (cmd : CString) : Daemon × CString :=
  if commandIsExact cmd "resume".toList then resume cfg daemon
  else (daemon, controlReply "error usage: resume\n".toList)

def stop (daemon : Daemon) : Daemon × CString :=
  ({ daemon with running := false }, controlReply "stop=ok reset=firmware\n".toList)

def handleStopCommand (daemon : Daemon) (cmd : CString) : Daemon × CString :=
  if commandIsExact cmd "stop".toList then stop daemon
  else (daemon, controlReply "error usage: stop\n".toList)

def handleDaemonControlCommand (cfg : AnsConfig) (daemon : Daemon) (cmd : CString) :
    Daemon × CString :=
  let unknown := (daemon, controlReply "error unknown command\n".toList)
  match commandFirstToken cmd 32 with
  | none => unknown
  | some command =>
      if command = "resume".toList then handleResumeCommand cfg daemon cmd
      else if command = "stop".toList then handleStopCommand daemon cmd
      else unknown

def handleEcReadCommand (daemon : Daemon) (cmd : CString) : Daemon × CString :=
  match parseEcReadCommand cmd with
  | none => (daemon, controlReply "error usage: ec read REG\n".toList)
  | some reg => daemon.inspected (replyEcRead daemon.ec reg)

def handleEcDumpCommand (daemon : Daemon) (cmd : CString) : Daemon × CString :=
  match parseEcDumpCommand cmd with
  | none => (daemon, controlReply "error usage: ec dump START END\n".toList)
  | some (start, last) => daemon.inspected (replyEcDump daemon.ec start last)

def handleEcCommand (daemon : Daemon) (cmd : CString) : Daemon × CString :=
  let unknown := (daemon, controlReply "error unknown command\n".toList)
  match commandFirstToken cmd 32 with
  | none => unknown
  | some command =>
      if command = "ec-read".toList then handleEcReadCommand daemon cmd
      else if command = "ec-dump".toList then handleEcDumpCommand daemon cmd
      else unknown

end NitroSense
