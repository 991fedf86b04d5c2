import NitroSense.Keyboard
import NitroSense.Models
import NitroSense.Fan.Control
import NitroSense.Fan.TemperatureCache
import NitroSense.Platform.Power

/-!
# The daemon's state, saved and restored

`daemon/state_persist.c`, `daemon/state_restore.c` and the part of `daemon.c`
that runs before the loop.  Everything a run of the daemon changes is one
record; the host around it is a field of the record.
-/

namespace NitroSense

open Lib

/-- What the daemon sees of the system besides the EC. -/
structure Host where
  sensors : Sensors
  powerSupplies : PowerSupplies := {}
  leds : Option (List Led) := none
  time : Int64 := 0
  /-- `daemon_persist_control_state`. -/
  persistControlState : Bool := true
  /-- The state directory exists or can be made, and the state file can be replaced. -/
  stateWritable : Bool := true

/-- The variables of `main` and `run_daemon_loop`, with the EC and the state file. -/
structure Daemon extends FanBank where
  host : Host
  autoMode : Bool := true
  preset : CString := "auto".toList
  coolboostEnabled : Bool := false
  runtime : RuntimeState := {}
  running : Bool := true
  savedState : Option CString := none
  lastPowerSource : PowerSource := .unknown

/-- The part of the daemon that decides about the fans. -/
structure FanControl extends FanBank where
  autoMode : Bool
  preset : CString
  coolboostEnabled : Bool

def Daemon.fanControl (daemon : Daemon) : FanControl :=
  ⟨daemon.toFanBank, daemon.autoMode, daemon.preset, daemon.coolboostEnabled⟩

/-- `firmware_auto_mode` of a daemon's mode. -/
def FanControl.firmwareAuto (control : FanControl) : Bool :=
  firmwareAutoMode control.autoMode control.preset

/-! ## Saving -/

/-- The strings of the header, each with the layout and the values up to the next string. -/
def controlStateItems (autoMode : Bool) (preset : CString) (runtime : RuntimeState)
    (time : Int64) : List (CString × CString) :=
  [("schema".toList, ": 1,\n  ".toList),
    ("mode".toList, ": ".toList), (controlMode autoMode preset, ",\n  ".toList),
    ("auto".toList, ": ".toList ++ boolText autoMode ++ ",\n  ".toList),
    ("preset".toList, ": ".toList), (preset, ",\n  ".toList),
    ("coolboost".toList, ": false,\n  ".toList),
    ("power_source_auto_apply".toList,
      ": ".toList ++ boolText runtime.powerSourceAutoApply ++ ",\n  ".toList),
    ("keyboard_backlight_timeout_enabled".toList,
      ": ".toList ++ boolText runtime.keyboardBacklightTimeoutEnabled ++ ",\n  ".toList),
    ("timestamp".toList, ": ".toList ++ decimal time.toInt ++ ",\n  ".toList)]

/-- The first `text_buffer_append` of `write_control_state`. -/
def controlStateHeader (autoMode : Bool) (preset : CString) (runtime : RuntimeState)
    (time : Int64) : CString :=
  "\x7b\n  ".toList ++ jsonItems (controlStateItems autoMode preset runtime time) ++
    quoted "fans".toList ++ ": [\n".toList

/-- The line of one fan; all but the last have a comma behind the brace. -/
def controlStateFan (id : CString) (percent : Int) (comma : CString) : CString :=
  "    \x7b ".toList ++
    jsonItems [("id".toList, ": ".toList), (id, ", ".toList),
      ("percent".toList, ": ".toList ++ decimal percent ++ " \x7d".toList ++ comma ++ "\n".toList)]

def controlStateFans : List (CString × Int) → List CString
  | [] => []
  | [(id, percent)] => [controlStateFan id percent []]
  | (id, percent) :: rest => controlStateFan id percent ",".toList :: controlStateFans rest

def savedFans (cfg : AnsConfig) (states : FanStates) : List (CString × Int) :=
  (List.range cfg.fanLen).map fun i => ((cfg.fan i).id, (states i).statusRequestedPercent)

def controlStateText (cfg : AnsConfig) (daemon : Daemon) : Option CString :=
  let header :=
    controlStateHeader daemon.autoMode daemon.preset daemon.runtime daemon.host.time
  let buffer : TextBuffer := { cap := 1024 }
  let out := buffer.appendAll
    (header :: (controlStateFans (savedFans cfg daemon.states) ++ ["  ]\n\x7d\n".toList]))
  if out.truncated then none else some out.text

def writeControlState (cfg : AnsConfig) (daemon : Daemon) : Daemon :=
  if daemon.host.persistControlState = false ∨ daemon.host.stateWritable = false then daemon
  else
    match controlStateText cfg daemon with
    | none => daemon
    | some text => { daemon with savedState := some text }

/-- Saving changes the state file and nothing else. -/
theorem writeControlState_eq (cfg : AnsConfig) (daemon : Daemon) :
    writeControlState cfg daemon =
      { daemon with savedState := (writeControlState cfg daemon).savedState } := by
  unfold writeControlState
  split
  · rfl
  · split <;> rfl

@[simp] theorem writeControlState_toFanBank (cfg : AnsConfig) (daemon : Daemon) :
    (writeControlState cfg daemon).toFanBank = daemon.toFanBank := by
  rw [writeControlState_eq]

@[simp] theorem writeControlState_fanControl (cfg : AnsConfig) (daemon : Daemon) :
    (writeControlState cfg daemon).fanControl = daemon.fanControl := by
  rw [writeControlState_eq]
  rfl

/-! ## Restoring -/

def jsonSavedPercentForFan (json id : CString) (fallback : Int) : Int :=
  match jsonObjectWithId json id with
  | none => fallback
  | some fanObj =>
      let percent := jsonIntKey fanObj "percent".toList fallback
      if percent < 1 ∨ percent > 100 then fallback else percent

def savedPercent (cfg : AnsConfig) (json : CString) (i : Nat) : Int :=
  jsonSavedPercentForFan json (cfg.fan i).id (cfg.fan i).resetSpeed

def restoreRuntimeStateFromJson (cfg : AnsConfig) (runtime : RuntimeState) (json : CString) :
    RuntimeState :=
  { runtime with
    powerSourceAutoApply :=
      jsonBoolKey json "power_source_auto_apply".toList cfg.powerSourceProfiles.autoApply
    keyboardBacklightTimeoutEnabled := cfg.keyboardBacklight.timeoutSupported &&
      jsonBoolKey json "keyboard_backlight_timeout_enabled".toList
        cfg.keyboardBacklight.timeoutDefaultEnabled
    keyboardBacklightTimeoutSeconds := cfg.keyboardBacklight.timeoutSeconds }

def applySavedFanPercentages (cfg : AnsConfig) (bank : FanBank) (json : CString) : FanBank :=
  setFans cfg (fun _ => true) (fun _ i => savedPercent cfg json i)
    (fun bank => globalSafetyReason cfg bank.states) bank

def restoreSavedFanTargets (cfg : AnsConfig) (states : FanStates) (json : CString) : FanStates :=
  fun i =>
    if i < cfg.fanLen then
      { states i with
        percent := savedPercent cfg json i
        requestedPercent := savedPercent cfg json i }
    else states i

/-- Restoring a mode that writes the saved percents. -/
def restoreSavedMode (cfg : AnsConfig) (bank : FanBank) (json preset : CString) :
    FanBank × CString :=
  (applySavedFanPercentages cfg { bank with ec := (applyDaemonControlFanMode bank.ec cfg).1 } json,
    preset)

def restoreAutoControlState (cfg : AnsConfig) (bank : FanBank) (json : CString) :
    FanBank × CString :=
  restoreSavedMode cfg bank json "auto".toList

def restoreManualControlState (cfg : AnsConfig) (bank : FanBank) (json : CString) :
    FanBank × CString :=
  restoreSavedMode cfg bank json "manual".toList

/-- `restore_firmware_auto_control_state`: the preset is manual when the mode write fails. -/
def restoreFirmwareAutoControlState (cfg : AnsConfig) (bank : FanBank) (json : CString) :
    FanBank × CString :=
  let applied := applyFirmwareAutoFanMode bank.ec cfg
  (⟨applied.1, restoreSavedFanTargets cfg bank.states json⟩,
    if applied.2 then firmwareAutoPreset else "manual".toList)

/-- `restore_named_preset_control_state`: `none` when the preset does not exist. -/
def restoreNamedPresetControlState (cfg : AnsConfig) (bank : FanBank) (preset : CString) :
    Option FanBank :=
  if preset = "manual".toList ∨ configFindPreset cfg preset = none then none
  else
    some (applyPreset cfg { bank with ec := (applyDaemonControlFanMode bank.ec cfg).1 } preset).1

/-- The mode branches of `restore_control_state_from_json`. -/
def restoreFans (cfg : AnsConfig) (bank : FanBank) (autoMode : Bool) (preset json : CString) :
    FanBank × CString :=
  if autoMode then restoreAutoControlState cfg bank json
  else if preset = firmwareAutoPreset then restoreFirmwareAutoControlState cfg bank json
  else
    match restoreNamedPresetControlState cfg bank preset with
    | some restored => (restored, preset)
    | none => restoreManualControlState cfg bank json

def restoreControlStateFromJson (cfg : AnsConfig) (daemon : Daemon) (json : CString) : Daemon :=
  let autoMode := jsonBoolKey json "auto".toList true
  let preset := jsonStringKey json "preset".toList "auto".toList 32
  let fans := restoreFans cfg daemon.toFanBank autoMode preset json
  { daemon with
    toFanBank :=
      if cfg.fanModes.available && !firmwareAutoMode autoMode fans.2 then
        (applyCoolboost cfg fans.1 false).1
      else fans.1
    autoMode := autoMode
    preset := fans.2
    coolboostEnabled := false
    runtime := restoreRuntimeStateFromJson cfg daemon.runtime json }

/-- What restoring does once the mode branch is known. -/
theorem restoreControlState_of_restoreFans {cfg : AnsConfig} {fresh : Daemon}
    {json preset : CString} {autoMode : Bool} {bank : FanBank}
    (auto : jsonBoolKey json "auto".toList true = autoMode)
    (fans : restoreFans cfg fresh.toFanBank autoMode
      (jsonStringKey json "preset".toList "auto".toList 32) json = (bank, preset)) :
    restoreControlStateFromJson cfg fresh json =
      { fresh with
        toFanBank :=
          if cfg.fanModes.available && !firmwareAutoMode autoMode preset then
            (applyCoolboost cfg bank false).1
          else bank
        autoMode := autoMode
        preset := preset
        coolboostEnabled := false
        runtime := restoreRuntimeStateFromJson cfg fresh.runtime json } := by
  simp only [restoreControlStateFromJson, auto, fans]

/-- `restore_control_state`: `none` when the state file cannot be read. -/
def restoreControlState (cfg : AnsConfig) (daemon : Daemon) : Option Daemon :=
  daemon.savedState.map fun json =>
    restoreControlStateFromJson cfg daemon (json.take (64 * 1024))

/-! ## Starting -/

/-- What `main` finds when it starts: the state files, the EC and the host. -/
structure Boot where
  ec : EcDevice
  host : Host
  statusFile : Option CString
  cacheFile : Option CString
  savedState : Option CString

/-- The daemon of `main` before it restores or applies a mode. -/
def bootedDaemon (cfg : AnsConfig) (boot : Boot) : Daemon where
  ec := applyInitWrites boot.ec cfg
  states := seedLastTemperatures boot.statusFile boot.cacheFile cfg (resetSpeedStates cfg)
  host :=
    { boot.host with sensors := applySensorPowerControl cfg boot.host.sensors "on".toList }
  coolboostEnabled := cfg.coolboostDefaultEnabled
  runtime := keyboardBacklightTimeoutInit cfg
    { powerSourceAutoApply := cfg.powerSourceProfiles.autoApply }
  savedState := boot.savedState

/-- The branches of `main` without a saved state: the model's default preset. -/
def applyDefaultPreset (cfg : AnsConfig) (daemon : Daemon) : Daemon :=
  let firmware := applyFirmwareAutoFanMode daemon.ec cfg
  if cfg.defaultPreset = "auto".toList then
    writeControlState cfg
      { daemon with
        ec := (applyDaemonControlFanMode daemon.ec cfg).1
        autoMode := true
        preset := "auto".toList }
  else if cfg.defaultPreset = firmwareAutoPreset ∧ firmware.2 = true then
    writeControlState cfg
      { daemon with ec := firmware.1, autoMode := false, preset := firmwareAutoPreset }
  else
    -- a failed switch to firmware-auto has still written to the EC
    let daemon :=
      if cfg.defaultPreset = firmwareAutoPreset then { daemon with ec := firmware.1 } else daemon
    let applied := applyPreset cfg daemon.toFanBank cfg.defaultPreset
    if cfg.defaultPreset ≠ [] ∧ applied.2 = true then
      writeControlState cfg
        { daemon with
          toFanBank := applied.1
          autoMode := false
          preset := (stringCopy 32 cfg.defaultPreset).1 }
    else daemon

/-- The default preset sets the mode, the fans and the saved state, and nothing else. -/
theorem applyDefaultPreset_eq (cfg : AnsConfig) (daemon : Daemon) :
    applyDefaultPreset cfg daemon =
      { daemon with
        toFanBank := (applyDefaultPreset cfg daemon).toFanBank
        autoMode := (applyDefaultPreset cfg daemon).autoMode
        preset := (applyDefaultPreset cfg daemon).preset
        savedState := (applyDefaultPreset cfg daemon).savedState } := by
  unfold applyDefaultPreset
  dsimp only
  split
  · rw [writeControlState_eq]
  · split
    · rw [writeControlState_eq]
    · split
      · split
        · rw [writeControlState_eq]
        · rfl
      · split
        · rw [writeControlState_eq]
        · rfl

/-- `main` up to `run_daemon_loop`. -/
def startDaemon (cfg : AnsConfig) (boot : Boot) : Daemon :=
  let daemon := bootedDaemon cfg boot
  (restoreControlState cfg daemon).getD (applyDefaultPreset cfg daemon)

/-- A daemon on the shipped profile with both fans held at 50 %. -/
def heldDaemon (autoMode : Bool) (preset : CString) : Daemon where
  ec := { regs := fun _ => 0 }
  states := fun _ => { percent := 50, requestedPercent := 50 }
  host := { sensors := AcerNitroAn517.cpuSensors 50 }
  autoMode := autoMode
  preset := preset

end NitroSense
