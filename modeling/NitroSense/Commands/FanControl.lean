import NitroSense.Commands.Request
import NitroSense.Fan.Activity

/-!
# Fan control while EC writes work

The commands seen from the part of the daemon that decides about the fans.
With working writes no request stops half-way, so a request is one function on
that part, `FanControl.perform`; `perform_fanControl` shows that the handlers
compute it.
-/

namespace NitroSense

open EcDevice

/-! ## The fan requests as functions of fan control -/

/-- The requests that have nothing to do with the fans. -/
def Request.isAside : Request → Bool
  | set .. | preset .. | auto | firmwareAuto | fanMode _ | coolboost _ | resume => false
  | _ => true

def switchedBank (cfg : AnsConfig) (bank : FanBank) (mode : FanMode) : FanBank :=
  { bank with ec := (applyFanMode bank.ec cfg mode).1 }

namespace FanControl

variable (cfg : AnsConfig) (control : FanControl)

def calmedBank : FanBank :=
  if control.coolboostEnabled = false then control.toFanBank
  else (applyCoolboost cfg control.toFanBank false).1

/-- The bank a fan command finds once the fans are taken over. -/
def preparedBank : FanBank :=
  { control.calmedBank cfg with
    ec := (applyDaemonControlFanMode (control.calmedBank cfg).ec cfg).1 }

/-- Fan control after a mode has been applied by hand. -/
def useMode : FanMode → FanControl
  | .auto => ⟨switchedBank cfg control.toFanBank .auto, false, firmwareAutoPreset, false⟩
  | .manual =>
      ⟨applyCurrentControlState cfg (switchedBank cfg control.toFanBank .manual), false,
        "manual".toList, false⟩
  | .turbo =>
      { control with
        toFanBank := switchedBank cfg control.toFanBank .turbo, coolboostEnabled := true }

def coolboostBank (enabled : Bool) : FanBank :=
  if enabled then switchedBank cfg control.toFanBank .turbo
  else if control.firmwareAuto then switchedBank cfg control.toFanBank .auto
  else applyCurrentControlState cfg (switchedBank cfg control.toFanBank .manual)

def resumedBank : FanBank :=
  if control.firmwareAuto then
    switchedBank cfg { control.toFanBank with ec := applyInitWrites control.ec cfg } .auto
  else applyCurrentControlState cfg { control.toFanBank with ec := applyInitWrites control.ec cfg }

/-- What a request makes of fan control; requests for a missing part of the profile change nothing. -/
def perform : Request → FanControl
  | .set fan percent _ =>
      ⟨(setOne cfg (control.preparedBank cfg) fan percent).1, false, "manual".toList, false⟩
  | .preset name _ =>
      match configFindPreset cfg name with
      | none => control
      | some preset =>
          ⟨(applyPreset cfg (control.preparedBank cfg) preset.id).1, false,
            (stringCopy 32 preset.id).1, false⟩
  | .auto =>
      ⟨setFans cfg (fun _ => true) (fun _ i => (cfg.fan i).resetSpeed)
        (fun bank => globalSafetyReason cfg bank.states) (control.preparedBank cfg),
        true, "auto".toList, false⟩
  | .firmwareAuto => if cfg.fanModes.available then control.useMode cfg .auto else control
  | .fanMode mode => if cfg.fanModes.available then control.useMode cfg mode else control
  | .coolboost enabled =>
      if cfg.fanModes.available then
        { control with
          toFanBank := control.coolboostBank cfg enabled, coolboostEnabled := enabled }
      else control
  | .resume => { control with toFanBank := control.resumedBank cfg }
  | _ => control

end FanControl

/-! ## The handlers compute them -/

section Prepare

variable {cfg : AnsConfig} {daemon : Daemon}

theorem disableCoolboost_eq (cfg : AnsConfig) (daemon : Daemon) :
    disableCoolboostIfNeeded cfg daemon =
      { daemon with toFanBank := daemon.fanControl.calmedBank cfg, coolboostEnabled := false } := by
  obtain ⟨bank, host, autoMode, preset, coolboostEnabled⟩ := daemon
  cases coolboostEnabled with
  | false => rfl
  | true => rfl

theorem prepare_eq (cfg : AnsConfig) (daemon : Daemon) :
    fanCommandPrepareDaemonControl cfg daemon =
      ({ daemon with
          toFanBank := daemon.fanControl.preparedBank cfg, coolboostEnabled := false },
        (applyDaemonControlFanMode (daemon.fanControl.calmedBank cfg).ec cfg).2) := by
  simp only [fanCommandPrepareDaemonControl, disableCoolboost_eq]
  rfl

theorem switchedBank_changes (bank : FanBank) (mode : FanMode) :
    FanChanges (FanControlRegister cfg) bank (switchedBank cfg bank mode) :=
  applyFanMode_changes cfg bank mode

theorem calmedBank_changes (control : FanControl) :
    FanChanges (FanControlRegister cfg) control.toFanBank (control.calmedBank cfg) := by
  unfold FanControl.calmedBank
  split
  · exact FanChanges.refl _
  · exact applyCoolboost_changes cfg _ false

theorem preparedBank_changes (control : FanControl) :
    FanChanges (FanControlRegister cfg) control.toFanBank (control.preparedBank cfg) :=
  (calmedBank_changes control).trans (applyDaemonControlFanMode_changes cfg _)

theorem applyDaemonControlFanMode_ok {ec : EcDevice} (reliable : ec.WritesSucceed) :
    (applyDaemonControlFanMode ec cfg).2 = true := by
  cases available : cfg.fanModes.available with
  | false => simp [applyDaemonControlFanMode, available]
  | true =>
      rw [applyDaemonControlFanMode_eq available]
      exact applyFanMode_ok available reliable

/-- With working writes the fans are always taken over. -/
theorem prepare_ok (reliable : daemon.ec.WritesSucceed) :
    (fanCommandPrepareDaemonControl cfg daemon).2 = true := by
  rw [prepare_eq]
  exact applyDaemonControlFanMode_ok
    ((calmedBank_changes daemon.fanControl).writesSucceed reliable)

end Prepare

/-! ## What the fan requests change -/

section Activity

variable {cfg : AnsConfig} {access : EcDevice → EcDevice → Prop}
  {sets : FanBank → Nat → Int → SafetyReason → Prop} {daemon : Daemon}

theorem preparedBank_activity (switches : SwitchesModes cfg access) {control : FanControl}
    (global : SetsByGlobalReason cfg control.states sets) :
    FanActivity cfg access sets control.toFanBank (control.preparedBank cfg) := by
  have calmed : FanActivity cfg access sets control.toFanBank (control.calmedBank cfg) := by
    unfold FanControl.calmedBank
    split
    · exact .start
    · exact applyCoolboost_activity switches global false
  exact calmed.trans (applyDaemonControlFanMode_activity switches _)

theorem setFan_activity (switches : SwitchesModes cfg access)
    (global : SetsByGlobalReason cfg daemon.states sets) (fan : CString) (percent : Int) :
    FanActivity cfg access sets daemon.toFanBank (setFan cfg daemon fan percent).1.toFanBank := by
  have prepared : FanActivity cfg access sets daemon.toFanBank _ :=
    @preparedBank_activity cfg access sets switches daemon.fanControl global
  have observed := (@preparedBank_changes cfg daemon.fanControl).states
  have written := prepared.trans (setOne_activity (global.later observed) fan percent)
  unfold setFan
  dsimp only
  rw [prepare_eq]
  split
  · exact prepared
  · split
    · exact written
    · rw [writeControlState_toFanBank]
      exact written

theorem usePreset_activity (switches : SwitchesModes cfg access)
    (global : SetsByGlobalReason cfg daemon.states sets) (name : CString) :
    FanActivity cfg access sets daemon.toFanBank (usePreset cfg daemon name).1.toFanBank := by
  have prepared : FanActivity cfg access sets daemon.toFanBank _ :=
    @preparedBank_activity cfg access sets switches daemon.fanControl global
  have observed := (@preparedBank_changes cfg daemon.fanControl).states
  unfold usePreset
  split
  · exact .start
  · dsimp only
    rw [prepare_eq]
    split
    · exact prepared
    · rw [writeControlState_toFanBank]
      exact prepared.trans (applyPreset_activity (global.later observed) _)

theorem startAuto_activity (switches : SwitchesModes cfg access)
    (global : SetsByGlobalReason cfg daemon.states sets) :
    FanActivity cfg access sets daemon.toFanBank (startAuto cfg daemon).1.toFanBank := by
  have prepared : FanActivity cfg access sets daemon.toFanBank _ :=
    @preparedBank_activity cfg access sets switches daemon.fanControl global
  have observed := (@preparedBank_changes cfg daemon.fanControl).states
  unfold startAuto
  dsimp only
  rw [prepare_eq]
  split
  · exact prepared
  · rw [writeControlState_toFanBank]
    exact prepared.trans (setFans_activity fun bank i same => global.later observed _ _ _ _ same)

theorem startFirmwareAuto_activity (switches : SwitchesModes cfg access) :
    FanActivity cfg access sets daemon.toFanBank
      (startFirmwareAuto cfg daemon).1.toFanBank := by
  have switched : FanActivity cfg access sets daemon.toFanBank _ :=
    applyFirmwareAutoFanMode_activity switches daemon.toFanBank
  unfold startFirmwareAuto
  dsimp only
  split
  · exact .start
  · split
    · exact switched
    · rw [writeControlState_toFanBank]
      exact switched

theorem useFanMode_activity (switches : SwitchesModes cfg access)
    (global : SetsByGlobalReason cfg daemon.states sets) (mode : FanMode) :
    FanActivity cfg access sets daemon.toFanBank (useFanMode cfg daemon mode).1.toFanBank := by
  have switched : FanActivity cfg access sets daemon.toFanBank _ :=
    applyFanMode_activity switches daemon.toFanBank mode
  unfold useFanMode
  dsimp only
  split
  · exact .start
  · split
    · exact switched
    · rw [writeControlState_toFanBank]
      cases mode with
      | auto => exact switched
      | manual => exact switched.trans (applyCurrentControlState_activity global)
      | turbo => exact switched

theorem switchCoolboost_activity (switches : SwitchesModes cfg access)
    (global : SetsByGlobalReason cfg daemon.states sets) (enabled : Bool) :
    FanActivity cfg access sets daemon.toFanBank (switchCoolboost cfg daemon enabled).1 := by
  unfold switchCoolboost
  split
  · exact applyCoolboost_activity switches global true
  · split
    · exact applyFirmwareAutoFanMode_activity switches daemon.toFanBank
    · exact applyCoolboost_activity switches global false

theorem setCoolboost_activity (switches : SwitchesModes cfg access)
    (global : SetsByGlobalReason cfg daemon.states sets) (enabled : Bool) :
    FanActivity cfg access sets daemon.toFanBank
      (setCoolboost cfg daemon enabled).1.toFanBank := by
  have switched := switchCoolboost_activity switches global enabled
  unfold setCoolboost
  dsimp only
  split
  · exact .start
  · split
    · exact switched
    · rw [writeControlState_toFanBank]
      exact switched

theorem resume_activity (switches : SwitchesModes cfg access)
    (inits : ∀ ec, access ec (applyInitWrites ec cfg))
    (global : SetsByGlobalReason cfg daemon.states sets) :
    FanActivity cfg access sets daemon.toFanBank (resume cfg daemon).1.toFanBank := by
  let initial : FanBank := { daemon.toFanBank with ec := applyInitWrites daemon.ec cfg }
  have init : FanActivity cfg access sets daemon.toFanBank initial :=
    FanActivity.start.access (inits daemon.ec)
  unfold resume
  dsimp only
  split
  · exact init.trans (applyFirmwareAutoFanMode_activity switches initial)
  · exact init.trans (applyCurrentControlState_activity global)

/-- Whether or not its writes succeed, a fan request is an activity of fan control. -/
theorem perform_activity (switches : SwitchesModes cfg access)
    (inits : ∀ ec, access ec (applyInitWrites ec cfg))
    (global : SetsByGlobalReason cfg daemon.states sets) {request : Request}
    (fans : request.isAside = false) :
    FanActivity cfg access sets daemon.toFanBank (request.perform cfg daemon).1.toFanBank := by
  cases request with
  | profile | powerSourceApply | powerSourceAuto | gpuTemp | keyboardSet | keyboardTimeout | stop =>
      cases fans
  | set fan percent accepted => exact setFan_activity switches global fan percent
  | preset name accepted => exact usePreset_activity switches global name
  | auto => exact startAuto_activity switches global
  | firmwareAuto => exact startFirmwareAuto_activity switches
  | fanMode mode => exact useFanMode_activity switches global mode
  | coolboost enabled => exact setCoolboost_activity switches global enabled
  | resume => exact resume_activity switches inits global

/-- The EC accesses of a fan request beside its speeds. -/
inductive RequestAccess (cfg : AnsConfig) (before : EcDevice) : EcDevice → Prop where
  | fanMode (mode : FanMode) : RequestAccess cfg before (applyFanMode before cfg mode).1
  | initWrites : RequestAccess cfg before (applyInitWrites before cfg)

def FanRequestRegister (cfg : AnsConfig) (reg : Int) : Prop :=
  FanControlRegister cfg reg ∨ InitRegister cfg reg

theorem RequestAccess.writesWithin {before after : EcDevice}
    (access : RequestAccess cfg before after) :
    WritesWithin (FanRequestRegister cfg) before after := by
  cases access with
  | fanMode mode =>
      exact applyFanMode_writesWithin fun available reg mode => Or.inl (Or.inr ⟨available, mode⟩)
  | initWrites => exact (applyInitWrites_writesWithin before cfg).mono fun _ => Or.inr

/-- A fan request observes nothing and writes few registers. -/
theorem perform_changes {request : Request} (fans : request.isAside = false) :
    FanChanges (FanRequestRegister cfg) daemon.toFanBank
      (request.perform cfg daemon).1.toFanBank := by
  have activity : FanActivity cfg (RequestAccess cfg) (fun _ _ _ _ => True) daemon.toFanBank
      (request.perform cfg daemon).1.toFanBank :=
    perform_activity (fun _ mode => .fanMode mode) (fun _ => .initWrites)
      (fun _ _ _ _ _ => trivial) fans
  exact activity.changes (fun _ _ access => access.writesWithin)
    fun reg write => Or.inl (Or.inl write)

end Activity

/-! ## With working EC writes -/

section Requests

variable {cfg : AnsConfig} {daemon : Daemon}

theorem setFan_fanControl (reliable : daemon.ec.WritesSucceed) (fan : CString) (percent : Int) :
    (setFan cfg daemon fan percent).1.fanControl =
      ⟨(setOne cfg (daemon.fanControl.preparedBank cfg) fan percent).1, false, "manual".toList,
        false⟩ := by
  unfold setFan
  dsimp only
  rw [if_neg (by simp [prepare_ok reliable]), prepare_eq]
  split
  · rfl
  · rw [writeControlState_fanControl]
    rfl

theorem usePreset_fanControl (reliable : daemon.ec.WritesSucceed) {name : CString}
    {preset : PresetConfig} (found : configFindPreset cfg name = some preset) :
    (usePreset cfg daemon name).1.fanControl =
      ⟨(applyPreset cfg (daemon.fanControl.preparedBank cfg) preset.id).1, false,
        (stringCopy 32 preset.id).1, false⟩ := by
  simp only [usePreset, found]
  rw [if_neg (by simp [prepare_ok reliable]), prepare_eq, writeControlState_fanControl]
  rfl

theorem startAuto_fanControl (reliable : daemon.ec.WritesSucceed) :
    (startAuto cfg daemon).1.fanControl =
      ⟨setFans cfg (fun _ => true) (fun _ i => (cfg.fan i).resetSpeed)
        (fun bank => globalSafetyReason cfg bank.states) (daemon.fanControl.preparedBank cfg),
        true, "auto".toList, false⟩ := by
  unfold startAuto
  dsimp only
  rw [if_neg (by simp [prepare_ok reliable]), prepare_eq, writeControlState_fanControl]
  rfl

theorem startFirmwareAuto_fanControl (available : cfg.fanModes.available = true)
    (reliable : daemon.ec.WritesSucceed) :
    (startFirmwareAuto cfg daemon).1.fanControl = daemon.fanControl.useMode cfg .auto := by
  unfold startFirmwareAuto
  dsimp only
  rw [applyFirmwareAutoFanMode_eq, if_neg (by simp [available]),
    if_neg (by simp [applyFanMode_ok available reliable]), writeControlState_fanControl]
  rfl

theorem useFanMode_fanControl (available : cfg.fanModes.available = true)
    (reliable : daemon.ec.WritesSucceed) (mode : FanMode) :
    (useFanMode cfg daemon mode).1.fanControl = daemon.fanControl.useMode cfg mode := by
  unfold useFanMode
  dsimp only
  rw [if_neg (by simp [available]), if_neg (by simp [applyFanMode_ok available reliable]),
    writeControlState_fanControl]
  cases mode with
  | auto => rfl
  | manual => rfl
  | turbo => rfl

theorem applyCoolboost_disable {bank : FanBank} (available : cfg.fanModes.available = true)
    (reliable : bank.ec.WritesSucceed) :
    applyCoolboost cfg bank false =
      (applyCurrentControlState cfg (switchedBank cfg bank .manual), true) := by
  unfold applyCoolboost
  dsimp only
  rw [if_neg (by simp [available]), if_neg Bool.false_ne_true,
    if_neg (by simp [applyFanMode_ok available reliable])]
  rfl

theorem switchCoolboost_eq (available : cfg.fanModes.available = true)
    (reliable : daemon.ec.WritesSucceed) (enabled : Bool) :
    switchCoolboost cfg daemon enabled = (daemon.fanControl.coolboostBank cfg enabled, true) := by
  have works := fun mode => @applyFanMode_ok daemon.ec cfg mode available reliable
  unfold switchCoolboost FanControl.coolboostBank
  cases enabled with
  | true =>
      rw [if_pos rfl, if_pos rfl, applyCoolboost, if_neg (by simp [available]), if_pos rfl]
      exact Prod.ext rfl (works .turbo)
  | false =>
      rw [if_neg Bool.false_ne_true, if_neg Bool.false_ne_true]
      cases firmware : firmwareAutoMode daemon.autoMode daemon.preset with
      | true =>
          have control : daemon.fanControl.firmwareAuto = true := firmware
          rw [if_pos rfl, if_pos control, applyFirmwareAutoFanMode_eq]
          exact Prod.ext rfl (works .auto)
      | false =>
          have control : ¬ daemon.fanControl.firmwareAuto = true := by
            simp [FanControl.firmwareAuto, Daemon.fanControl, firmware]
          rw [if_neg Bool.false_ne_true, if_neg control]
          exact applyCoolboost_disable available reliable

theorem setCoolboost_fanControl (available : cfg.fanModes.available = true)
    (reliable : daemon.ec.WritesSucceed) (enabled : Bool) :
    (setCoolboost cfg daemon enabled).1.fanControl =
      { daemon.fanControl with
        toFanBank := daemon.fanControl.coolboostBank cfg enabled
        coolboostEnabled := enabled } := by
  unfold setCoolboost
  dsimp only
  rw [if_neg (by simp [available]), switchCoolboost_eq available reliable, if_neg (by simp),
    writeControlState_fanControl]
  rfl

theorem resume_fanControl (cfg : AnsConfig) (daemon : Daemon) :
    (resume cfg daemon).1.fanControl =
      { daemon.fanControl with toFanBank := daemon.fanControl.resumedBank cfg } := by
  unfold resume FanControl.resumedBank
  dsimp only
  split
  · rename_i firmware
    have control : daemon.fanControl.firmwareAuto = true := firmware
    rw [if_pos control, applyFirmwareAutoFanMode_eq]
    rfl
  · rename_i owned
    have control : ¬ daemon.fanControl.firmwareAuto = true := owned
    rw [if_neg control]
    rfl

/-- With working EC writes the handlers of the fan requests compute `FanControl.perform`. -/
theorem perform_fanControl (reliable : daemon.ec.WritesSucceed) {request : Request}
    (fans : request.isAside = false) :
    (request.perform cfg daemon).1.fanControl = daemon.fanControl.perform cfg request := by
  cases request with
  | profile | powerSourceApply | powerSourceAuto | gpuTemp | keyboardSet | keyboardTimeout | stop =>
      cases fans
  | set fan percent accepted => exact setFan_fanControl reliable fan percent
  | preset name accepted =>
      unfold Request.perform FanControl.perform
      dsimp only
      cases found : configFindPreset cfg name with
      | none => simp only [usePreset, found]
      | some preset => exact usePreset_fanControl reliable found
  | auto => exact startAuto_fanControl reliable
  | resume => exact resume_fanControl cfg daemon
  | firmwareAuto =>
      unfold Request.perform FanControl.perform
      dsimp only
      cases available : cfg.fanModes.available with
      | false => simp [startFirmwareAuto, available]
      | true => exact startFirmwareAuto_fanControl available reliable
  | fanMode mode =>
      unfold Request.perform FanControl.perform
      dsimp only
      cases available : cfg.fanModes.available with
      | false => simp [useFanMode, available]
      | true => exact useFanMode_fanControl available reliable mode
  | coolboost enabled =>
      unfold Request.perform FanControl.perform
      dsimp only
      cases available : cfg.fanModes.available with
      | false => simp [setCoolboost, available]
      | true => exact setCoolboost_fanControl available reliable enabled

end Requests

end NitroSense
