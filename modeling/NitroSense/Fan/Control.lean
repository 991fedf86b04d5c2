import NitroSense.Fan.Observation
import NitroSense.Fan.Safety
import NitroSense.Platform.FanMode

/-!
# Fan control

`fan/control.c`.  A poll observes the fans, derives one target per fan and
writes what changed.  In firmware-auto it only writes while a fan has a safety
reason: it switches both fans to manual mode for that, and hands them back when
no fan has a reason any more.
-/

namespace NitroSense

open Lib EcDevice

def curveSpeed (fan : FanConfig) (tempC currentPercent : Int) : Int :=
  let first := match fan.curve with
    | [] => 50
    | threshold :: _ => threshold.speed
  let selected := fan.curve.foldl
    (fun selected threshold => if tempC ≥ threshold.up then threshold.speed else selected) first
  if fan.curve.any fun threshold => threshold.speed = currentPercent && tempC ≥ threshold.down then
    if currentPercent > selected then currentPercent else selected
  else selected

def anySafetyActive (cfg : AnsConfig) (states : FanStates) : Bool :=
  (List.range cfg.fanLen).any fun i => (states i).safetyActive

theorem anySafetyActive_iff {cfg : AnsConfig} {states : FanStates} :
    anySafetyActive cfg states = true ↔ ∃ i < cfg.fanLen, (states i).safetyActive = true := by
  simp [anySafetyActive]

def shouldRestoreFirmwareAutoMode (firmwareAuto safetyWasActive safetyIsActive : Bool) : Bool :=
  firmwareAuto && safetyWasActive && !safetyIsActive

/-- The target of one fan before safety: the held percent, or the curve in auto mode. -/
def pollPercent (cfg : AnsConfig) (fan : FanConfig) (state : FanState) (autoMode : Bool)
    (forcedReason : SafetyReason) : Int :=
  let percent := state.statusRequestedPercent
  if autoMode then
    if state.controlTempC > 0 then
      autoRampedPercent cfg state (curveSpeed fan state.controlTempC percent) forcedReason
    else if percent < fan.resetSpeed then fan.resetSpeed
    else percent
  else percent

/-- What `update_fan_states` threads through its loop over the fans. -/
structure Poll where
  bank : FanBank
  overrideReady : Bool
  safetyIsActive : Bool

section Round

variable (cfg : AnsConfig) (autoMode : Bool) (preset : CString) (forcedReason : SafetyReason)

/-- The safety decision of one observed fan. -/
def pollDecision (i : Nat) (state : FanState) : Int × SafetyReason :=
  fanSafetyAdjustPercent cfg (cfg.fan i) state
    (pollPercent cfg (cfg.fan i) state autoMode forcedReason) forcedReason

/-- A fan with a safety reason in firmware-auto: take over both fans, then write this one. -/
def overrideFan (i : Nat) (poll : Poll) : Poll :=
  let percent := pollPercent cfg (cfg.fan i) (poll.bank.states i) autoMode forcedReason
  let ready :=
    if poll.overrideReady then (poll.bank.ec, true) else applyDaemonControlFanMode poll.bank.ec cfg
  { bank := (setFanPercent cfg ⟨ready.1, poll.bank.states⟩ i percent forcedReason).1
    overrideReady := ready.2
    safetyIsActive := true }

/-- A fan without a safety reason in firmware-auto: keep its target for later, write nothing. -/
def firmwareFan (i : Nat) (poll : Poll) : Poll :=
  let state := poll.bank.states i
  let percent := pollPercent cfg (cfg.fan i) state autoMode forcedReason
  let requestedPercent := clampInt percent 1 100
  { poll with
    bank :=
      { poll.bank with
        states := Function.update poll.bank.states i
          (fanUpdateSafetyState
            { state with
              percent := requestedPercent
              writeValue := requestedPercent
              requestedPercent := requestedPercent }
            .none) } }

/-- A fan in a mode the daemon owns: write when the effective or the requested percent changed. -/
def daemonFan (i : Nat) (poll : Poll) : Poll :=
  let state := poll.bank.states i
  let percent := pollPercent cfg (cfg.fan i) state autoMode forcedReason
  let decision := pollDecision cfg autoMode forcedReason i state
  if decision.1 ≠ state.percent ∨ percent ≠ state.requestedPercent then
    { poll with bank := (setFanPercent cfg poll.bank i percent forcedReason).1 }
  else
    { poll with
      bank :=
        { poll.bank with
          states := Function.update poll.bank.states i (fanUpdateSafetyState state decision.2) } }

/-- The loop body of `update_fan_states`. -/
def updateFan (i : Nat) (poll : Poll) : Poll :=
  if firmwareAutoMode autoMode preset then
    if (pollDecision cfg autoMode forcedReason i (poll.bank.states i)).2.hasValue then
      overrideFan cfg autoMode forcedReason i poll
    else firmwareFan cfg autoMode forcedReason i poll
  else daemonFan cfg autoMode forcedReason i poll

end Round

def updateFans (cfg : AnsConfig) (autoMode : Bool) (preset : CString) (observed : Observation) :
    Poll :=
  loop cfg.fanLen (updateFan cfg autoMode preset observed.forcedReason)
    ⟨⟨observed.ec, observed.states⟩, false, false⟩

def restoreFirmwareAutoModeIfNeeded (ec : EcDevice) (cfg : AnsConfig)
    (firmwareAuto safetyWasActive safetyIsActive : Bool) : EcDevice :=
  if shouldRestoreFirmwareAutoMode firmwareAuto safetyWasActive safetyIsActive then
    (applyFirmwareAutoFanMode ec cfg).1
  else ec

def updateFanStates (bank : FanBank) (sensors : Sensors) (cfg : AnsConfig) (autoMode : Bool)
    (preset : CString) : FanBank :=
  let firmwareAuto := firmwareAutoMode autoMode preset
  let observed := refreshFanObservations bank.ec sensors cfg bank.states
  let safetyWasActive := firmwareAuto && anySafetyActive cfg observed.states
  let poll := updateFans cfg autoMode preset observed
  { poll.bank with
    ec := restoreFirmwareAutoModeIfNeeded poll.bank.ec cfg firmwareAuto safetyWasActive
      poll.safetyIsActive }

def SelectsFan (cfg : AnsConfig) (id : CString) (i : Nat) : Prop :=
  id = "all".toList ∨ (cfg.fan i).id = id

instance (cfg : AnsConfig) (id : CString) (i : Nat) : Decidable (SelectsFan cfg id i) :=
  inferInstanceAs (Decidable (_ ∨ _))

/-- The selection loop of `set_one`, with the count of successful writes. -/
def setOne (cfg : AnsConfig) (bank : FanBank) (id : CString) (percent : Int) : FanBank × Nat :=
  let forcedReason := globalSafetyReason cfg bank.states
  loop cfg.fanLen
    (fun i acc =>
      if id = "all".toList ∨ (cfg.fan i).id = id then
        let result := setFanPercent cfg acc.1 i percent forcedReason
        (result.1, if result.2 ≥ 0 then acc.2 + 1 else acc.2)
      else acc)
    (bank, 0)

/-- `apply_preset`: the bank and whether the preset exists. -/
def applyPreset (cfg : AnsConfig) (bank : FanBank) (id : CString) : FanBank × Bool :=
  match configFindPreset cfg id with
  | none => (bank, false)
  | some preset =>
      let cpu := (setOne cfg bank "cpu".toList preset.cpu).1
      ((setOne cfg cpu "gpu".toList preset.gpu).1, true)

def applyCurrentControlState (cfg : AnsConfig) (bank : FanBank) : FanBank :=
  setFans cfg (fun _ => true) (fun bank i => (bank.states i).statusRequestedPercent)
    (fun _ => globalSafetyReason cfg bank.states) bank

def applyCoolboost (cfg : AnsConfig) (bank : FanBank) (enabled : Bool) : FanBank × Bool :=
  if cfg.fanModes.available = false then (bank, false)
  else if enabled then
    let turbo := applyFanMode bank.ec cfg .turbo
    ({ bank with ec := turbo.1 }, turbo.2)
  else
    let manual := applyFanMode bank.ec cfg .manual
    if manual.2 = false then ({ bank with ec := manual.1 }, false)
    else (applyCurrentControlState cfg { bank with ec := manual.1 }, true)

/-! ## What fan control touches -/

def FanWriteRegister (cfg : AnsConfig) (reg : Int) : Prop :=
  ∃ i < cfg.fanLen, reg = (cfg.fan i).writeRegister

def FanControlRegister (cfg : AnsConfig) (reg : Int) : Prop :=
  FanWriteRegister cfg reg ∨ (cfg.fanModes.available = true ∧ FanModeRegister cfg reg)

section Touches

variable {cfg : AnsConfig} {bank : FanBank}

/-- `set_one` is a loop over the fans it selects, all with the reason found at its start. -/
theorem setOne_bank (id : CString) (percent : Int) :
    (setOne cfg bank id percent).1 =
      setFans cfg (fun i => decide (SelectsFan cfg id i)) (fun _ _ => percent)
        (fun _ => globalSafetyReason cfg bank.states) bank := by
  refine loop_map Prod.fst fun i acc => ?_
  by_cases selects : SelectsFan cfg id i
  · have here : id = "all".toList ∨ (cfg.fan i).id = id := selects
    rw [if_pos here, if_pos (decide_eq_true selects)]
  · have other : ¬ (id = "all".toList ∨ (cfg.fan i).id = id) := selects
    rw [if_neg other, if_neg (by simpa using selects)]

theorem setFans_fanChanges {selected : Nat → Bool} {percent : FanBank → Nat → Int}
    {forced : FanBank → SafetyReason} :
    FanChanges (FanWriteRegister cfg) bank (setFans cfg selected percent forced bank) :=
  setFans_changes fun i below _ => ⟨i, below, rfl⟩

theorem setOne_changes (id : CString) (percent : Int) :
    FanChanges (FanWriteRegister cfg) bank (setOne cfg bank id percent).1 := by
  rw [setOne_bank]
  exact setFans_fanChanges

theorem applyPreset_changes (id : CString) :
    FanChanges (FanWriteRegister cfg) bank (applyPreset cfg bank id).1 := by
  unfold applyPreset
  split
  · exact FanChanges.refl _
  · exact (setOne_changes _ _).trans (setOne_changes _ _)

theorem FanControlRegister.of_write (reg : Int) (write : FanWriteRegister cfg reg) :
    FanControlRegister cfg reg := Or.inl write

theorem FanControlRegister.of_mode (available : cfg.fanModes.available = true) (reg : Int)
    (mode : FanModeRegister cfg reg) : FanControlRegister cfg reg := Or.inr ⟨available, mode⟩

theorem applyCurrentControlState_changes (cfg : AnsConfig) (bank : FanBank) :
    FanChanges (FanControlRegister cfg) bank (applyCurrentControlState cfg bank) :=
  setFans_fanChanges.mono FanControlRegister.of_write

theorem applyFanMode_changes (cfg : AnsConfig) (bank : FanBank) (mode : FanMode) :
    FanChanges (FanControlRegister cfg) bank
      { bank with ec := (applyFanMode bank.ec cfg mode).1 } :=
  ⟨SameObservations.refl _,
    applyFanMode_writesWithin fun available => FanControlRegister.of_mode available⟩

theorem applyDaemonControlFanMode_changes (cfg : AnsConfig) (bank : FanBank) :
    FanChanges (FanControlRegister cfg) bank
      { bank with ec := (applyDaemonControlFanMode bank.ec cfg).1 } :=
  ⟨SameObservations.refl _,
    applyDaemonControlFanMode_writesWithin fun available => FanControlRegister.of_mode available⟩

theorem applyFirmwareAutoFanMode_changes (cfg : AnsConfig) (bank : FanBank) :
    FanChanges (FanControlRegister cfg) bank
      { bank with ec := (applyFirmwareAutoFanMode bank.ec cfg).1 } := by
  rw [applyFirmwareAutoFanMode_eq]
  exact applyFanMode_changes cfg bank .auto

theorem applyCoolboost_changes (cfg : AnsConfig) (bank : FanBank) (enabled : Bool) :
    FanChanges (FanControlRegister cfg) bank (applyCoolboost cfg bank enabled).1 := by
  unfold applyCoolboost
  split
  · exact FanChanges.refl _
  · split
    · exact applyFanMode_changes cfg bank .turbo
    · dsimp only
      split
      · exact applyFanMode_changes cfg bank .manual
      · exact (applyFanMode_changes cfg bank .manual).trans (applyCurrentControlState_changes cfg _)

end Touches

end NitroSense
