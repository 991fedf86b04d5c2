import NitroSense.Daemon.Loop

/-!
# The fan-mode registers over a run

The two fan-mode registers should hold the values of the mode the daemon
reports: turbo while CoolBoost is on, else automatic in firmware-auto, else
manual.  Only a safety override in firmware-auto may hold them at manual.
CoolBoost in firmware-auto is the combination that `resume` and the end of an
override forget.
-/

namespace NitroSense

open Lib EcDevice

/-- The fan mode that belongs to the reported control mode. -/
def FanControl.reportedMode (control : FanControl) : FanMode :=
  if control.coolboostEnabled then .turbo else if control.firmwareAuto then .auto else .manual

/-- The mode registers hold the values of the reported mode. -/
def ModesAgree (cfg : AnsConfig) (control : FanControl) : Prop :=
  FanModesAt control.ec cfg control.reportedMode

/-- Without a fan under safety control the mode registers agree with the reported mode. -/
def ModesReported (cfg : AnsConfig) (control : FanControl) : Prop :=
  anySafetyActive cfg control.states = false → ModesAgree cfg control

instance (ec : EcDevice) (cfg : AnsConfig) (mode : FanMode) : Decidable (FanModesAt ec cfg mode) :=
  inferInstanceAs (Decidable (_ ∧ _))

instance (cfg : AnsConfig) (control : FanControl) : Decidable (ModesAgree cfg control) :=
  inferInstanceAs (Decidable (FanModesAt _ _ _))

/-- The profile has fan modes, and no other configured register is one of theirs. -/
structure ModeRegistersApart (cfg : AnsConfig) : Prop where
  available : cfg.fanModes.available = true
  distinct : cfg.fanModes.cpuReg ≠ cfg.fanModes.gpuReg
  others : ∀ reg ∈ cfg.otherRegisters, ¬ FanModeRegister cfg reg

namespace ModeRegistersApart

variable {cfg : AnsConfig} {reg : Int}

theorem speed (apart : ModeRegistersApart cfg) (isMode : FanModeRegister cfg reg) :
    ¬ FanWriteRegister cfg reg := by
  rintro ⟨i, below, rfl⟩
  exact apart.others _ (List.mem_append_left _ (AnsConfig.writeRegister_mem below)) isMode

theorem side (apart : ModeRegistersApart cfg) (isMode : FanModeRegister cfg reg) :
    ¬ SideRegister cfg reg := fun side =>
  apart.others _ (List.mem_append_right _ (List.mem_append_left _ side.mem_sideRegisters)) isMode

theorem init (apart : ModeRegistersApart cfg) (isMode : FanModeRegister cfg reg) :
    ¬ InitRegister cfg reg := by
  rintro ⟨write, member, rfl⟩
  have configured : write.reg ∈ cfg.initWrites.map EcWriteConfig.reg := List.mem_map_of_mem member
  exact apart.others _ (List.mem_append_right _ (List.mem_append_right _
    (List.mem_append_right _ configured))) isMode

end ModeRegistersApart

/-! ## What requests do to the modes -/

section Modes

variable {cfg : AnsConfig} {mode : FanMode}

theorem FanModesAt.of_writesWithin {before after : EcDevice} {allowed : Int → Prop}
    (modes : FanModesAt before cfg mode) (within : WritesWithin allowed before after)
    (outside : ∀ reg, FanModeRegister cfg reg → ¬ allowed reg) : FanModesAt after cfg mode :=
  ⟨(within.byte _ (outside _ (Or.inl rfl))).trans modes.1,
    (within.byte _ (outside _ (Or.inr rfl))).trans modes.2⟩

theorem FanModesAt.of_fanWrites {before after : EcDevice} (apart : ModeRegistersApart cfg)
    (modes : FanModesAt before cfg mode)
    (within : WritesWithin (FanWriteRegister cfg) before after) : FanModesAt after cfg mode :=
  modes.of_writesWithin within fun _ => apart.speed

theorem applyFanMode_modes {ec : EcDevice} (valid : cfg.fanModes.Valid)
    (apart : ModeRegistersApart cfg) (reliable : ec.WritesSucceed) (mode : FanMode) :
    FanModesAt (applyFanMode ec cfg mode).1 cfg mode :=
  applyFanMode_success valid (fun same => absurd same apart.distinct)
    (applyFanMode_ok apart.available reliable)

theorem switchedBank_modes {bank : FanBank} (valid : cfg.fanModes.Valid)
    (apart : ModeRegistersApart cfg) (reliable : bank.ec.WritesSucceed) (mode : FanMode) :
    FanModesAt (switchedBank cfg bank mode).ec cfg mode :=
  applyFanMode_modes valid apart reliable mode

theorem applyCurrentControlState_modes {bank : FanBank} (apart : ModeRegistersApart cfg)
    (modes : FanModesAt bank.ec cfg mode) :
    FanModesAt (applyCurrentControlState cfg bank).ec cfg mode :=
  modes.of_fanWrites apart setFans_fanChanges.ec

theorem preparedBank_modes {control : FanControl} (valid : cfg.fanModes.Valid)
    (apart : ModeRegistersApart cfg) (reliable : control.ec.WritesSucceed) :
    FanModesAt (control.preparedBank cfg).ec cfg .manual := by
  have calmed := (@calmedBank_changes cfg control).writesSucceed reliable
  rw [FanControl.preparedBank, applyDaemonControlFanMode_eq apart.available]
  exact applyFanMode_modes valid apart calmed .manual

end Modes

/-- An agreement that an override in firmware-auto may suspend. -/
def ModesKept (cfg : AnsConfig) (control : FanControl) : Prop :=
  ModesAgree cfg control ∨
    (control.firmwareAuto = true ∧ anySafetyActive cfg control.states = true)

/--
The request is not for a preset that is called firmware-auto, and `resume` does
not find CoolBoost on in firmware-auto outside an override.
-/
def RequestKeepsModes (cfg : AnsConfig) (control : FanControl) : Option Request → Prop
  | some (.preset name _) => name = firmwareAutoPreset → configFindPreset cfg name = none
  | some .resume =>
      control.firmwareAuto = true → control.coolboostEnabled = true →
        anySafetyActive cfg control.states = true
  | _ => True

section Requests

variable {cfg : AnsConfig} {control : FanControl}

theorem ModesKept.reported (kept : ModesKept cfg control) : ModesReported cfg control := by
  intro calm
  refine kept.resolve_right fun both => ?_
  rw [calm] at both
  exact Bool.false_ne_true both.2

theorem useMode_modes (valid : cfg.fanModes.Valid) (apart : ModeRegistersApart cfg)
    (reliable : control.ec.WritesSucceed) (mode : FanMode) :
    ModesAgree cfg (control.useMode cfg mode) := by
  have switched := fun mode => @switchedBank_modes cfg control.toFanBank valid apart reliable mode
  cases mode with
  | auto => exact switched .auto
  | manual => exact applyCurrentControlState_modes apart (switched .manual)
  | turbo => exact switched .turbo

theorem coolboostBank_modes (valid : cfg.fanModes.Valid) (apart : ModeRegistersApart cfg)
    (reliable : control.ec.WritesSucceed) (enabled : Bool) :
    ModesAgree cfg
      { control with
        toFanBank := control.coolboostBank cfg enabled, coolboostEnabled := enabled } := by
  have switched := fun mode => @switchedBank_modes cfg control.toFanBank valid apart reliable mode
  unfold ModesAgree FanControl.reportedMode FanControl.coolboostBank
  cases enabled with
  | true => exact switched .turbo
  | false =>
      cases firmware : control.firmwareAuto with
      | true =>
          have mode : firmwareAutoMode control.autoMode control.preset = true := firmware
          simp only [FanControl.firmwareAuto, mode, if_true, Bool.false_eq_true, if_false]
          exact switched .auto
      | false =>
          have mode : firmwareAutoMode control.autoMode control.preset = false := firmware
          simp only [FanControl.firmwareAuto, mode, Bool.false_eq_true, if_false]
          exact applyCurrentControlState_modes apart (switched .manual)

/-- `resume` keeps the modes, unless it switches CoolBoost's turbo back to automatic. -/
theorem resumedBank_modes (valid : cfg.fanModes.Valid) (apart : ModeRegistersApart cfg)
    (reliable : control.ec.WritesSucceed)
    (keeps : RequestKeepsModes cfg control (some .resume)) (kept : ModesKept cfg control) :
    ModesKept cfg { control with toFanBank := control.resumedBank cfg } := by
  have init := applyInitWrites_writesWithin control.ec cfg
  unfold FanControl.resumedBank
  cases firmware : control.firmwareAuto with
  | true =>
      have auto := @switchedBank_modes cfg
        { control.toFanBank with ec := applyInitWrites control.ec cfg } valid apart
        (init.writesSucceed reliable) .auto
      rw [if_pos rfl]
      cases coolboost : control.coolboostEnabled with
      | true => exact Or.inr ⟨firmware, keeps firmware coolboost⟩
      | false =>
          have mode : firmwareAutoMode control.autoMode control.preset = true := firmware
          refine Or.inl ?_
          simp only [ModesAgree, FanControl.reportedMode, FanControl.firmwareAuto, mode, if_true,
            Bool.false_eq_true, if_false]
          exact auto
  | false =>
      have agree : ModesAgree cfg control := kept.resolve_right fun both => by simp [firmware] at both
      have initial : FanModesAt (applyInitWrites control.ec cfg) cfg control.reportedMode :=
        agree.of_writesWithin init fun _ => apart.init
      rw [if_neg Bool.false_ne_true]
      exact Or.inl (applyCurrentControlState_modes apart initial)

theorem perform_modesKept (valid : cfg.fanModes.Valid) (apart : ModeRegistersApart cfg)
    (reliable : control.ec.WritesSucceed) {request : Request}
    (keeps : RequestKeepsModes cfg control (some request)) (kept : ModesKept cfg control) :
    ModesKept cfg (control.perform cfg request) := by
  have prepared := @preparedBank_modes cfg control valid apart reliable
  cases request with
  | profile | powerSourceApply | powerSourceAuto | gpuTemp | keyboardSet | keyboardTimeout | stop =>
      exact kept
  | set fan percent accepted =>
      refine Or.inl ?_
      change FanModesAt (setOne cfg (control.preparedBank cfg) fan percent).1.ec cfg .manual
      rw [setOne_bank]
      exact prepared.of_fanWrites apart setFans_fanChanges.ec
  | preset name accepted =>
      unfold FanControl.perform
      dsimp only
      cases found : configFindPreset cfg name with
      | none => exact kept
      | some preset =>
          have same : preset.id = name := (configFindPreset_id found).2
          have other : name ≠ firmwareAutoPreset := fun firmware => by
            have unknown := keeps firmware
            rw [found] at unknown
            cases unknown
          have manual : firmwareAutoMode false name = false := by
            simp [firmwareAutoMode, other]
          dsimp only
          rw [same, stringCopy_of_lt accepted]
          refine Or.inl ?_
          simp only [ModesAgree, FanControl.reportedMode, FanControl.firmwareAuto, manual,
            Bool.false_eq_true, if_false]
          exact prepared.of_fanWrites apart (applyPreset_changes name).ec
  | auto => exact Or.inl (prepared.of_fanWrites apart setFans_fanChanges.ec)
  | resume => exact resumedBank_modes valid apart reliable keeps kept
  | firmwareAuto =>
      unfold FanControl.perform
      dsimp only
      rw [if_pos apart.available]
      exact Or.inl (useMode_modes valid apart reliable .auto)
  | fanMode mode =>
      unfold FanControl.perform
      dsimp only
      rw [if_pos apart.available]
      exact Or.inl (useMode_modes valid apart reliable mode)
  | coolboost enabled =>
      unfold FanControl.perform
      dsimp only
      rw [if_pos apart.available]
      exact Or.inl (coolboostBank_modes valid apart reliable enabled)

end Requests

/-! ## Polls -/

/-- What `update_fan_states` observes. -/
def Daemon.observed (cfg : AnsConfig) (daemon : Daemon) : Observation :=
  refreshFanObservations daemon.ec daemon.host.sensors cfg daemon.states

/-- A poll in firmware-auto does not end an override while CoolBoost is on. -/
def PollKeepsModes (cfg : AnsConfig) (daemon : Daemon) : Prop :=
  daemon.fanControl.firmwareAuto = true → daemon.coolboostEnabled = true →
    anySafetyActive cfg daemon.states = true →
      SomeReason cfg daemon.autoMode (daemon.observed cfg)

section Polls

variable {cfg : AnsConfig} {daemon : Daemon}

/-- A poll in firmware-auto that finds a reason leaves some fan under safety control. -/
theorem updateFans_anySafetyActive (firmware : daemon.fanControl.firmwareAuto = true)
    (reason : SomeReason cfg daemon.autoMode (daemon.observed cfg)) :
    anySafetyActive cfg (daemon.updateFans cfg).states = true := by
  obtain ⟨i, below, found⟩ := reason
  have active : ((daemon.updateFans cfg).states i).safetyActive =
      (pollReason cfg daemon.autoMode (daemon.observed cfg) i).hasValue :=
    updateFans_safetyActive firmware i below
  exact anySafetyActive_iff.mpr ⟨i, below, active.trans found⟩

/-- A poll in firmware-auto without a reason hands the fans back or leaves the modes alone. -/
theorem updateFans_calm_modes (valid : cfg.fanModes.Valid) (apart : ModeRegistersApart cfg)
    (reliable : daemon.ec.WritesSucceed) (firmware : daemon.fanControl.firmwareAuto = true)
    (calm : ¬ SomeReason cfg daemon.autoMode (daemon.observed cfg))
    (keeps : PollKeepsModes cfg daemon) (kept : ModesKept cfg daemon.fanControl) :
    ModesAgree cfg (daemon.updateFans cfg).fanControl := by
  have reads : OnlyRead daemon.ec (daemon.observed cfg).ec := refreshFanObservations_onlyRead _ _ _ _
  have ec : (daemon.updateFans cfg).ec =
      if anySafetyActive cfg daemon.states = true ∧
          ¬ SomeReason cfg daemon.autoMode (daemon.observed cfg) then
        (applyFanMode (daemon.observed cfg).ec cfg .auto).1
      else (NitroSense.updateFans cfg daemon.autoMode daemon.preset (daemon.observed cfg)).bank.ec :=
    updateFanStates_firmware_ec firmware
  change FanModesAt (daemon.updateFans cfg).ec cfg daemon.fanControl.reportedMode
  by_cases ends : anySafetyActive cfg daemon.states = true
  · have off : daemon.fanControl.coolboostEnabled = false := by
      by_contra on
      exact calm (keeps firmware (Bool.eq_true_of_not_eq_false on) ends)
    have auto : daemon.fanControl.reportedMode = .auto := by
      simp [FanControl.reportedMode, off, firmware]
    rw [ec, if_pos ⟨ends, calm⟩, auto]
    exact applyFanMode_modes valid apart ((reads.writesWithin fun _ => True).writesSucceed reliable)
      .auto
  · have agree : ModesAgree cfg daemon.fanControl := kept.resolve_right fun both => ends both.2
    have mode : firmwareAutoMode daemon.autoMode daemon.preset = true := firmware
    rw [ec, if_neg fun both => ends both.1, updateFans_calm mode calm]
    exact agree.of_writesWithin (reads.writesWithin fun _ => False) fun _ _ => id

theorem updateFans_modesKept (valid : cfg.fanModes.Valid) (apart : ModeRegistersApart cfg)
    (reliable : daemon.ec.WritesSucceed) (keeps : PollKeepsModes cfg daemon)
    (kept : ModesKept cfg daemon.fanControl) :
    ModesKept cfg (daemon.updateFans cfg).fanControl := by
  cases firmware : daemon.fanControl.firmwareAuto with
  | false =>
      have agree : ModesAgree cfg daemon.fanControl :=
        kept.resolve_right fun both => by simp [firmware] at both
      have speeds : WritesWithin (FanWriteRegister cfg) daemon.ec (daemon.updateFans cfg).ec :=
        updateFanStates_fanWrites firmware
      exact Or.inl (agree.of_fanWrites apart speeds)
  | true =>
      by_cases reason : SomeReason cfg daemon.autoMode (daemon.observed cfg)
      · exact Or.inr ⟨firmware, updateFans_anySafetyActive firmware reason⟩
      · exact Or.inl (updateFans_calm_modes valid apart reliable firmware reason keeps kept)

end Polls

/-! ## Steps and runs -/

/-- No one else writes the mode registers, and the event is none of those that forget CoolBoost. -/
structure StepKeepsModes (cfg : AnsConfig) (daemon : Daemon) (event : Event) : Prop where
  alone : ∀ reg, FanModeRegister cfg reg → event.refreshed reg = none
  poll : ∀ activity, event.action = .poll activity →
    PollKeepsModes cfg ((daemon.found event).beforeFans cfg activity)
  request : RequestKeepsModes cfg (daemon.found event).fanControl event.action.request

section Steps

variable {cfg : AnsConfig} {daemon : Daemon} {event : Event}

theorem KeepsFans.modesKept {before after : Daemon} (apart : ModeRegistersApart cfg)
    (frame : KeepsFans cfg before after) (kept : ModesKept cfg before.fanControl) :
    ModesKept cfg after.fanControl := by
  rw [frame.fanControl]
  exact kept.imp_left fun agree =>
    FanModesAt.of_writesWithin agree frame.ec fun _ => apart.side

theorem found_modesKept (alone : ∀ reg, FanModeRegister cfg reg → event.refreshed reg = none)
    (kept : ModesKept cfg daemon.fanControl) :
    ModesKept cfg (daemon.found event).fanControl :=
  kept.imp_left fun agree =>
    ⟨(refresh_byte (alone _ (Or.inl rfl))).trans agree.1,
      (refresh_byte (alone _ (Or.inr rfl))).trans agree.2⟩

theorem step_modesKept (valid : cfg.fanModes.Valid) (apart : ModeRegistersApart cfg)
    (reliable : daemon.ec.WritesSucceed) (keeps : StepKeepsModes cfg daemon event)
    (kept : ModesKept cfg daemon.fanControl) :
    ModesKept cfg (daemon.step cfg event).fanControl := by
  have working : (daemon.found event).ec.WritesSucceed := reliable
  have found := found_modesKept keeps.alone kept
  refine @step_induct cfg daemon event (fun daemon => ModesKept cfg daemon.fanControl)
    kept (fun _ _ frame => frame.modesKept apart) found ?_ ?_
  · intro activity isPoll
    have frame := beforeFans_keepsFans cfg (daemon.found event) activity
    exact updateFans_modesKept valid apart (frame.ec.writesSucceed working)
      (keeps.poll activity isPoll) (frame.modesKept apart found)
  · intro request asked fans
    have requestKeeps := keeps.request
    rw [asked] at requestKeeps
    rw [perform_fanControl working fans]
    exact perform_modesKept valid apart working requestKeeps found

/-- Along a run without the events that forget CoolBoost, the modes agree with what is reported. -/
theorem modesReported_along {events : List Event} (valid : cfg.fanModes.Valid)
    (apart : ModeRegistersApart cfg) (reliable : daemon.ec.WritesSucceed)
    (agree : ModesAgree cfg daemon.fanControl)
    (keeps : Along (Daemon.step cfg) (StepKeepsModes cfg) daemon events) :
    Along (Daemon.step cfg)
      (fun daemon event => ModesReported cfg (daemon.step cfg event).fanControl) daemon events := by
  have step : ∀ daemon event, StepKeepsModes cfg daemon event →
      (daemon.ec.WritesSucceed ∧ ModesKept cfg daemon.fanControl) →
        (daemon.step cfg event).ec.WritesSucceed ∧
          ModesKept cfg (daemon.step cfg event).fanControl := by
    rintro daemon event allowed ⟨working, kept⟩
    exact ⟨step_reliable working, step_modesKept valid apart working allowed kept⟩
  exact keeps.of_invariant ⟨reliable, Or.inl agree⟩ step
    fun daemon event allowed inv => (step daemon event allowed inv).2.reported

end Steps

/-- A daemon in firmware-auto with the mode registers of the shipped profile at automatic. -/
def firmwareDaemon : Daemon :=
  { heldDaemon false firmwareAutoPreset with
    ec := { regs := fun reg => if reg = 34 then 4 else if reg = 33 then 16 else 0 } }

theorem separateConfig_modesApart : ModeRegistersApart AcerNitroAn517.separateConfig where
  available := rfl
  distinct := by decide
  others := by
    intro reg member isMode
    have other : ∀ reg ∈ AcerNitroAn517.separateConfig.otherRegisters, reg ≠ 34 ∧ reg ≠ 33 := by
      decide
    rcases isMode with rfl | rfl
    · exact (other _ member).1 rfl
    · exact (other _ member).2 rfl

theorem modesReported_coolboost :
    Along (Daemon.step AcerNitroAn517.separateConfig)
      (fun daemon event => ModesReported AcerNitroAn517.separateConfig
        (daemon.step AcerNitroAn517.separateConfig event).fanControl)
      firmwareDaemon
      [.command firmwareDaemon.host "coolboost on".toList,
        .command firmwareDaemon.host "coolboost off".toList,
        .command firmwareDaemon.host "resume".toList] := by
  refine modesReported_along AcerNitroAn517.separateConfig_valid.fanModes
    separateConfig_modesApart (fun _ => rfl) (by decide) ?_
  refine ⟨⟨fun _ _ => rfl, (fun _ isPoll => nomatch isPoll), trivial⟩,
    ⟨fun _ _ => rfl, (fun _ isPoll => nomatch isPoll), trivial⟩,
    ⟨fun _ _ => rfl, (fun _ isPoll => nomatch isPoll), fun _ on => absurd on (by decide +kernel)⟩,
    trivial⟩

/-- `resume` in firmware-auto ends turbo but leaves CoolBoost reported as on. -/
theorem modesReported_fails :
    ¬ ∀ (cfg : AnsConfig) (daemon : Daemon) (events : List Event), cfg.Valid →
      ModeRegistersApart cfg → daemon.ec.WritesSucceed → ModesAgree cfg daemon.fanControl →
        (∀ event ∈ events, ∀ reg, FanModeRegister cfg reg → event.refreshed reg = none) →
          Along (Daemon.step cfg)
            (fun daemon event => ModesReported cfg (daemon.step cfg event).fanControl)
            daemon events := by
  intro claim
  have along := claim AcerNitroAn517.separateConfig firmwareDaemon
    [.command firmwareDaemon.host "coolboost on".toList,
      .command firmwareDaemon.host "resume".toList]
    AcerNitroAn517.separateConfig_valid separateConfig_modesApart (fun _ => rfl) (by decide)
    (fun event member => by
      simp only [List.mem_cons, List.not_mem_nil, or_false] at member
      rcases member with rfl | rfl
      · exact fun _ _ => rfl
      · exact fun _ _ => rfl)
  exact absurd (along.2.1 (by decide +kernel)) (by decide +kernel)

end NitroSense
