import NitroSense.Daemon.Loop
import NitroSense.Daemon.Start

/-!
# The speed registers over a run

In the modes the daemon owns, the write register of each fan should hold the
percent the daemon reports.  Three kinds of steps set a percent without writing
its register: starting, the polls in firmware-auto, and restoring firmware-auto.
A daemon that comes back from one of them has to write every fan, and not every
command does.
-/

namespace NitroSense

open Lib EcDevice

/-- The write register of fan `i` holds the percent of its state. -/
def FanSynced (cfg : AnsConfig) (bank : FanBank) (i : Nat) : Prop :=
  bank.ec.byte (cfg.fan i).writeRegister =
    clampInt (bank.states i).percent (cfg.fan i).writeMin (cfg.fan i).writeMax

instance (cfg : AnsConfig) (bank : FanBank) (i : Nat) : Decidable (FanSynced cfg bank i) :=
  inferInstanceAs (Decidable (_ = _))

def SpeedsSynced (cfg : AnsConfig) (bank : FanBank) : Prop :=
  ∀ i < cfg.fanLen, FanSynced cfg bank i

/-- Outside firmware-auto every speed register holds what the daemon reports. -/
def SpeedsReported (cfg : AnsConfig) (control : FanControl) : Prop :=
  control.firmwareAuto = false → SpeedsSynced cfg control.toFanBank

/-- No other register the loop writes is the write register of a fan, and no two fans share one. -/
structure SpeedRegistersApart (cfg : AnsConfig) : Prop where
  fans : ∀ i < cfg.fanLen, ∀ j < cfg.fanLen, j ≠ i →
    (cfg.fan j).writeRegister ≠ (cfg.fan i).writeRegister
  modes : ∀ i < cfg.fanLen, cfg.fanModes.available = true →
    ¬ FanModeRegister cfg (cfg.fan i).writeRegister
  side : ∀ i < cfg.fanLen, ¬ SideRegister cfg (cfg.fan i).writeRegister

/-- A profile with distinct registers keeps the speed registers apart. -/
theorem speedRegistersApart_of_distinct {cfg : AnsConfig} (distinct : cfg.RegistersDistinct) :
    SpeedRegistersApart cfg := by
  obtain ⟨_, others, modes⟩ := List.nodup_append.mp distinct
  obtain ⟨speeds, _, rest⟩ := List.nodup_append.mp others
  refine ⟨fun i below j inside ne same => ?_, fun i below available isMode => ?_,
    fun i below side => ?_⟩
  · exact ne (AnsConfig.writeRegister_inj speeds inside below same)
  · exact modes _ (isMode.mem_modeRegisters available) _
      (List.mem_append_left _ (AnsConfig.writeRegister_mem below)) rfl
  · exact rest _ (AnsConfig.writeRegister_mem below) _
      (List.mem_append_left _ side.mem_sideRegisters) rfl

/-! ## Single fans -/

section OneFan

variable {cfg : AnsConfig} {i : Nat}

/-- A fan whose register and state have not changed is as synced as before. -/
theorem FanSynced.of_writesWithin {first second : FanBank} {allowed : Int → Prop}
    (synced : FanSynced cfg first i) (within : WritesWithin allowed first.ec second.ec)
    (outside : ¬ allowed (cfg.fan i).writeRegister)
    (percent : (second.states i).percent = (first.states i).percent) : FanSynced cfg second i := by
  rw [FanSynced, within.byte _ outside, percent]
  exact synced

/-- A working fan write syncs its fan. -/
theorem setFanPercent_synced_self {bank : FanBank} (valid : (cfg.fan i).Valid)
    (works : bank.ec.nextWriteOk = true) (percent : Int) (forced : SafetyReason) :
    FanSynced cfg (setFanPercent cfg bank i percent forced).1 i := by
  have lower := valid.writeMin
  have upper := valid.writeMax
  have range := valid.writeRange
  rw [FanSynced, setFanPercent_ec, ecWriteByte_byte_self _ _ _ works, setFanPercent_state_self,
    works]
  refine clamp_of_mem ?_ ?_
  · exact le_trans lower (le_clamp (by omega) _)
  · exact le_trans (clamp_le (by omega) _) (by omega)

/-- A working fan write syncs its fan and keeps the others synced. -/
theorem setFanPercent_synced {bank : FanBank} (valid : cfg.Valid)
    (apart : SpeedRegistersApart cfg) (reliable : bank.ec.WritesSucceed) (below : i < cfg.fanLen)
    (percent : Int) (forced : SafetyReason) {j : Nat} (inside : j < cfg.fanLen)
    (before : j = i ∨ FanSynced cfg bank j) :
    FanSynced cfg (setFanPercent cfg bank i percent forced).1 j := by
  by_cases here : j = i
  · rw [here]
    exact setFanPercent_synced_self (valid.fan below) reliable.nextWriteOk percent forced
  · have synced := before.resolve_left here
    have own : WritesWithin (fun reg => reg = (cfg.fan i).writeRegister) bank.ec
        (setFanPercent cfg bank i percent forced).1.ec :=
      setFanPercent_writesWithin cfg bank i percent forced rfl
    refine synced.of_writesWithin own (apart.fans i below j inside here) ?_
    rw [setFanPercent_state_ne cfg bank i percent forced here]

/-- After a loop of fan writes the selected fans are synced, and the others as before. -/
theorem setFans_synced {selected : Nat → Bool} {percent : FanBank → Nat → Int}
    {forced : FanBank → SafetyReason} {start : FanBank} (valid : cfg.Valid)
    (apart : SpeedRegistersApart cfg) (reliable : start.ec.WritesSucceed) {j : Nat}
    (inside : j < cfg.fanLen) (before : selected j = true ∨ FanSynced cfg start j) :
    FanSynced cfg (setFans cfg selected percent forced start) j := by
  suffices both : (setFans cfg selected percent forced start).ec.WritesSucceed ∧
      ((selected j = true ∧ j < cfg.fanLen) ∨ FanSynced cfg start j →
        FanSynced cfg (setFans cfg selected percent forced start) j) from
    both.2 (before.imp_left fun chosen => ⟨chosen, inside⟩)
  refine loop_invariant (fun count (bank : FanBank) => bank.ec.WritesSucceed ∧
    ((selected j = true ∧ j < count) ∨ FanSynced cfg start j → FanSynced cfg bank j)) ?_ ?_
  · refine ⟨reliable, fun synced => synced.resolve_left ?_⟩
    exact fun none => absurd none.2 (Nat.not_lt_zero j)
  · rintro i bank below ⟨working, earlier⟩
    by_cases chosen : selected i = true
    · rw [if_pos chosen]
      refine ⟨(setFanPercent_writesWithin cfg bank i _ _ trivial :
        WritesWithin (fun _ => True) _ _).writesSucceed working, fun synced => ?_⟩
      refine setFanPercent_synced valid apart working below _ _ inside ?_
      by_cases here : j = i
      · exact Or.inl here
      · exact Or.inr (earlier (synced.imp_left fun ⟨mine, upTo⟩ => ⟨mine, by omega⟩))
    · rw [if_neg chosen]
      refine ⟨working, fun synced => earlier (synced.imp_left fun ⟨mine, upTo⟩ => ⟨mine, ?_⟩)⟩
      have ne : j ≠ i := fun here => chosen (here ▸ mine)
      omega

/-- A switch of the fan modes keeps the fans synced. -/
theorem switchedBank_synced {bank : FanBank} (apart : SpeedRegistersApart cfg)
    (below : i < cfg.fanLen) (mode : FanMode) (synced : FanSynced cfg bank i) :
    FanSynced cfg (switchedBank cfg bank mode) i := by
  have within : WritesWithin (fun reg => cfg.fanModes.available = true ∧ FanModeRegister cfg reg)
      bank.ec (switchedBank cfg bank mode).ec :=
    applyFanMode_writesWithin fun available _ isMode => ⟨available, isMode⟩
  exact synced.of_writesWithin within (fun both => apart.modes i below both.1 both.2) rfl

/-- The switch to daemon control keeps the fans synced. -/
theorem daemonControl_synced {bank : FanBank} (apart : SpeedRegistersApart cfg)
    (below : i < cfg.fanLen) (synced : FanSynced cfg bank i) :
    FanSynced cfg { bank with ec := (applyDaemonControlFanMode bank.ec cfg).1 } i := by
  cases available : cfg.fanModes.available with
  | false =>
      rw [applyDaemonControlFanMode, if_pos available]
      exact synced
  | true =>
      rw [applyDaemonControlFanMode_eq available]
      exact switchedBank_synced apart below .manual synced

theorem applyCurrentControlState_synced {bank : FanBank} (valid : cfg.Valid)
    (apart : SpeedRegistersApart cfg) (reliable : bank.ec.WritesSucceed) :
    SpeedsSynced cfg (applyCurrentControlState cfg bank) :=
  fun _ below => setFans_synced valid apart reliable below (Or.inl rfl)

end OneFan

/-! ## Which requests reach every fan -/

/-- The fans that are not written hold their percent already. -/
def ReachesFans (cfg : AnsConfig) (bank : FanBank) (written : Nat → Prop) : Prop :=
  ∀ i < cfg.fanLen, written i ∨ FanSynced cfg bank i

def PresetSelects (cfg : AnsConfig) (i : Nat) : Prop :=
  SelectsFan cfg "cpu".toList i ∨ SelectsFan cfg "gpu".toList i

/-- The daemon owns the fans, or writes them all when it takes them back from CoolBoost. -/
def OwnsSpeeds (cfg : AnsConfig) (control : FanControl) : Prop :=
  control.firmwareAuto = false ∨
    (control.coolboostEnabled = true ∧ cfg.fanModes.available = true)

/-- A request that ends firmware-auto writes every fan that does not hold its percent. -/
def RequestReaches (cfg : AnsConfig) (control : FanControl) : Option Request → Prop
  | some (.set fan _ _) =>
      OwnsSpeeds cfg control ∨ ReachesFans cfg control.toFanBank (SelectsFan cfg fan)
  | some (.preset name _) =>
      OwnsSpeeds cfg control ∨ name = firmwareAutoPreset ∨ configFindPreset cfg name = none ∨
        ReachesFans cfg control.toFanBank (PresetSelects cfg)
  | _ => True

section Requests

variable {cfg : AnsConfig} {control : FanControl}

theorem setOne_synced {bank : FanBank} (valid : cfg.Valid) (apart : SpeedRegistersApart cfg)
    (reliable : bank.ec.WritesSucceed) {id : CString} (percent : Int) {i : Nat}
    (below : i < cfg.fanLen) (before : SelectsFan cfg id i ∨ FanSynced cfg bank i) :
    FanSynced cfg (setOne cfg bank id percent).1 i := by
  rw [setOne_bank]
  exact setFans_synced valid apart reliable below (before.imp_left decide_eq_true)

theorem applyPreset_synced {bank : FanBank} (valid : cfg.Valid) (apart : SpeedRegistersApart cfg)
    (reliable : bank.ec.WritesSucceed) {id : CString} {preset : PresetConfig}
    (found : configFindPreset cfg id = some preset) {i : Nat} (below : i < cfg.fanLen)
    (before : PresetSelects cfg i ∨ FanSynced cfg bank i) :
    FanSynced cfg (applyPreset cfg bank id).1 i := by
  have cpu : SelectsFan cfg "gpu".toList i ∨
      FanSynced cfg (setOne cfg bank "cpu".toList preset.cpu).1 i := by
    rcases before with (selected | selected) | synced
    · exact Or.inr (setOne_synced valid apart reliable _ below (Or.inl selected))
    · exact Or.inl selected
    · exact Or.inr (setOne_synced valid apart reliable _ below (Or.inr synced))
  have working : (setOne cfg bank "cpu".toList preset.cpu).1.ec.WritesSucceed := by
    rw [setOne_bank]
    exact setFans_fanChanges.writesSucceed reliable
  simp only [applyPreset, found]
  exact setOne_synced valid apart working preset.gpu below cpu

/-- Taking the fans over keeps them synced, and syncs them all when it disables CoolBoost. -/
theorem preparedBank_synced (valid : cfg.Valid) (apart : SpeedRegistersApart cfg)
    (reliable : control.ec.WritesSucceed) {i : Nat} (below : i < cfg.fanLen)
    (before : (control.coolboostEnabled = true ∧ cfg.fanModes.available = true) ∨
      FanSynced cfg control.toFanBank i) :
    FanSynced cfg (control.preparedBank cfg) i := by
  have calmed : FanSynced cfg (control.calmedBank cfg) i := by
    unfold FanControl.calmedBank
    split
    · rename_i disabled
      exact before.resolve_left fun both => by simp [disabled] at both
    · cases available : cfg.fanModes.available with
      | false =>
          rw [applyCoolboost, if_pos available]
          exact before.resolve_left fun both => by simp [available] at both
      | true =>
          rw [applyCoolboost_disable available reliable]
          exact applyCurrentControlState_synced valid apart
            ((switchedBank_changes _ .manual).writesSucceed reliable) i below
  exact daemonControl_synced apart below calmed

/-- Fans that a request writes, or that it finds synced, are synced once taken over. -/
theorem prepared_reaches (valid : cfg.Valid) (apart : SpeedRegistersApart cfg)
    (reliable : control.ec.WritesSucceed) (reported : SpeedsReported cfg control)
    {written : Nat → Prop}
    (reaches : OwnsSpeeds cfg control ∨ ReachesFans cfg control.toFanBank written) :
    ReachesFans cfg (control.preparedBank cfg) written := by
  intro i below
  rcases reaches with (owned | coolboost) | reaches
  · exact Or.inr (preparedBank_synced valid apart reliable below (Or.inr (reported owned i below)))
  · exact Or.inr (preparedBank_synced valid apart reliable below (Or.inl coolboost))
  · exact (reaches i below).imp_right fun synced =>
      preparedBank_synced valid apart reliable below (Or.inr synced)

theorem useMode_speedsReported (valid : cfg.Valid) (apart : SpeedRegistersApart cfg)
    (reliable : control.ec.WritesSucceed) (reported : SpeedsReported cfg control) (mode : FanMode) :
    SpeedsReported cfg (control.useMode cfg mode) := by
  cases mode with
  | auto => exact fun owned => nomatch firmwareAuto_mode.symm.trans owned
  | manual =>
      exact fun _ => applyCurrentControlState_synced valid apart
        ((switchedBank_changes _ .manual).writesSucceed reliable)
  | turbo =>
      exact fun owned i below => switchedBank_synced apart below .turbo (reported owned i below)

theorem coolboostBank_speedsReported (valid : cfg.Valid) (apart : SpeedRegistersApart cfg)
    (reliable : control.ec.WritesSucceed) (reported : SpeedsReported cfg control)
    (enabled : Bool) :
    SpeedsReported cfg
      { control with
        toFanBank := control.coolboostBank cfg enabled, coolboostEnabled := enabled } := by
  intro owned
  have owns : control.firmwareAuto = false := owned
  unfold FanControl.coolboostBank
  cases enabled with
  | true => exact fun i below => switchedBank_synced apart below .turbo (reported owns i below)
  | false =>
      rw [if_neg Bool.false_ne_true, if_neg (by simp [owns])]
      exact applyCurrentControlState_synced valid apart
        ((switchedBank_changes _ .manual).writesSucceed reliable)

/-- A request that reaches every fan leaves what the daemon reports true. -/
theorem perform_speedsReported (valid : cfg.Valid) (apart : SpeedRegistersApart cfg)
    (reliable : control.ec.WritesSucceed) {request : Request}
    (reaches : RequestReaches cfg control (some request)) (reported : SpeedsReported cfg control) :
    SpeedsReported cfg (control.perform cfg request) := by
  have prepared := (@preparedBank_changes cfg control).writesSucceed reliable
  cases request with
  | profile | powerSourceApply | powerSourceAuto | gpuTemp | keyboardSet | keyboardTimeout | stop =>
      exact reported
  | set fan percent accepted =>
      have all := prepared_reaches valid apart reliable reported reaches
      exact fun _ i below => setOne_synced valid apart prepared percent below (all i below)
  | preset name accepted =>
      unfold FanControl.perform
      dsimp only
      cases found : configFindPreset cfg name with
      | none => exact reported
      | some preset =>
          have same : preset.id = name := (configFindPreset_id found).2
          dsimp only
          rw [same]
          intro owned i below
          have all : ReachesFans cfg (control.preparedBank cfg) (PresetSelects cfg) := by
            refine prepared_reaches valid apart reliable reported ?_
            rcases reaches with owns | firmware | unknown | reaches
            · exact Or.inl owns
            · rw [firmware] at owned
              exact nomatch firmwareAuto_mode.symm.trans owned
            · rw [found] at unknown
              cases unknown
            · exact Or.inr reaches
          exact applyPreset_synced valid apart prepared found below (all i below)
  | auto => exact fun _ i below => setFans_synced valid apart prepared below (Or.inl rfl)
  | resume =>
      intro owned
      have owns : ¬ control.firmwareAuto = true := Bool.eq_false_iff.mp owned
      unfold FanControl.perform FanControl.resumedBank
      dsimp only
      rw [if_neg owns]
      exact applyCurrentControlState_synced valid apart
        ((applyInitWrites_writesWithin control.ec cfg).writesSucceed reliable)
  | firmwareAuto =>
      unfold FanControl.perform
      dsimp only
      split
      · exact useMode_speedsReported valid apart reliable reported .auto
      · exact reported
  | fanMode mode =>
      unfold FanControl.perform
      dsimp only
      split
      · exact useMode_speedsReported valid apart reliable reported mode
      · exact reported
  | coolboost enabled =>
      unfold FanControl.perform
      dsimp only
      split
      · exact coolboostBank_speedsReported valid apart reliable reported enabled
      · exact reported

end Requests

/-! ## Polls -/

section Polls

variable {cfg : AnsConfig} {bank : FanBank} {sensors : Sensors} {autoMode : Bool}
  {preset : CString}

theorem refreshFanObservations_percent (ec : EcDevice) (states : FanStates) (i : Nat) :
    ((refreshFanObservations ec sensors cfg states).states i).percent = (states i).percent := by
  rw [refreshFanObservations_states]
  split <;> rfl

/-- A round in a mode the daemon owns writes the fan or keeps its percent. -/
theorem daemonFan_synced {forced : SafetyReason} {i : Nat} {poll : Poll} (valid : cfg.Valid)
    (apart : SpeedRegistersApart cfg) (reliable : poll.bank.ec.WritesSucceed)
    (below : i < cfg.fanLen) (synced : SpeedsSynced cfg poll.bank) :
    SpeedsSynced cfg (daemonFan cfg autoMode forced i poll).bank := by
  intro j inside
  unfold daemonFan
  dsimp only
  split
  · exact setFanPercent_synced valid apart reliable below _ _ inside (Or.inr (synced j inside))
  · have unwritten : WritesWithin (fun _ => False) poll.bank.ec poll.bank.ec := WritesWithin.refl _
    refine (synced j inside).of_writesWithin unwritten id ?_
    dsimp only
    by_cases here : j = i
    · rw [here, Function.update_self]
      rfl
    · rw [Function.update_of_ne here]

/-- A poll in a mode the daemon owns keeps the fans synced. -/
theorem updateFanStates_synced (valid : cfg.Valid) (apart : SpeedRegistersApart cfg)
    (reliable : bank.ec.WritesSucceed) (owned : firmwareAutoMode autoMode preset = false)
    (synced : SpeedsSynced cfg bank) :
    SpeedsSynced cfg (updateFanStates bank sensors cfg autoMode preset) := by
  rw [updateFanStates_daemon owned]
  have reads := refreshFanObservations_onlyRead bank.ec sensors cfg bank.states
  suffices both : (updateFans cfg autoMode preset
        (refreshFanObservations bank.ec sensors cfg bank.states)).bank.ec.WritesSucceed ∧
      SpeedsSynced cfg (updateFans cfg autoMode preset
        (refreshFanObservations bank.ec sensors cfg bank.states)).bank from both.2
  refine updateFans_induct
    (fun _ poll => poll.bank.ec.WritesSucceed ∧ SpeedsSynced cfg poll.bank) ?_ ?_
  · refine ⟨(reads.writesWithin fun _ => True).writesSucceed reliable, fun i below => ?_⟩
    exact (synced i below).of_writesWithin (reads.writesWithin fun _ => False) id
      (refreshFanObservations_percent _ _ i)
  · rintro i poll below _ ⟨working, before⟩
    have round : updateFan cfg autoMode preset
        (refreshFanObservations bank.ec sensors cfg bank.states).forcedReason i poll =
          daemonFan cfg autoMode
            (refreshFanObservations bank.ec sensors cfg bank.states).forcedReason i poll := by
      rw [updateFan, if_neg (by simp [owned])]
    have writes : WritesWithin (fun _ => True) poll.bank.ec (updateFan cfg autoMode preset
        (refreshFanObservations bank.ec sensors cfg bank.states).forcedReason i poll).bank.ec :=
      (updateFan_changes poll (fun _ _ _ => trivial) trivial).ec
    refine ⟨writes.writesSucceed working, ?_⟩
    rw [round]
    exact daemonFan_synced valid apart working below before

end Polls

/-! ## Steps -/

/-- The EC itself leaves the write registers of the fans alone. -/
def LeavesSpeedsAlone (cfg : AnsConfig) (event : Event) : Prop :=
  ∀ i < cfg.fanLen, event.refreshed (cfg.fan i).writeRegister = none

/-- No one else writes the speed registers, and a fan request of this event reaches every fan. -/
def StepReaches (cfg : AnsConfig) (daemon : Daemon) (event : Event) : Prop :=
  LeavesSpeedsAlone cfg event ∧
    RequestReaches cfg (daemon.found event).fanControl event.action.request

section Steps

variable {cfg : AnsConfig} {daemon : Daemon} {event : Event}

theorem KeepsFans.speedsReported {before after : Daemon} (apart : SpeedRegistersApart cfg)
    (kept : KeepsFans cfg before after) (reported : SpeedsReported cfg before.fanControl) :
    SpeedsReported cfg after.fanControl := by
  rw [kept.fanControl]
  intro owned i below
  exact (reported owned i below).of_writesWithin kept.ec (apart.side i below) rfl

theorem found_speedsReported (alone : LeavesSpeedsAlone cfg event)
    (reported : SpeedsReported cfg daemon.fanControl) :
    SpeedsReported cfg (daemon.found event).fanControl := by
  intro owned i below
  exact (refresh_byte (alone i below)).trans (reported owned i below)

/-- A step that reaches every fan leaves what the daemon reports true. -/
theorem step_speedsReported (valid : cfg.Valid) (apart : SpeedRegistersApart cfg)
    (reliable : daemon.ec.WritesSucceed) (reaches : StepReaches cfg daemon event)
    (reported : SpeedsReported cfg daemon.fanControl) :
    SpeedsReported cfg (daemon.step cfg event).fanControl := by
  have working : (daemon.found event).ec.WritesSucceed := reliable
  have found := found_speedsReported reaches.1 reported
  refine @step_induct cfg daemon event (fun daemon => SpeedsReported cfg daemon.fanControl)
    reported (fun _ _ kept => kept.speedsReported apart) found ?_ ?_
  · intro activity _
    have kept := beforeFans_keepsFans cfg (daemon.found event) activity
    intro owned
    exact updateFanStates_synced valid apart (kept.ec.writesSucceed working) owned
      (kept.speedsReported apart found owned)
  · intro request asked fans
    have requestReaches := reaches.2
    rw [asked] at requestReaches
    rw [perform_fanControl working fans]
    exact perform_speedsReported valid apart working requestReaches found

end Steps

/-! ## Starting -/

/-- Restoring this saved state writes every fan that does not hold its percent. -/
def SavedStateReaches (cfg : AnsConfig) (bank : FanBank) (json : CString) : Prop :=
  let preset := jsonStringKey json "preset".toList "auto".toList 32
  cfg.fanModes.available = true ∨ jsonBoolKey json "auto".toList true = true ∨
    if preset = firmwareAutoPreset then
      SpeedsSynced cfg { bank with states := restoreSavedFanTargets cfg bank.states json }
    else
      preset = "manual".toList ∨ configFindPreset cfg preset = none ∨
        ReachesFans cfg bank (PresetSelects cfg)

/-- The default preset ends in firmware-auto or writes every fan that does not hold its percent. -/
def DefaultReaches (cfg : AnsConfig) (bank : FanBank) : Prop :=
  (cfg.defaultPreset = firmwareAutoPreset ∧
      (cfg.fanModes.available = true ∨ configFindPreset cfg firmwareAutoPreset ≠ none)) ∨
    (cfg.defaultPreset ≠ "auto".toList ∧ configFindPreset cfg cfg.defaultPreset ≠ none ∧
      ReachesFans cfg bank (PresetSelects cfg)) ∨
    SpeedsSynced cfg bank

/-- The start of the daemon writes every fan that does not hold its percent. -/
def StartReaches (cfg : AnsConfig) (boot : Boot) : Prop :=
  match boot.savedState with
  | some text => SavedStateReaches cfg (bootedDaemon cfg boot).toFanBank (text.take (64 * 1024))
  | none => DefaultReaches cfg (bootedDaemon cfg boot).toFanBank

section Start

variable {cfg : AnsConfig} {bank : FanBank} {daemon : Daemon} {json : CString}

theorem restoreSavedMode_synced (valid : cfg.Valid) (apart : SpeedRegistersApart cfg)
    (reliable : bank.ec.WritesSucceed) (preset : CString) :
    SpeedsSynced cfg (restoreSavedMode cfg bank json preset).1 := by
  have working := (applyDaemonControlFanMode_changes cfg bank).writesSucceed reliable
  exact fun i below => setFans_synced valid apart working below (Or.inl rfl)

/-- Without fan modes, the branches of restoring reach every fan, or end in firmware-auto. -/
theorem restoreFans_synced (valid : cfg.Valid) (apart : SpeedRegistersApart cfg)
    (reliable : bank.ec.WritesSucceed) (unavailable : cfg.fanModes.available = false)
    (reaches : SavedStateReaches cfg bank json) :
    SpeedsSynced cfg (restoreFans cfg bank (jsonBoolKey json "auto".toList true)
      (jsonStringKey json "preset".toList "auto".toList 32) json).1 := by
  unfold SavedStateReaches at reaches
  dsimp only at reaches
  rw [unavailable] at reaches
  have reaches := reaches.resolve_left Bool.false_ne_true
  have modes : { bank with ec := (applyDaemonControlFanMode bank.ec cfg).1 } = bank := by
    rw [applyDaemonControlFanMode, if_pos unavailable]
  unfold restoreFans
  cases auto : jsonBoolKey json "auto".toList true with
  | true => exact restoreSavedMode_synced valid apart reliable _
  | false =>
      rw [auto] at reaches
      have reaches := reaches.resolve_left Bool.false_ne_true
      rw [if_neg Bool.false_ne_true]
      split
      · rename_i firmware
        rw [if_pos firmware] at reaches
        unfold restoreFirmwareAutoControlState
        rw [applyFirmwareAutoFanMode_eq, applyFanMode_unavailable unavailable]
        exact reaches
      · rename_i other
        rw [if_neg other] at reaches
        unfold restoreNamedPresetControlState
        rw [modes]
        split
        · rename_i restored named
          split at named
          · cases named
          · rename_i known
            simp only [not_or] at known
            cases named
            obtain ⟨preset, found⟩ := Option.ne_none_iff_exists'.mp known.2
            have all := (reaches.resolve_left known.1).resolve_left known.2
            exact fun i below => applyPreset_synced valid apart reliable found below (all i below)
        · exact restoreSavedMode_synced valid apart reliable _

theorem restoreControlState_speedsReported (valid : cfg.Valid) (apart : SpeedRegistersApart cfg)
    (reliable : daemon.ec.WritesSucceed)
    (reaches : SavedStateReaches cfg daemon.toFanBank json) :
    SpeedsReported cfg (restoreControlStateFromJson cfg daemon json).fanControl := by
  intro owned
  unfold restoreControlStateFromJson Daemon.fanControl
  unfold restoreControlStateFromJson Daemon.fanControl FanControl.firmwareAuto at owned
  dsimp only at owned ⊢
  cases available : cfg.fanModes.available with
  | false =>
      rw [if_neg (by simp)]
      exact restoreFans_synced valid apart reliable available reaches
  | true =>
      rw [owned, if_pos (by decide)]
      have working := (@restoreFans_writesWithin cfg daemon.toFanBank
        (jsonBoolKey json "auto".toList true)
        (jsonStringKey json "preset".toList "auto".toList 32) json).writesSucceed reliable
      rw [applyCoolboost_disable available working]
      exact applyCurrentControlState_synced valid apart
        ((switchedBank_changes _ .manual).writesSucceed working)

/-- The default preset leaves a mode in which what the daemon reports is true. -/
theorem applyDefaultPreset_speedsReported (valid : cfg.Valid) (apart : SpeedRegistersApart cfg)
    (reliable : daemon.ec.WritesSucceed) (reaches : DefaultReaches cfg daemon.toFanBank) :
    SpeedsReported cfg (applyDefaultPreset cfg daemon).fanControl := by
  have named : cfg.defaultPreset ≠ [] := valid.defaultPreset.2.1
  unfold applyDefaultPreset
  dsimp only
  split
  · rename_i auto
    rw [writeControlState_fanControl]
    intro _ i below
    rcases reaches with ⟨firmware, _⟩ | ⟨other, _⟩ | synced
    · rw [auto] at firmware
      exact absurd firmware (by decide)
    · exact absurd auto other
    · exact daemonControl_synced apart below (synced i below)
  · split
    · rw [writeControlState_fanControl]
      exact fun owned => nomatch firmwareAuto_mode.symm.trans owned
    · rename_i notAuto notFirmware
      -- a switch to firmware-auto that was tried has failed for want of fan modes
      have unavailable : cfg.defaultPreset = firmwareAutoPreset →
          cfg.fanModes.available = false := by
        intro firmware
        by_contra available
        refine notFirmware ⟨firmware, ?_⟩
        rw [applyFirmwareAutoFanMode_eq]
        exact applyFanMode_ok (by simpa using available) reliable
      have unchanged : (if cfg.defaultPreset = firmwareAutoPreset then
          { daemon with ec := (applyFirmwareAutoFanMode daemon.ec cfg).1 } else daemon) = daemon := by
        split
        · rename_i firmware
          rw [applyFirmwareAutoFanMode_eq, applyFanMode_unavailable (unavailable firmware)]
        · rfl
      rw [unchanged]
      cases found : configFindPreset cfg cfg.defaultPreset with
      | none =>
          rw [if_neg (by simp [applyPreset, found])]
          intro _
          rcases reaches with ⟨firmware, able | known⟩ | ⟨_, known, _⟩ | synced
          · exact absurd able (by simp [unavailable firmware])
          · exact absurd (firmware ▸ found) known
          · exact absurd found known
          · exact synced
      | some preset =>
          rw [if_pos ⟨named, by simp [applyPreset, found]⟩, writeControlState_fanControl]
          intro owned
          have all : ReachesFans cfg daemon.toFanBank (PresetSelects cfg) := by
            rcases reaches with ⟨firmware, _⟩ | ⟨_, _, all⟩ | synced
            · have kept : firmwareAutoMode false (stringCopy 32 cfg.defaultPreset).1 = false := owned
              rw [firmware] at kept
              exact nomatch firmwareAuto_mode.symm.trans kept
            · exact all
            · exact fun i below => Or.inr (synced i below)
          exact fun i below => applyPreset_synced valid apart reliable found below (all i below)

theorem startDaemon_speedsReported {boot : Boot} (valid : cfg.Valid)
    (apart : SpeedRegistersApart cfg) (reliable : boot.ec.WritesSucceed)
    (reaches : StartReaches cfg boot) : SpeedsReported cfg (startDaemon cfg boot).fanControl := by
  have booted := @bootedDaemon_reliable cfg boot reliable
  have saved : (bootedDaemon cfg boot).savedState = boot.savedState := rfl
  unfold StartReaches at reaches
  unfold startDaemon restoreControlState
  dsimp only
  rw [saved]
  cases file : boot.savedState with
  | none =>
      rw [file] at reaches
      exact applyDefaultPreset_speedsReported valid apart booted reaches
  | some text =>
      rw [file] at reaches
      exact restoreControlState_speedsReported valid apart booted reaches

end Start

/-! ## Runs -/

/--
Along a run from the start in which every start and every fan request reaches
all fans, the speed registers always hold what the daemon reports.
-/
theorem speedsReported_along {cfg : AnsConfig} {boot : Boot} {events : List Event}
    (valid : cfg.Valid) (apart : SpeedRegistersApart cfg) (reliable : boot.ec.WritesSucceed)
    (start : StartReaches cfg boot)
    (reaches : Along (Daemon.step cfg) (StepReaches cfg) (startDaemon cfg boot) events) :
    Along (Daemon.step cfg)
      (fun daemon event => SpeedsReported cfg (daemon.step cfg event).fanControl)
      (startDaemon cfg boot) events := by
  have keeps : ∀ daemon event, StepReaches cfg daemon event →
      (daemon.ec.WritesSucceed ∧ SpeedsReported cfg daemon.fanControl) →
        (daemon.step cfg event).ec.WritesSucceed ∧
          SpeedsReported cfg (daemon.step cfg event).fanControl := by
    rintro daemon event step ⟨working, reported⟩
    exact ⟨step_reliable working, step_speedsReported valid apart working step reported⟩
  exact reaches.of_invariant
    ⟨startDaemon_reliable reliable, startDaemon_speedsReported valid apart reliable start⟩ keeps
    fun daemon event step inv => (keeps daemon event step inv).2

/-- An EC full of zeroes and no files. -/
def freshBoot : Boot where
  ec := { regs := fun _ => 0 }
  host := { sensors := AcerNitroAn517.cpuSensors 50, stateWritable := false }
  statusFile := none
  cacheFile := none
  savedState := none

theorem speedsReported_all :
    Along (Daemon.step AcerNitroAn517.separateConfig)
      (fun daemon event => SpeedsReported AcerNitroAn517.separateConfig
        (daemon.step AcerNitroAn517.separateConfig event).fanControl)
      (startDaemon AcerNitroAn517.separateConfig freshBoot)
      [.command freshBoot.host "set all 60".toList, .poll freshBoot.host] := by
  refine speedsReported_along AcerNitroAn517.separateConfig_valid
    (speedRegistersApart_of_distinct (by decide)) (fun _ => rfl) (Or.inl ⟨rfl, Or.inl rfl⟩) ?_
  refine ⟨⟨fun _ _ => rfl, ?_⟩, ⟨fun _ _ => rfl, trivial⟩, trivial⟩
  exact Or.inr fun _ _ => Or.inl (Or.inl rfl)

/--
The shipped default is firmware-auto.  Setting the CPU fan by hand ends it, and
the GPU fan is reported at 50 % while its register still holds what it held.
-/
theorem speedsReported_fails :
    ¬ ∀ (cfg : AnsConfig) (boot : Boot) (events : List Event), cfg.Valid →
      cfg.RegistersDistinct → boot.ec.WritesSucceed →
        (∀ event ∈ events, LeavesSpeedsAlone cfg event) →
          Along (Daemon.step cfg)
            (fun daemon event => (∃ activity, event.action = .poll activity) →
              SpeedsReported cfg (daemon.step cfg event).fanControl)
            (startDaemon cfg boot) events := by
  intro claim
  have along := claim AcerNitroAn517.separateConfig freshBoot
    [.command freshBoot.host "set cpu 60".toList, .poll freshBoot.host]
    AcerNitroAn517.separateConfig_valid (by decide) (fun _ => rfl) (fun event member => by
      simp only [List.mem_cons, List.not_mem_nil, or_false] at member
      rcases member with rfl | rfl
      · exact fun _ _ => rfl
      · exact fun _ _ => rfl)
  have synced := along.2.1 ⟨none, rfl⟩ (by decide +kernel) 1 (by decide)
  exact absurd synced (by decide +kernel)

end NitroSense
