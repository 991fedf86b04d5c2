import NitroSense.Fan.Control

/-!
# What one poll does

The rounds of `update_fan_states` are independent of each other: a round only
changes its own fan, so every round sees the states the observation left.  The
rule `updateFans_induct` states this once; the facts about a whole poll follow
from one fact per round.
-/

namespace NitroSense

open Lib EcDevice

section Rounds

variable {cfg : AnsConfig} {autoMode : Bool} {preset : CString} {forcedReason : SafetyReason}

/-- A round changes no other fan's state. -/
theorem updateFan_state_ne {i j : Nat} (poll : Poll) (ne : j ≠ i) :
    (updateFan cfg autoMode preset forcedReason i poll).bank.states j = poll.bank.states j := by
  unfold updateFan
  split
  · split
    · exact setFanPercent_state_ne cfg _ i _ _ ne
    · exact Function.update_of_ne ne _ _
  · unfold daemonFan
    dsimp only
    split
    · exact setFanPercent_state_ne cfg _ i _ _ ne
    · exact Function.update_of_ne ne _ _

/-- Induction over the rounds of a poll; round `i` finds fan `i` as it was observed. -/
theorem updateFans_induct {observed : Observation} (Inv : Nat → Poll → Prop)
    (initial : Inv 0 ⟨⟨observed.ec, observed.states⟩, false, false⟩)
    (round : ∀ i poll, i < cfg.fanLen → poll.bank.states i = observed.states i → Inv i poll →
      Inv (i + 1) (updateFan cfg autoMode preset observed.forcedReason i poll)) :
    Inv cfg.fanLen (updateFans cfg autoMode preset observed) := by
  suffices both : (∀ j, cfg.fanLen ≤ j →
      (updateFans cfg autoMode preset observed).bank.states j = observed.states j) ∧
      Inv cfg.fanLen (updateFans cfg autoMode preset observed) from both.2
  refine loop_invariant
    (fun count (poll : Poll) =>
      (∀ j, count ≤ j → poll.bank.states j = observed.states j) ∧ Inv count poll)
    ⟨fun _ _ => rfl, initial⟩ ?_
  intro i poll below before
  refine ⟨fun j after => ?_, round i poll below (before.1 i (le_refl i)) before.2⟩
  rw [updateFan_state_ne poll (by omega)]
  exact before.1 j (by omega)

/-- A property of single fans that the rounds establish holds of every fan after the poll. -/
theorem updateFans_each {observed : Observation} (P : Nat → FanState → Prop)
    (round : ∀ i poll, i < cfg.fanLen → poll.bank.states i = observed.states i →
      P i ((updateFan cfg autoMode preset observed.forcedReason i poll).bank.states i)) :
    ∀ i < cfg.fanLen, P i ((updateFans cfg autoMode preset observed).bank.states i) := by
  refine updateFans_induct (fun count poll => ∀ i < count, P i (poll.bank.states i)) ?_ ?_
  · intro i below
    omega
  · intro i poll below same before j upTo
    by_cases here : j = i
    · rw [here]
      exact round i poll below same
    · rw [updateFan_state_ne poll here]
      exact before j (by omega)

/-- The EC of an overriding round, before the fan's own speed is written. -/
def overrideModes (cfg : AnsConfig) (poll : Poll) : EcDevice :=
  (if poll.overrideReady then (poll.bank.ec, true)
    else applyDaemonControlFanMode poll.bank.ec cfg).1

theorem overrideModes_writesWithin {allowed : Int → Prop} (poll : Poll)
    (modes : cfg.fanModes.available = true → ∀ reg, FanModeRegister cfg reg → allowed reg) :
    WritesWithin allowed poll.bank.ec (overrideModes cfg poll) := by
  unfold overrideModes
  split
  · exact WritesWithin.refl _
  · exact applyDaemonControlFanMode_writesWithin modes

/-- An overriding round ends with a write to the fan's speed register. -/
theorem overrideFan_writes (cfg : AnsConfig) (autoMode : Bool) (forcedReason : SafetyReason)
    (i : Nat) (poll : Poll) :
    ∃ speed modes, (overrideFan cfg autoMode forcedReason i poll).bank.ec.writes =
        speed :: (modes ++ poll.bank.ec.writes) ∧ speed.reg = (cfg.fan i).writeRegister := by
  obtain ⟨modes, log, _⟩ :=
    (overrideModes_writesWithin poll fun _ _ _ => trivial : WritesWithin (fun _ => True) _ _).writes
  have written : (overrideFan cfg autoMode forcedReason i poll).bank.ec.writes =
      _ :: (overrideModes cfg poll).writes := rfl
  exact ⟨_, modes, written.trans (by rw [log]), rfl⟩

/-- A round writes at most the fan-mode registers and the fan's own write register. -/
theorem updateFan_changes {allowed : Int → Prop} {i : Nat} (poll : Poll)
    (modes : cfg.fanModes.available = true → ∀ reg, FanModeRegister cfg reg → allowed reg)
    (own : allowed (cfg.fan i).writeRegister) :
    FanChanges allowed poll.bank (updateFan cfg autoMode preset forcedReason i poll).bank := by
  unfold updateFan
  split
  · split
    · have owned : FanChanges allowed poll.bank ⟨overrideModes cfg poll, poll.bank.states⟩ :=
        ⟨SameObservations.refl _, overrideModes_writesWithin poll modes⟩
      exact owned.trans (setFanPercent_changes cfg _ i _ _ own)
    · exact ⟨update_sameObservations ⟨rfl, rfl, rfl, rfl, rfl, rfl, rfl⟩, WritesWithin.refl _⟩
  · unfold daemonFan
    dsimp only
    split
    · exact setFanPercent_changes cfg _ i _ _ own
    · exact ⟨update_sameObservations ⟨rfl, rfl, rfl, rfl, rfl, rfl, rfl⟩, WritesWithin.refl _⟩

theorem updateFans_changes {observed : Observation} {allowed : Int → Prop}
    (modes : cfg.fanModes.available = true → ∀ reg, FanModeRegister cfg reg → allowed reg)
    (own : ∀ i < cfg.fanLen, allowed (cfg.fan i).writeRegister) :
    FanChanges allowed ⟨observed.ec, observed.states⟩
      (updateFans cfg autoMode preset observed).bank := by
  refine updateFans_induct
    (fun _ poll => FanChanges allowed ⟨observed.ec, observed.states⟩ poll.bank)
    (FanChanges.refl _) ?_
  intro i poll below _ before
  exact before.trans (updateFan_changes poll modes (own i below))

theorem recordFanWrite_safetyActive (cfg : AnsConfig) (state : FanState) (requestedPercent : Int)
    (adjusted : Int × SafetyReason) (ok : Bool) :
    (recordFanWrite cfg state requestedPercent adjusted ok).safetyActive =
      (!ok || adjusted.2.hasValue) := by
  cases ok <;> rfl

end Rounds

/-! ## Reasons in firmware-auto -/

def pollReason (cfg : AnsConfig) (autoMode : Bool) (observed : Observation) (i : Nat) :
    SafetyReason :=
  (pollDecision cfg autoMode observed.forcedReason i (observed.states i)).2

def SomeReason (cfg : AnsConfig) (autoMode : Bool) (observed : Observation) : Prop :=
  ∃ i < cfg.fanLen, (pollReason cfg autoMode observed i).hasValue = true

instance (cfg : AnsConfig) (autoMode : Bool) (observed : Observation) :
    Decidable (SomeReason cfg autoMode observed) :=
  inferInstanceAs (Decidable (∃ i < cfg.fanLen, _))

section Firmware

variable {cfg : AnsConfig} {autoMode : Bool} {preset : CString} {observed : Observation}

/-- In firmware-auto a round either overrides or leaves the EC alone. -/
theorem updateFan_firmware (firmware : firmwareAutoMode autoMode preset = true) {i : Nat}
    {poll : Poll} (same : poll.bank.states i = observed.states i) :
    updateFan cfg autoMode preset observed.forcedReason i poll =
      if (pollReason cfg autoMode observed i).hasValue then
        overrideFan cfg autoMode observed.forcedReason i poll
      else firmwareFan cfg autoMode observed.forcedReason i poll := by
  rw [updateFan, if_pos firmware, same]
  rfl

/-- After a poll in firmware-auto exactly the fans with a reason are safety-active. -/
theorem updateFans_safetyActive (firmware : firmwareAutoMode autoMode preset = true) :
    ∀ i < cfg.fanLen, ((updateFans cfg autoMode preset observed).bank.states i).safetyActive =
      (pollReason cfg autoMode observed i).hasValue := by
  refine updateFans_each (fun i state =>
    state.safetyActive = (pollReason cfg autoMode observed i).hasValue) ?_
  intro i poll below same
  rw [updateFan_firmware firmware same]
  split
  · rename_i reason
    rw [reason]
    unfold overrideFan
    dsimp only
    rw [setFanPercent_state_self, recordFanWrite_safetyActive, setFanDecision, same]
    have decided : (fanSafetyAdjustPercent cfg (cfg.fan i) (observed.states i)
        (pollPercent cfg (cfg.fan i) (observed.states i) autoMode observed.forcedReason)
        observed.forcedReason).2.hasValue = true := reason
    rw [decided, Bool.or_true]
  · rename_i calm
    rw [Bool.eq_false_iff.mpr calm]
    unfold firmwareFan
    dsimp only
    rw [Function.update_self]
    rfl

/-- The local `firmware_auto_safety_is_active` after the loop. -/
theorem updateFans_safetyIsActive (firmware : firmwareAutoMode autoMode preset = true) :
    (updateFans cfg autoMode preset observed).safetyIsActive = true ↔
      SomeReason cfg autoMode observed := by
  refine updateFans_induct (fun count poll => poll.safetyIsActive = true ↔
    ∃ i < count, (pollReason cfg autoMode observed i).hasValue = true) ?_ ?_
  · simp
  · intro i poll below same before
    rw [updateFan_firmware firmware same]
    split
    · rename_i reason
      exact ⟨fun _ => ⟨i, Nat.lt_succ_self i, reason⟩, fun _ => rfl⟩
    · rename_i calm
      refine before.trans ⟨fun ⟨j, earlier, reason⟩ => ⟨j, by omega, reason⟩, ?_⟩
      rintro ⟨j, earlier, reason⟩
      have ne : j ≠ i := fun here => calm (here ▸ reason)
      exact ⟨j, by omega, reason⟩

/-- A poll in firmware-auto that finds no reason writes nothing in its loop. -/
theorem updateFans_calm (firmware : firmwareAutoMode autoMode preset = true)
    (calm : ¬ SomeReason cfg autoMode observed) :
    (updateFans cfg autoMode preset observed).bank.ec = observed.ec := by
  refine updateFans_induct (fun _ poll => poll.bank.ec = observed.ec) rfl ?_
  intro i poll below same before
  rw [updateFan_firmware firmware same, if_neg fun reason => calm ⟨i, below, reason⟩]
  exact before

end Firmware

/-! ## The whole poll -/

/-- Observing leaves the flags of the previous poll in place. -/
theorem refreshFanObservations_safetyActive (ec : EcDevice) (sensors : Sensors) (cfg : AnsConfig)
    (states : FanStates) (i : Nat) :
    ((refreshFanObservations ec sensors cfg states).states i).safetyActive =
      (states i).safetyActive := by
  rw [refreshFanObservations_states]
  split <;> rfl

theorem refreshFanObservations_anySafetyActive (ec : EcDevice) (sensors : Sensors)
    (cfg : AnsConfig) (states : FanStates) :
    anySafetyActive cfg (refreshFanObservations ec sensors cfg states).states =
      anySafetyActive cfg states := by
  simp only [anySafetyActive, refreshFanObservations_safetyActive]

section WholePoll

variable {cfg : AnsConfig} {bank : FanBank} {sensors : Sensors} {autoMode : Bool}
  {preset : CString}

/-- Outside firmware-auto a poll is its observation and its loop. -/
theorem updateFanStates_daemon (daemon : firmwareAutoMode autoMode preset = false) :
    updateFanStates bank sensors cfg autoMode preset =
      (updateFans cfg autoMode preset
        (refreshFanObservations bank.ec sensors cfg bank.states)).bank := by
  simp [updateFanStates, restoreFirmwareAutoModeIfNeeded, shouldRestoreFirmwareAutoMode, daemon]

/-- In firmware-auto a poll hands the fans back when it ends an override. -/
theorem updateFanStates_firmware_ec (firmware : firmwareAutoMode autoMode preset = true) :
    let observed := refreshFanObservations bank.ec sensors cfg bank.states
    (updateFanStates bank sensors cfg autoMode preset).ec =
      if anySafetyActive cfg bank.states = true ∧ ¬ SomeReason cfg autoMode observed then
        (applyFanMode observed.ec cfg .auto).1
      else (updateFans cfg autoMode preset observed).bank.ec := by
  intro observed
  have was : anySafetyActive cfg observed.states = anySafetyActive cfg bank.states :=
    refreshFanObservations_anySafetyActive _ _ _ _
  have is : (updateFans cfg autoMode preset observed).safetyIsActive = true ↔
      SomeReason cfg autoMode observed := updateFans_safetyIsActive firmware
  have restore : shouldRestoreFirmwareAutoMode (firmwareAutoMode autoMode preset)
      (firmwareAutoMode autoMode preset && anySafetyActive cfg observed.states)
      (updateFans cfg autoMode preset observed).safetyIsActive = true ↔
      anySafetyActive cfg bank.states = true ∧ ¬ SomeReason cfg autoMode observed := by
    rw [← is, was, firmware]
    simp [shouldRestoreFirmwareAutoMode]
  change restoreFirmwareAutoModeIfNeeded _ _ _ _ _ = _
  rw [restoreFirmwareAutoModeIfNeeded]
  by_cases ends : anySafetyActive cfg bank.states = true ∧ ¬ SomeReason cfg autoMode observed
  · rw [if_pos (restore.mpr ends), if_pos ends, applyFirmwareAutoFanMode_eq,
      updateFans_calm firmware ends.2]
  · rw [if_neg fun does => ends (restore.mp does), if_neg ends]

/-- Outside firmware-auto a poll writes the speeds of fans only. -/
theorem updateFanStates_fanWrites (daemon : firmwareAutoMode autoMode preset = false) :
    WritesWithin (FanWriteRegister cfg) bank.ec
      (updateFanStates bank sensors cfg autoMode preset).ec := by
  have reads : OnlyRead bank.ec (refreshFanObservations bank.ec sensors cfg bank.states).ec :=
    refreshFanObservations_onlyRead _ _ _ _
  rw [updateFanStates_daemon daemon]
  refine updateFans_induct (fun _ poll => WritesWithin (FanWriteRegister cfg) bank.ec poll.bank.ec)
    (reads.writesWithin _) ?_
  intro i poll below _ before
  refine before.trans ?_
  rw [updateFan, if_neg (by simp [daemon])]
  unfold daemonFan
  dsimp only
  split
  · exact setFanPercent_writesWithin cfg _ i _ _ ⟨i, below, rfl⟩
  · exact WritesWithin.refl _

/-- After its observation a poll observes nothing, and writes registers of fan control only. -/
theorem updateFanStates_changes (cfg : AnsConfig) (bank : FanBank) (sensors : Sensors)
    (autoMode : Bool) (preset : CString) :
    let observed := refreshFanObservations bank.ec sensors cfg bank.states
    FanChanges (FanControlRegister cfg) ⟨observed.ec, observed.states⟩
      (updateFanStates bank sensors cfg autoMode preset) := by
  intro observed
  have rounds : FanChanges (FanControlRegister cfg) ⟨observed.ec, observed.states⟩
      (updateFans cfg autoMode preset observed).bank :=
    updateFans_changes (fun available => FanControlRegister.of_mode available)
      fun i below => Or.inl ⟨i, below, rfl⟩
  refine rounds.trans ?_
  unfold updateFanStates restoreFirmwareAutoModeIfNeeded
  dsimp only
  split
  · exact applyFirmwareAutoFanMode_changes cfg _
  · exact FanChanges.refl _

theorem updateFanStates_writesSucceed (reliable : bank.ec.WritesSucceed) :
    (updateFanStates bank sensors cfg autoMode preset).ec.WritesSucceed := by
  have reads : OnlyRead bank.ec (refreshFanObservations bank.ec sensors cfg bank.states).ec :=
    refreshFanObservations_onlyRead _ _ _ _
  have observed := (reads.writesWithin fun _ => True).writesSucceed reliable
  exact (updateFanStates_changes cfg bank sensors autoMode preset).writesSucceed observed

end WholePoll

end NitroSense
