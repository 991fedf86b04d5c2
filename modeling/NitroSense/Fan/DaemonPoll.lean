import NitroSense.Fan.Poll

/-!
# A poll in a mode the daemon owns

Outside firmware-auto a round writes its fan or leaves it alone.  Which of the
two depends on the observation only, so the fans a poll writes are known as
soon as it has observed; the outcome of the writes only shows in the states.
-/

namespace NitroSense

open Lib EcDevice

section Rounds

variable (cfg : AnsConfig) (autoMode : Bool) (observed : Observation) (i : Nat)

/-- The target `update_fan_states` derives for fan `i`. -/
def pollTarget : Int :=
  pollPercent cfg (cfg.fan i) (observed.states i) autoMode observed.forcedReason

def pollSpeed : Int := (pollDecision cfg autoMode observed.forcedReason i (observed.states i)).1

/-- The test before the write: the effective or the requested percent has changed. -/
def NeedsWrite : Prop :=
  pollSpeed cfg autoMode observed i ≠ (observed.states i).percent ∨
    pollTarget cfg autoMode observed i ≠ (observed.states i).requestedPercent

instance : Decidable (NeedsWrite cfg autoMode observed i) :=
  inferInstanceAs (Decidable (_ ∨ _))

/-- What a round makes of the observed state, by the outcome of its write if it makes one. -/
def roundState (ok : Bool) : FanState :=
  if NeedsWrite cfg autoMode observed i then
    recordFanWrite cfg (observed.states i) (pollTarget cfg autoMode observed i)
      (pollDecision cfg autoMode observed.forcedReason i (observed.states i)) ok
  else fanUpdateSafetyState (observed.states i) (pollReason cfg autoMode observed i)

/-- The fans a poll writes, in the order of its rounds. -/
def writtenFans : List Nat :=
  (List.range cfg.fanLen).filter fun i => decide (NeedsWrite cfg autoMode observed i)

end Rounds

/-! ## Polls that decide alike -/

/-- Two polls see the same of fan `i`: its control temperature, its reason and what is recorded. -/
structure SeesSame (cfg : AnsConfig) (first second : Observation) (i : Nat) : Prop where
  forcedReason : second.forcedReason = first.forcedReason
  criticalReason : criticalReason cfg (second.states i) first.forcedReason =
    criticalReason cfg (first.states i) first.forcedReason
  available : (second.states i).controlTempAvailable = (first.states i).controlTempAvailable
  tempC : (second.states i).controlTempC = (first.states i).controlTempC
  percent : (second.states i).percent = (first.states i).percent
  requestedPercent : (second.states i).requestedPercent = (first.states i).requestedPercent

namespace SeesSame

variable {cfg : AnsConfig} {autoMode : Bool} {first second : Observation} {i : Nat}

theorem pollTarget_eq (same : SeesSame cfg first second i) :
    pollTarget cfg autoMode second i = pollTarget cfg autoMode first i := by
  have status : (second.states i).statusRequestedPercent =
      (first.states i).statusRequestedPercent := by
    unfold FanState.statusRequestedPercent
    rw [same.requestedPercent, same.percent]
  have bypass : autoRampBypassTemperatureReached cfg (second.states i) =
      autoRampBypassTemperatureReached cfg (first.states i) := by
    unfold autoRampBypassTemperatureReached
    rw [same.available, same.tempC]
  have ramped (target : Int) : autoRampedPercent cfg (second.states i) target second.forcedReason =
      autoRampedPercent cfg (first.states i) target first.forcedReason := by
    unfold autoRampedPercent
    rw [status, bypass, same.forcedReason]
  unfold pollTarget pollPercent
  dsimp only
  rw [status, same.tempC, ramped]

theorem pollSpeed_eq (same : SeesSame cfg first second i) :
    pollSpeed cfg autoMode second i = pollSpeed cfg autoMode first i := by
  have target : pollPercent cfg (cfg.fan i) (second.states i) autoMode second.forcedReason =
      pollPercent cfg (cfg.fan i) (first.states i) autoMode first.forcedReason :=
    same.pollTarget_eq
  unfold pollSpeed pollDecision
  rw [target, same.forcedReason,
    fanSafetyAdjustPercent_congr same.criticalReason same.available same.tempC]

/-- Such polls write the same fans. -/
theorem needsWrite_iff (same : SeesSame cfg first second i) :
    NeedsWrite cfg autoMode second i ↔ NeedsWrite cfg autoMode first i := by
  unfold NeedsWrite
  rw [same.pollTarget_eq, same.pollSpeed_eq, same.percent, same.requestedPercent]

end SeesSame

section Daemon

variable {cfg : AnsConfig} {autoMode : Bool} {preset : CString} {observed : Observation}

theorem mem_writtenFans {i : Nat} :
    i ∈ writtenFans cfg autoMode observed ↔ i < cfg.fanLen ∧ NeedsWrite cfg autoMode observed i := by
  simp [writtenFans]

/-- A round outside firmware-auto. -/
theorem updateFan_daemon (daemon : firmwareAutoMode autoMode preset = false) {i : Nat} {poll : Poll}
    (same : poll.bank.states i = observed.states i) :
    updateFan cfg autoMode preset observed.forcedReason i poll =
      if NeedsWrite cfg autoMode observed i then
        { poll with
          bank := (setFanPercent cfg poll.bank i (pollTarget cfg autoMode observed i)
            observed.forcedReason).1 }
      else
        { poll with
          bank :=
            { poll.bank with
              states := Function.update poll.bank.states i
                (fanUpdateSafetyState (observed.states i) (pollReason cfg autoMode observed i)) } } := by
  rw [updateFan, if_neg (by simp [daemon]), daemonFan]
  dsimp only
  rw [same]
  rfl

/-- A round leaves its fan in one of the states its write can have. -/
theorem updateFan_daemon_state (daemon : firmwareAutoMode autoMode preset = false) {i : Nat}
    {poll : Poll} (same : poll.bank.states i = observed.states i) :
    (updateFan cfg autoMode preset observed.forcedReason i poll).bank.states i =
      roundState cfg autoMode observed i poll.bank.ec.nextWriteOk := by
  rw [updateFan_daemon daemon same, roundState]
  split
  · dsimp only
    rw [setFanPercent_state_self, setFanDecision, same]
    rfl
  · exact Function.update_self _ _ _

/-- After the rounds every fan is in such a state, the successful one when the writes worked. -/
theorem updateFans_daemon_state (daemon : firmwareAutoMode autoMode preset = false) {i : Nat}
    (below : i < cfg.fanLen) :
    ∃ ok, (WritesWorked observed.ec (updateFans cfg autoMode preset observed).bank.ec → ok = true) ∧
      (updateFans cfg autoMode preset observed).bank.states i =
        roundState cfg autoMode observed i ok := by
  have rounds := @updateFans_induct cfg autoMode preset observed
    (fun count poll => WritesWithin (fun _ => True) observed.ec poll.bank.ec ∧
      ∀ j < count, ∃ ok, (WritesWorked observed.ec poll.bank.ec → ok = true) ∧
        poll.bank.states j = roundState cfg autoMode observed j ok)
    ⟨WritesWithin.refl _, fun j none => absurd none (Nat.not_lt_zero j)⟩ ?_
  · exact rounds.2 i below
  · intro j poll _ same before
    obtain ⟨within, earlier⟩ := before
    have changes := @updateFan_changes cfg autoMode preset observed.forcedReason (fun _ => True) j
      poll (fun _ _ _ => trivial) trivial
    refine ⟨within.trans changes.ec, fun other upTo => ?_⟩
    by_cases here : other = j
    · rw [here]
      have state := @updateFan_daemon_state cfg autoMode preset observed daemon j poll same
      by_cases needs : NeedsWrite cfg autoMode observed j
      · refine ⟨_, fun worked => ?_, state⟩
        -- the write of this round is the next one in the log
        rw [updateFan_daemon daemon same, if_pos needs] at worked
        have next := worked poll.bank.ec.writes.length within.length_le (Nat.lt_succ_self _)
        rw [EcDevice.nextWriteOk, within.writeFails, next]
        rfl
      · rw [roundState, if_neg needs] at state
        exact ⟨true, fun _ => rfl, state.trans (if_neg needs).symm⟩
    · obtain ⟨ok, worked, state⟩ := earlier other (by omega)
      rw [updateFan_state_ne poll here]
      exact ⟨ok, fun all => worked (all.earlier changes.ec), state⟩

/-- The rounds write the speed registers of the written fans, in their order. -/
theorem updateFans_daemon_log (daemon : firmwareAutoMode autoMode preset = false) :
    ∃ newer, (updateFans cfg autoMode preset observed).bank.ec.writes =
        newer ++ observed.ec.writes ∧
      newer.map EcWrite.reg =
        ((writtenFans cfg autoMode observed).map fun i => (cfg.fan i).writeRegister).reverse := by
  refine @updateFans_induct cfg autoMode preset observed
    (fun count poll => ∃ newer, poll.bank.ec.writes = newer ++ observed.ec.writes ∧
      newer.map EcWrite.reg =
        (((List.range count).filter fun i => decide (NeedsWrite cfg autoMode observed i)).map
          fun i => (cfg.fan i).writeRegister).reverse) ⟨[], rfl, rfl⟩ ?_
  intro i poll _ same before
  obtain ⟨newer, log, registers⟩ := before
  rw [updateFan_daemon daemon same, List.range_succ, List.filter_append]
  split
  · rename_i needs
    refine ⟨_ :: newer, congrArg _ log, ?_⟩
    rw [List.map_cons, registers]
    simp [needs]
  · rename_i calm
    refine ⟨newer, log, registers.trans ?_⟩
    simp [calm]

end Daemon

/-! ## The whole poll -/

section WholePoll

variable {cfg : AnsConfig} {bank : FanBank} {sensors : Sensors} {autoMode : Bool}
  {preset : CString}

/-- The state a poll leaves a fan in. -/
theorem updateFanStates_daemon_state (daemon : firmwareAutoMode autoMode preset = false) {i : Nat}
    (below : i < cfg.fanLen) :
    ∃ ok, (WritesWorked bank.ec (updateFanStates bank sensors cfg autoMode preset).ec → ok = true) ∧
      (updateFanStates bank sensors cfg autoMode preset).states i =
        roundState cfg autoMode (refreshFanObservations bank.ec sensors cfg bank.states) i ok := by
  have reads := refreshFanObservations_onlyRead bank.ec sensors cfg bank.states
  obtain ⟨ok, worked, state⟩ := @updateFans_daemon_state cfg autoMode preset
    (refreshFanObservations bank.ec sensors cfg bank.states) daemon i below
  rw [updateFanStates_daemon daemon]
  refine ⟨ok, fun all => worked ?_, state⟩
  intro index lower upper
  rw [reads.writeFails]
  rw [reads.writes] at lower
  exact all index lower upper

/-- A poll does not change which EC reads fail. -/
theorem updateFanStates_daemon_readFails (daemon : firmwareAutoMode autoMode preset = false) :
    (updateFanStates bank sensors cfg autoMode preset).ec.readFails = bank.ec.readFails := by
  have reads := refreshFanObservations_onlyRead bank.ec sensors cfg bank.states
  rw [updateFanStates_daemon daemon]
  refine @updateFans_induct cfg autoMode preset
    (refreshFanObservations bank.ec sensors cfg bank.states)
    (fun _ poll => poll.bank.ec.readFails = bank.ec.readFails) reads.readFails ?_
  intro i poll _ same before
  rw [updateFan_daemon daemon same]
  split
  · exact before
  · exact before

/-- The writes of a poll are those of its written fans. -/
theorem updateFanStates_daemon_writes (daemon : firmwareAutoMode autoMode preset = false) :
    (writesSince bank.ec (updateFanStates bank sensors cfg autoMode preset).ec).map EcWrite.reg =
      ((writtenFans cfg autoMode (refreshFanObservations bank.ec sensors cfg bank.states)).map
        fun i => (cfg.fan i).writeRegister).reverse := by
  have reads := refreshFanObservations_onlyRead bank.ec sensors cfg bank.states
  obtain ⟨newer, log, registers⟩ := @updateFans_daemon_log cfg autoMode preset
    (refreshFanObservations bank.ec sensors cfg bank.states) daemon
  rw [updateFanStates_daemon daemon, writesSince_of_append (log.trans (by rw [reads.writes]))]
  exact registers

/-- A fan that needs a write gets one. -/
theorem updateFanStates_daemon_writes_mem (daemon : firmwareAutoMode autoMode preset = false)
    {i : Nat} (below : i < cfg.fanLen)
    (needs : NeedsWrite cfg autoMode (refreshFanObservations bank.ec sensors cfg bank.states) i) :
    ∃ write ∈ writesSince bank.ec (updateFanStates bank sensors cfg autoMode preset).ec,
      write.reg = (cfg.fan i).writeRegister := by
  have member : (cfg.fan i).writeRegister ∈
      (writesSince bank.ec (updateFanStates bank sensors cfg autoMode preset).ec).map
        EcWrite.reg := by
    rw [updateFanStates_daemon_writes daemon, List.mem_reverse]
    exact List.mem_map_of_mem (mem_writtenFans.mpr ⟨below, needs⟩)
  exact List.mem_map.mp member

end WholePoll

end NitroSense
