import NitroSense.Daemon.Activity

/-!
# What holds of every fan state

The fields of a fan state are written by the start, by the poll's observation
and by fan control.  Each of these keeps the invariant, whatever the sensors,
the state files and the EC give it.
-/

namespace NitroSense

open Lib

/-- An available temperature has been seeded and is not negative. -/
structure TempChannel.WellFormed (channel : TempChannel) : Prop where
  seeded : channel.available = true → channel.seeded = true
  nonneg : channel.available = true → 0 ≤ channel.tempC

structure FanState.WellFormed (cfg : AnsConfig) (state : FanState) : Prop where
  percent : configSpeedValueValid state.percent
  requestedPercent : configSpeedValueValid state.requestedPercent
  criticalTempSamples : 0 ≤ state.criticalTempSamples ∧
    state.criticalTempSamples ≤ cfg.safety.criticalConsecutiveSamples
  ecReadFailures : 0 ≤ state.ecReadFailures ∧
    state.ecReadFailures ≤ cfg.safety.maxEcReadFailures + 1
  ecWriteFailures : 0 ≤ state.ecWriteFailures ∧
    state.ecWriteFailures ≤ cfg.safety.maxEcWriteFailures + 1
  safetyActive : state.safetyActive = true ↔ state.safetyReason ≠ .none
  component : state.component.WellFormed
  control : state.control.WellFormed

def FanStates.WellFormed (cfg : AnsConfig) (states : FanStates) : Prop :=
  ∀ i, (states i).WellFormed cfg

section Keeps

variable {cfg : AnsConfig} {state : FanState} {states : FanStates}

/-- A new fan state at a speed of the profile. -/
theorem newFanState_wellFormed (valid : cfg.Valid) {speed : Int}
    (bounds : configSpeedValueValid speed) :
    ({ percent := speed, requestedPercent := speed } : FanState).WellFormed cfg := by
  have samples : 0 ≤ cfg.safety.criticalConsecutiveSamples :=
    le_trans (by decide) valid.safety.criticalConsecutiveSamples.1
  obtain ⟨reads, -⟩ := valid.safety.maxEcReadFailures
  obtain ⟨writes, -⟩ := valid.safety.maxEcWriteFailures
  exact {
    percent := bounds
    requestedPercent := bounds
    criticalTempSamples := ⟨le_refl 0, samples⟩
    ecReadFailures := ⟨le_refl 0, show (0 : Int) ≤ cfg.safety.maxEcReadFailures + 1 by omega⟩
    ecWriteFailures := ⟨le_refl 0, show (0 : Int) ≤ cfg.safety.maxEcWriteFailures + 1 by omega⟩
    safetyActive := by simp
    component := ⟨nofun, nofun⟩
    control := ⟨nofun, nofun⟩ }

theorem FanStates.WellFormed.update (kept : FanStates.WellFormed cfg states) (i : Nat)
    (here : state.WellFormed cfg) :
    FanStates.WellFormed cfg (Function.update states i state) := by
  intro j
  by_cases same : j = i
  · rw [same, Function.update_self]
    exact here
  · rw [Function.update_of_ne same]
    exact kept j

/-! ## The observation of a poll -/

/-- What a channel makes available it has just read and seeded. -/
theorem TempChannel.refresh_wellFormed (channel : TempChannel)
    (sensorTemp criticalTemperatureC : Int) :
    (channel.refresh sensorTemp criticalTemperatureC).WellFormed := by
  unfold TempChannel.refresh
  dsimp only
  split
  · split
    · rename_i accepted
      exact ⟨fun _ => rfl, fun _ => accepted⟩
    · exact ⟨nofun, nofun⟩
  · exact ⟨nofun, nofun⟩

theorem countCriticalSample_bounds (valid : cfg.Valid) (channel : TempChannel) {samples : Int}
    (bounds : 0 ≤ samples ∧ samples ≤ cfg.safety.criticalConsecutiveSamples) :
    0 ≤ countCriticalSample cfg channel samples ∧
      countCriticalSample cfg channel samples ≤ cfg.safety.criticalConsecutiveSamples := by
  have limit := valid.safety.criticalConsecutiveSamples.1
  unfold countCriticalSample
  split
  · split
    · omega
    · exact bounds
  · split
    · omega
    · exact bounds

theorem countReadFailure_bounds (valid : cfg.Valid) (raw : Int) {failures : Int}
    (bounds : 0 ≤ failures ∧ failures ≤ cfg.safety.maxEcReadFailures + 1) :
    0 ≤ countReadFailure cfg raw failures ∧
      countReadFailure cfg raw failures ≤ cfg.safety.maxEcReadFailures + 1 := by
  have limit := valid.safety.maxEcReadFailures.1
  unfold countReadFailure
  split
  · split
    · omega
    · exact bounds
  · omega

theorem observeFan_wellFormed (valid : cfg.Valid) (reading : FanReading)
    (kept : state.WellFormed cfg) : (observeFan cfg state reading).WellFormed cfg where
  percent := kept.percent
  requestedPercent := kept.requestedPercent
  criticalTempSamples := countCriticalSample_bounds valid _ kept.criticalTempSamples
  ecReadFailures := countReadFailure_bounds valid _ kept.ecReadFailures
  ecWriteFailures := kept.ecWriteFailures
  safetyActive := kept.safetyActive
  component := TempChannel.refresh_wellFormed state.component _ _
  control := TempChannel.refresh_wellFormed state.control _ _

theorem refreshFanObservations_wellFormed (valid : cfg.Valid) (ec : EcDevice) (sensors : Sensors)
    (kept : FanStates.WellFormed cfg states) :
    FanStates.WellFormed cfg (refreshFanObservations ec sensors cfg states).states := by
  intro i
  rw [refreshFanObservations_states]
  split
  · exact observeFan_wellFormed valid _ (kept i)
  · exact kept i

/-! ## Fan control -/

theorem fanUpdateSafetyState_wellFormed (reason : SafetyReason) (kept : state.WellFormed cfg) :
    (fanUpdateSafetyState state reason).WellFormed cfg :=
  { kept with safetyActive := SafetyReason.hasValue_eq_true }

theorem keepTarget_wellFormed (percent : Int) (kept : state.WellFormed cfg) :
    (keepTarget state (clampInt percent 1 100)).WellFormed cfg := by
  obtain ⟨lower, upper⟩ := clampInt_percent_bounds percent
  have speed : configSpeedValueValid (clampInt percent 1 100) :=
    ⟨le_trans (by decide) lower, upper⟩
  exact fanUpdateSafetyState_wellFormed .none
    { kept with percent := speed, requestedPercent := speed }

/-- Either outcome of a fan write leaves a well-formed state. -/
theorem recordFanWrite_wellFormed (valid : cfg.Valid) (requestedPercent : Int)
    {adjusted : Int × SafetyReason} (speed : configSpeedValueValid adjusted.1) (ok : Bool)
    (kept : state.WellFormed cfg) :
    (recordFanWrite cfg state requestedPercent adjusted ok).WellFormed cfg := by
  obtain ⟨lower, upper⟩ := clampInt_percent_bounds requestedPercent
  have limit := valid.safety.maxEcWriteFailures.1
  have failures := kept.ecWriteFailures
  cases ok with
  | true =>
      exact { kept with
        percent := speed
        requestedPercent := ⟨le_trans (by decide) lower, upper⟩
        ecWriteFailures := ⟨le_refl 0, show (0 : Int) ≤ cfg.safety.maxEcWriteFailures + 1 by omega⟩
        safetyActive := SafetyReason.hasValue_eq_true }
  | false =>
      refine fanUpdateSafetyState_wellFormed .ecWriteFailure { kept with ecWriteFailures := ?_ }
      dsimp only
      split
      · omega
      · exact failures

theorem setFanPercent_wellFormed (valid : cfg.Valid) {bank : FanBank} {i : Nat}
    (below : i < cfg.fanLen) (requestedPercent : Int) (forcedReason : SafetyReason)
    (kept : FanStates.WellFormed cfg bank.states) :
    FanStates.WellFormed cfg (setFanPercent cfg bank i requestedPercent forcedReason).1.states :=
  kept.update i (recordFanWrite_wellFormed valid requestedPercent
    (fanSafetyAdjustPercent_speed valid.safety (valid.fan below) _ _ _) _ (kept i))

/-- Fan control keeps the states of a bank well-formed. -/
theorem FanActivity.wellFormed {access : EcDevice → EcDevice → Prop}
    {sets : FanBank → Nat → Int → SafetyReason → Prop} {first second : FanBank}
    (valid : cfg.Valid) (activity : FanActivity cfg access sets first second)
    (kept : FanStates.WellFormed cfg first.states) :
    FanStates.WellFormed cfg second.states := by
  refine activity.preserves (fun bank => FanStates.WellFormed cfg bank.states) kept ?_ ?_ ?_ ?_
  · intro bank ec before _
    exact before
  · intro bank i requestedPercent forcedReason before below _
    exact setFanPercent_wellFormed valid below requestedPercent forcedReason before
  · intro bank i reason before
    exact before.update i (fanUpdateSafetyState_wellFormed reason (before i))
  · intro bank i percent before
    exact before.update i (keepTarget_wellFormed percent (before i))

/-! ## The start -/

theorem resetSpeed_speed (valid : cfg.Valid) {i : Nat} (below : i < cfg.fanLen) :
    configSpeedValueValid (cfg.fan i).resetSpeed := by
  have fan := valid.fan below
  exact ⟨le_trans fan.writeMin fan.resetSpeed.1, le_trans fan.resetSpeed.2 fan.writeMax⟩

theorem resetSpeedStates_wellFormed (valid : cfg.Valid) :
    FanStates.WellFormed cfg (resetSpeedStates cfg) := by
  intro i
  unfold resetSpeedStates
  split
  · rename_i below
    exact newFanState_wellFormed valid (resetSpeed_speed valid below)
  · exact newFanState_wellFormed valid ⟨le_refl 0, by decide⟩

/-- A seeded temperature is positive, and seeding makes nothing available. -/
theorem seedFanTemperatures_wellFormed (json : CString) (fan : FanConfig)
    (kept : state.WellFormed cfg) : (seedFanTemperatures json fan state).WellFormed cfg := by
  unfold seedFanTemperatures
  split
  · exact kept
  · rename_i fanObj found
    dsimp only
    generalize jsonIntKey fanObj "temp_c".toList (-1) = temp
    generalize jsonIntKey fanObj "control_temp_c".toList temp = controlTemp
    have component : FanState.WellFormed cfg
        (if temp > 0 ∧ temp < 130 then { state with tempC := temp, tempSeeded := true }
        else state) := by
      split
      · rename_i credible
        exact { kept with component := ⟨fun _ => rfl, fun _ => le_of_lt credible.1⟩ }
      · exact kept
    split
    · rename_i credible
      exact { component with control := ⟨fun _ => rfl, fun _ => le_of_lt credible.1⟩ }
    · exact component

theorem seedTemperaturesFromFile_wellFormed (file : Option CString)
    (kept : FanStates.WellFormed cfg states) :
    FanStates.WellFormed cfg (seedTemperaturesFromFile file cfg states) := by
  intro i
  unfold seedTemperaturesFromFile
  split
  · exact kept i
  · split
    · exact seedFanTemperatures_wellFormed _ _ (kept i)
    · exact kept i

/-- A saved percent is a percent, or the reset speed. -/
theorem savedPercent_speed (valid : cfg.Valid) (json : CString) {i : Nat}
    (below : i < cfg.fanLen) : configSpeedValueValid (savedPercent cfg json i) := by
  have fallback := resetSpeed_speed valid below
  unfold savedPercent jsonSavedPercentForFan
  split
  · exact fallback
  · dsimp only
    split
    · exact fallback
    · rename_i accepted
      exact ⟨by omega, by omega⟩

theorem restoreSavedFanTargets_wellFormed (valid : cfg.Valid) (json : CString)
    (kept : FanStates.WellFormed cfg states) :
    FanStates.WellFormed cfg (restoreSavedFanTargets cfg states json) := by
  intro i
  unfold restoreSavedFanTargets
  split
  · rename_i below
    have speed := savedPercent_speed valid json below
    exact { kept i with percent := speed, requestedPercent := speed }
  · exact kept i

theorem startStates_wellFormed (valid : cfg.Valid) {daemon : Daemon}
    (kept : FanStates.WellFormed cfg daemon.states) :
    FanStates.WellFormed cfg (startStates cfg daemon) := by
  unfold startStates
  split
  · exact kept
  · unfold restoredTargets
    dsimp only
    split
    · exact restoreSavedFanTargets_wellFormed valid _ kept
    · exact kept

/-- The daemon starts with well-formed fan states, whatever the state files contain. -/
theorem startDaemon_wellFormed (valid : cfg.Valid) (boot : Boot) :
    FanStates.WellFormed cfg (startDaemon cfg boot).states := by
  have seeded : FanStates.WellFormed cfg (bootedDaemon cfg boot).states :=
    seedTemperaturesFromFile_wellFormed _
      (seedTemperaturesFromFile_wellFormed _ (resetSpeedStates_wellFormed valid))
  have activity := @startDaemon_activity cfg (ModeAccess cfg) (fun _ _ _ _ => True)
    ModeAccess.switches boot (fun _ _ _ _ _ => trivial)
  exact activity.wellFormed valid (startStates_wellFormed valid seeded)

/-! ## Runs of the daemon -/

/-- An event keeps the fan states well-formed. -/
theorem step_wellFormed (valid : cfg.Valid) {daemon : Daemon} (event : Event)
    (kept : FanStates.WellFormed cfg daemon.states) :
    FanStates.WellFormed cfg (daemon.step cfg event).states := by
  cases running : daemon.running with
  | false =>
      rw [Daemon.step, if_pos running]
      exact kept
  | true =>
      have deciding : FanStates.WellFormed cfg (daemon.decidingBank cfg event).states := by
        rw [decidingBank_states]
        cases daemon.polled cfg event with
        | none => exact kept
        | some source => exact refreshFanObservations_wellFormed valid _ _ kept
      have activity := @step_activity cfg (fun _ _ _ _ => True) daemon event running
        (fun _ _ _ _ _ => trivial) (fun _ _ _ _ _ => trivial)
      exact activity.wellFormed valid deciding

/-- After every start and every run, each fan state is well-formed. -/
theorem fanStates_wellFormed (valid : cfg.Valid) (boot : Boot) (events : List Event) :
    FanStates.WellFormed cfg (run (Daemon.step cfg) (startDaemon cfg boot) events).states :=
  run_preserves (fun daemon : Daemon => FanStates.WellFormed cfg daemon.states)
    (startDaemon_wellFormed valid boot) (fun _ event kept => step_wellFormed valid event kept) events

end Keeps

/-! ## The shipped profile -/

/-- The shipped daemon starts without state files and polls at 95 °C, then serves a command. -/
theorem fanStates_wellFormed_hot :
    let host : Host := { sensors := AcerNitroAn517.cpuSensors 95 }
    FanStates.WellFormed AcerNitroAn517.config
      (run (Daemon.step AcerNitroAn517.config)
        (startDaemon AcerNitroAn517.config ⟨{ regs := fun _ => 0 }, host, none, none, none⟩)
        [.poll host, .command host "set all 20".toList]).states :=
  fanStates_wellFormed AcerNitroAn517.config_valid _ _

end NitroSense
