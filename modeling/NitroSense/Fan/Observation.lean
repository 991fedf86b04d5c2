import NitroSense.Ec
import NitroSense.Sensors
import NitroSense.Fan.State
import NitroSense.Lib.Loop

/-!
# Observing the fans

`fan/temperature_filter.c` and `fan/observation.c`: one poll reads every fan's
EC registers and sensors, filters the two temperatures of each fan, counts
critical samples and EC read failures, and returns the reason it forces.
-/

namespace NitroSense

open Lib

def tempSpikeFilterDeltaC : Int := 15

def tempSpikeAcceptDeltaC : Int := 3

/-- `fan_filtered_sensor_temp`: the filtered temperature and the new pending spike. -/
def fanFilteredSensorTemp (currentTemp pendingSpikeTemp sensorTemp : Int) (trustedBaseline : Bool)
    (criticalTemperatureC : Int) : Int × Int :=
  if sensorTemp < 0 then (sensorTemp, 0)
  else if !trustedBaseline && decide (sensorTemp ≥ criticalTemperatureC) then
    if pendingSpikeTemp > 0 ∧ (sensorTemp - pendingSpikeTemp).natAbs ≤ tempSpikeAcceptDeltaC then
      (sensorTemp, 0)
    else (-1, sensorTemp)
  else if currentTemp > 0 ∧ sensorTemp > currentTemp ∧
      sensorTemp - currentTemp ≥ tempSpikeFilterDeltaC then
    if pendingSpikeTemp > 0 ∧ (sensorTemp - pendingSpikeTemp).natAbs ≤ tempSpikeAcceptDeltaC then
      (sensorTemp, 0)
    else (currentTemp, sensorTemp)
  else (sensorTemp, 0)

/-- The part of `refresh_fan_observations` that updates one temperature channel. -/
def TempChannel.refresh (channel : TempChannel) (sensorTemp criticalTemperatureC : Int) :
    TempChannel :=
  if sensorTemp ≥ 0 then
    let filtered := fanFilteredSensorTemp channel.tempC channel.pendingSpikeTempC sensorTemp
      channel.seeded criticalTemperatureC
    if filtered.1 ≥ 0 then ⟨filtered.1, filtered.2, true, true⟩
    else ⟨if channel.tempC ≤ 0 then -1 else channel.tempC, filtered.2, false, channel.seeded⟩
  else
    { channel with tempC := if channel.tempC ≤ 0 then -1 else channel.tempC, available := false }

structure FanReading where
  raw : Int
  writeValue : Int
  ecSensorTemp : Int
  sensorTemp : Int
  controlSensorTemp : Int
  deriving DecidableEq, Repr

def readEcTemperatureC (ec : EcDevice) (reg : Int) : EcDevice × Int :=
  let temp := if reg ≥ 0 then ecReadByte ec reg else (ec, -1)
  (temp.1, if temp.2 ≤ 0 ∨ temp.2 > 130 then -1 else temp.2)

/-- The fan's control group when it differs from its own group. -/
def usesControlGroup (fan : FanConfig) : Bool :=
  fan.controlSensorGroup ≠ [] && fan.controlSensorGroup ≠ fan.sensorGroup

/-- The reads at the head of the loop body, in their order. -/
def readFan (ec : EcDevice) (sensors : Sensors) (cfg : AnsConfig) (fan : FanConfig) :
    EcDevice × FanReading :=
  let raw := if cfg.readWords then ecReadWord ec fan.readRegister else ecReadByte ec fan.readRegister
  let writeValue := ecReadByte raw.1 fan.writeRegister
  let ecSensorTemp := readEcTemperatureC writeValue.1 fan.temperatureRegister
  let sensorTemp :=
    if ecSensorTemp.2 ≥ 0 then ecSensorTemp.2 else sensorReadGroupMaxC sensors fan.sensorGroup
  let ecControlSensorTemp := readEcTemperatureC ecSensorTemp.1 fan.controlTemperatureRegister
  let controlSensorTemp :=
    if ecControlSensorTemp.2 ≥ 0 then ecControlSensorTemp.2
    else if usesControlGroup fan then sensorReadGroupMaxC sensors fan.controlSensorGroup
    else sensorTemp
  (ecControlSensorTemp.1, ⟨raw.2, writeValue.2, ecSensorTemp.2, sensorTemp, controlSensorTemp⟩)

/-- The critical-sample counter after a poll left `channel` as the control channel. -/
def countCriticalSample (cfg : AnsConfig) (channel : TempChannel) (samples : Int) : Int :=
  if channel.available && decide (channel.tempC ≥ cfg.criticalTemperatureC) then
    if samples < cfg.safety.criticalConsecutiveSamples then samples + 1 else samples
  else if channel.available && decide (channel.tempC ≤ cfg.safety.criticalReleaseTemperatureC) then 0
  else samples

/-- The read-failure counter after a poll read `raw` as the fan speed. -/
def countReadFailure (cfg : AnsConfig) (raw failures : Int) : Int :=
  if raw < 0 then
    if failures < cfg.safety.maxEcReadFailures + 1 then failures + 1 else failures
  else 0

/-- The rest of the loop body: what the readings of a fan do to its state. -/
def observeFan (cfg : AnsConfig) (state : FanState) (reading : FanReading) : FanState :=
  let component := state.component.refresh reading.sensorTemp cfg.criticalTemperatureC
  let control := state.control.refresh reading.controlSensorTemp cfg.criticalTemperatureC
  { (state.setComponent component).setControl control with
    rpm := if reading.raw < 0 then -1 else reading.raw
    ecReadFailures := countReadFailure cfg reading.raw state.ecReadFailures
    writeValue := reading.writeValue
    sensorTempC := reading.sensorTemp
    controlSensorTempC := reading.controlSensorTemp
    criticalTempSamples := countCriticalSample cfg control state.criticalTempSamples }

/-- How an observed fan changes the forced reason of the fans before it. -/
def forcedByFan (cfg : AnsConfig) (state : FanState) (forced : SafetyReason) : SafetyReason :=
  if state.ecReadFailures ≥ cfg.safety.maxEcReadFailures then .ecReadFailure
  else if state.criticalTempSamples ≥ cfg.safety.criticalConsecutiveSamples ∧ forced = .none then
    .criticalTemperature
  else forced

/-- What `refresh_fan_observations` threads through its loop. -/
structure Observation where
  ec : EcDevice
  states : FanStates
  forcedReason : SafetyReason

def observeRound (sensors : Sensors) (cfg : AnsConfig) (i : Nat) (acc : Observation) :
    Observation :=
  let read := readFan acc.ec sensors cfg (cfg.fan i)
  let state := observeFan cfg (acc.states i) read.2
  ⟨read.1, Function.update acc.states i state, forcedByFan cfg state acc.forcedReason⟩

def refreshFanObservations (ec : EcDevice) (sensors : Sensors) (cfg : AnsConfig)
    (states : FanStates) : Observation :=
  loop cfg.fanLen (observeRound sensors cfg) ⟨ec, states, .none⟩

/-! ## Reading -/

open EcDevice

theorem readEcTemperatureC_onlyRead (ec : EcDevice) (reg : Int) :
    OnlyRead ec (readEcTemperatureC ec reg).1 := by
  simp only [readEcTemperatureC]
  split
  · exact ecReadByte_onlyRead ec reg
  · exact OnlyRead.refl ec

/-- An EC temperature is -1 or a plausible number of degrees. -/
theorem readEcTemperatureC_range (ec : EcDevice) (reg : Int) :
    (readEcTemperatureC ec reg).2 = -1 ∨
      (1 ≤ (readEcTemperatureC ec reg).2 ∧ (readEcTemperatureC ec reg).2 ≤ 130) := by
  unfold readEcTemperatureC
  generalize (if reg ≥ 0 then ecReadByte ec reg else (ec, -1)) = temp
  dsimp only
  by_cases implausible : temp.2 ≤ 0 ∨ temp.2 > 130
  · exact Or.inl (if_pos implausible)
  · rw [if_neg implausible]
    omega

theorem readEcTemperatureC_none (ec : EcDevice) : readEcTemperatureC ec (-1) = (ec, -1) := by
  simp [readEcTemperatureC]

theorem readFan_onlyRead (ec : EcDevice) (sensors : Sensors) (cfg : AnsConfig) (fan : FanConfig) :
    OnlyRead ec (readFan ec sensors cfg fan).1 := by
  simp only [readFan]
  refine OnlyRead.trans ?_ (readEcTemperatureC_onlyRead _ _)
  refine OnlyRead.trans ?_ (readEcTemperatureC_onlyRead _ _)
  refine OnlyRead.trans ?_ (ecReadByte_onlyRead _ _)
  split
  · exact ecReadWord_onlyRead ec _
  · exact ecReadByte_onlyRead ec _

theorem refreshFanObservations_onlyRead (ec : EcDevice) (sensors : Sensors) (cfg : AnsConfig)
    (states : FanStates) : OnlyRead ec (refreshFanObservations ec sensors cfg states).ec := by
  refine loop_preserves (fun acc : Observation => OnlyRead ec acc.ec) (OnlyRead.refl ec) ?_
  intro i acc _ before
  exact before.trans (readFan_onlyRead acc.ec sensors cfg (cfg.fan i))

/-! ## The readings of a poll -/

/-- The readings of fan `i` in a poll, taken after those of the fans before it. -/
def pollReading (ec : EcDevice) (sensors : Sensors) (cfg : AnsConfig) (i : Nat) : FanReading :=
  (readFan (loop i (fun j before => (readFan before sensors cfg (cfg.fan j)).1) ec) sensors cfg
    (cfg.fan i)).2

/-- After `count` rounds the fans below `count` are observed, the others untouched. -/
theorem observeRounds_spec (ec : EcDevice) (sensors : Sensors) (cfg : AnsConfig)
    (states : FanStates) (count : Nat) :
    let acc := loop count (observeRound sensors cfg) ⟨ec, states, .none⟩
    acc.ec = loop count (fun j before => (readFan before sensors cfg (cfg.fan j)).1) ec ∧
      ∀ i, acc.states i =
        if i < count then observeFan cfg (states i) (pollReading ec sensors cfg i) else states i := by
  induction count with
  | zero => simp
  | succ count ih =>
      obtain ⟨device, observed⟩ := ih
      simp only [loop_succ, observeRound]
      refine ⟨by rw [device], fun i => ?_⟩
      by_cases here : i = count
      · rw [here, Function.update_self, observed, if_neg (Nat.lt_irrefl count),
          if_pos (Nat.lt_succ_self count), pollReading, device]
      · have same : i < count + 1 ↔ i < count := by omega
        rw [Function.update_of_ne here, observed]
        simp only [same]

/-- The forced reason after one more round. -/
theorem observeRounds_forced_succ (ec : EcDevice) (sensors : Sensors) (cfg : AnsConfig)
    (states : FanStates) (count : Nat) :
    (loop (count + 1) (observeRound sensors cfg) ⟨ec, states, .none⟩).forcedReason =
      forcedByFan cfg (observeFan cfg (states count) (pollReading ec sensors cfg count))
        (loop count (observeRound sensors cfg) ⟨ec, states, .none⟩).forcedReason := by
  obtain ⟨device, observed⟩ := observeRounds_spec ec sensors cfg states count
  rw [loop_succ, observeRound]
  dsimp only
  rw [observed count, if_neg (Nat.lt_irrefl count), device, pollReading]

/-- A poll observes each configured fan from its own readings. -/
theorem refreshFanObservations_states (ec : EcDevice) (sensors : Sensors) (cfg : AnsConfig)
    (states : FanStates) (i : Nat) :
    (refreshFanObservations ec sensors cfg states).states i =
      if i < cfg.fanLen then observeFan cfg (states i) (pollReading ec sensors cfg i)
      else states i :=
  (observeRounds_spec ec sensors cfg states cfg.fanLen).2 i

/-- Observing keeps what the last writes recorded. -/
theorem refreshFanObservations_recorded (ec : EcDevice) (sensors : Sensors) (cfg : AnsConfig)
    (states : FanStates) (i : Nat) :
    ((refreshFanObservations ec sensors cfg states).states i).percent = (states i).percent ∧
      ((refreshFanObservations ec sensors cfg states).states i).requestedPercent =
        (states i).requestedPercent ∧
      ((refreshFanObservations ec sensors cfg states).states i).ecWriteFailures =
        (states i).ecWriteFailures := by
  rw [refreshFanObservations_states]
  split
  · exact ⟨rfl, rfl, rfl⟩
  · exact ⟨rfl, rfl, rfl⟩

end NitroSense
