import NitroSense.Fan.State
import NitroSense.Json

/-!
# The fan states at startup

The seeding at the head of `main` and `fan/temperature_cache.c`: every fan
starts at its reset speed, with the temperatures the last status file and the
temperature cache recorded for it.
-/

namespace NitroSense

/-- The fan states `main` starts from. -/
def resetSpeedStates (cfg : AnsConfig) : FanStates := fun i =>
  if i < cfg.fanLen then
    { percent := (cfg.fan i).resetSpeed, requestedPercent := (cfg.fan i).resetSpeed }
  else {}

/-- The loop body of `seed_temperatures_from_file`; its search is that of `json_object_with_id`. -/
def seedFanTemperatures (json : CString) (fan : FanConfig) (state : FanState) : FanState :=
  match jsonObjectWithId json fan.id with
  | none => state
  | some fanObj =>
      let temp := jsonIntKey fanObj "temp_c".toList (-1)
      let controlTemp := jsonIntKey fanObj "control_temp_c".toList temp
      let component :=
        if temp > 0 ∧ temp < 130 then { state with tempC := temp, tempSeeded := true } else state
      if controlTemp > 0 ∧ controlTemp < 130 then
        { component with controlTempC := controlTemp, controlTempSeeded := true }
      else component

/-- `seed_temperatures_from_file`; `none` is a file that cannot be read. -/
def seedTemperaturesFromFile (file : Option CString) (cfg : AnsConfig) (states : FanStates) :
    FanStates :=
  match file with
  | none => states
  | some json => fun i =>
      if i < cfg.fanLen then seedFanTemperatures (json.take (64 * 1024)) (cfg.fan i) (states i)
      else states i

/-- `seed_last_temperatures`: the status file first, then the temperature cache. -/
def seedLastTemperatures (statusFile cacheFile : Option CString) (cfg : AnsConfig)
    (states : FanStates) : FanStates :=
  seedTemperaturesFromFile cacheFile cfg (seedTemperaturesFromFile statusFile cfg states)

/-- Seeding changes temperatures and their flags only. -/
structure FanState.SeededFrom (first second : FanState) : Prop where
  pendingSpikeTempC : second.pendingSpikeTempC = first.pendingSpikeTempC
  pendingControlSpikeTempC : second.pendingControlSpikeTempC = first.pendingControlSpikeTempC
  percent : second.percent = first.percent
  requestedPercent : second.requestedPercent = first.requestedPercent
  criticalTempSamples : second.criticalTempSamples = first.criticalTempSamples
  ecReadFailures : second.ecReadFailures = first.ecReadFailures
  ecWriteFailures : second.ecWriteFailures = first.ecWriteFailures
  safetyActive : second.safetyActive = first.safetyActive

theorem FanState.SeededFrom.trans {first second third : FanState}
    (left : first.SeededFrom second) (right : second.SeededFrom third) : first.SeededFrom third :=
  ⟨right.pendingSpikeTempC.trans left.pendingSpikeTempC,
    right.pendingControlSpikeTempC.trans left.pendingControlSpikeTempC,
    right.percent.trans left.percent, right.requestedPercent.trans left.requestedPercent,
    right.criticalTempSamples.trans left.criticalTempSamples,
    right.ecReadFailures.trans left.ecReadFailures,
    right.ecWriteFailures.trans left.ecWriteFailures, right.safetyActive.trans left.safetyActive⟩

theorem seedFanTemperatures_seededFrom (json : CString) (fan : FanConfig) (state : FanState) :
    state.SeededFrom (seedFanTemperatures json fan state) := by
  unfold seedFanTemperatures
  dsimp only
  split
  · exact ⟨rfl, rfl, rfl, rfl, rfl, rfl, rfl, rfl⟩
  · split <;> split <;> exact ⟨rfl, rfl, rfl, rfl, rfl, rfl, rfl, rfl⟩

theorem seedTemperaturesFromFile_seededFrom (file : Option CString) (cfg : AnsConfig)
    (states : FanStates) (i : Nat) :
    (states i).SeededFrom (seedTemperaturesFromFile file cfg states i) := by
  unfold seedTemperaturesFromFile
  split
  · exact ⟨rfl, rfl, rfl, rfl, rfl, rfl, rfl, rfl⟩
  · split
    · exact seedFanTemperatures_seededFrom _ _ _
    · exact ⟨rfl, rfl, rfl, rfl, rfl, rfl, rfl, rfl⟩

theorem seedLastTemperatures_seededFrom (statusFile cacheFile : Option CString) (cfg : AnsConfig)
    (states : FanStates) (i : Nat) :
    (states i).SeededFrom (seedLastTemperatures statusFile cacheFile cfg states i) :=
  (seedTemperaturesFromFile_seededFrom statusFile cfg states i).trans
    (seedTemperaturesFromFile_seededFrom cacheFile cfg _ i)

/-- A control temperature is only seeded with a positive one. -/
theorem seedTemperaturesFromFile_control_nonneg (file : Option CString) (cfg : AnsConfig)
    {states : FanStates} {i : Nat} (nonneg : 0 ≤ (states i).controlTempC) :
    0 ≤ (seedTemperaturesFromFile file cfg states i).controlTempC := by
  unfold seedTemperaturesFromFile
  split
  · exact nonneg
  · split
    · unfold seedFanTemperatures
      dsimp only
      split
      · exact nonneg
      · split
        · rename_i positive
          exact Int.le_of_lt positive.1
        · split
          · exact nonneg
          · exact nonneg
    · exact nonneg

theorem seedLastTemperatures_control_nonneg (statusFile cacheFile : Option CString)
    (cfg : AnsConfig) {states : FanStates} {i : Nat} (nonneg : 0 ≤ (states i).controlTempC) :
    0 ≤ (seedLastTemperatures statusFile cacheFile cfg states i).controlTempC :=
  seedTemperaturesFromFile_control_nonneg cacheFile cfg
    (seedTemperaturesFromFile_control_nonneg statusFile cfg nonneg)

end NitroSense
