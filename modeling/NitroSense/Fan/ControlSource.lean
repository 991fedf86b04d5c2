import NitroSense.Models
import NitroSense.Fan.Observation
import NitroSense.Sensors.Hottest

/-!
# Which temperature drives a fan

A fan with control group `max` is meant to follow the hotter component.  Its
control reading comes from the hwmon and NVML readings of group `max`, or from
its own reading when it has no other group; the EC temperature registers of the
fans are not part of group `max`.
-/

namespace NitroSense

def ComponentGroup (group : CString) : Prop := group = "cpu".toList ∨ group = "gpu".toList

instance (group : CString) : Decidable (ComponentGroup group) :=
  inferInstanceAs (Decidable (_ ∨ _))

/-- Fan `i` follows group `max` and has no EC register of its own for control. -/
structure FollowsMaxGroup (cfg : AnsConfig) (i : Nat) : Prop where
  below : i < cfg.fanLen
  group : (cfg.fan i).controlSensorGroup = "max".toList
  noRegister : (cfg.fan i).controlTemperatureRegister = -1

/--
The control reading of fan `i` is at least its own component's reading and that
of every other fan of a component group.
-/
def ControlCoversComponents (cfg : AnsConfig) (states : FanStates) (i : Nat) : Prop :=
  (states i).sensorTempC ≤ (states i).controlSensorTempC ∧
    ∀ j < cfg.fanLen, j ≠ i → ComponentGroup (cfg.fan j).sensorGroup →
      (states j).sensorTempC ≤ (states i).controlSensorTempC

section Poll

variable (ec : EcDevice) (sensors : Sensors) (cfg : AnsConfig) (states : FanStates) (i : Nat)

/-- What the EC temperature register of fan `i` gave in the poll, -1 for no reading. -/
def ecTemperature : Int := (pollReading ec sensors cfg i).ecSensorTemp

/-- What the sensors say about the component of fan `i`. -/
def componentReading : Int :=
  if ecTemperature ec sensors cfg i ≥ 0 then ecTemperature ec sensors cfg i
  else sensorReadGroupMaxC sensors (cfg.fan i).sensorGroup

/--
The EC readings fit under the reading fan `i` follows.  Usually that is group
`max` of hwmon and NVML.  A fan whose own group is `max` follows its own EC
register while that can be read, so that register has to cover the other
components by itself.
-/
def EcReadingsCovered : Prop :=
  if (cfg.fan i).sensorGroup = "max".toList ∧ ecTemperature ec sensors cfg i ≥ 0 then
    ∀ j < cfg.fanLen, j ≠ i → ComponentGroup (cfg.fan j).sensorGroup →
      componentReading ec sensors cfg j ≤ ecTemperature ec sensors cfg i
  else
    ∀ j < cfg.fanLen, j = i ∨ ComponentGroup (cfg.fan j).sensorGroup →
      ecTemperature ec sensors cfg j ≤ sensorReadGroupMaxC sensors "max".toList

variable {ec sensors cfg i}

theorem pollReading_sensorTemp :
    (pollReading ec sensors cfg i).sensorTemp = componentReading ec sensors cfg i := rfl

/-- The control reading of a fan that follows group `max`. -/
theorem pollReading_controlSensorTemp (follows : FollowsMaxGroup cfg i) :
    (pollReading ec sensors cfg i).controlSensorTemp =
      if (cfg.fan i).sensorGroup = "max".toList then componentReading ec sensors cfg i
      else sensorReadGroupMaxC sensors "max".toList := by
  rw [← pollReading_sensorTemp]
  unfold pollReading
  generalize Lib.loop i _ ec = device
  unfold readFan
  dsimp only
  rw [follows.noRegister, readEcTemperatureC_none]
  dsimp only
  rw [if_neg (by decide)]
  have uses : usesControlGroup (cfg.fan i) = !decide ((cfg.fan i).sensorGroup = "max".toList) := by
    rw [usesControlGroup, follows.group, decide_eq_true (by decide : "max".toList ≠ []),
      Bool.true_and, ← decide_not]
    exact decide_eq_decide.mpr ne_comm
  rw [uses, follows.group]
  by_cases own : (cfg.fan i).sensorGroup = "max".toList
  · rw [if_pos own, decide_eq_true own]
    rfl
  · rw [if_neg own, decide_eq_false own]
    rfl

theorem refreshed_sensorTempC (below : i < cfg.fanLen) :
    ((refreshFanObservations ec sensors cfg states).states i).sensorTempC =
      componentReading ec sensors cfg i := by
  rw [refreshFanObservations_states, if_pos below]
  rfl

theorem refreshed_controlSensorTempC (below : i < cfg.fanLen) :
    ((refreshFanObservations ec sensors cfg states).states i).controlSensorTempC =
      (pollReading ec sensors cfg i).controlSensorTemp := by
  rw [refreshFanObservations_states, if_pos below]
  rfl

theorem componentReading_of_unread (unread : ¬ ecTemperature ec sensors cfg i ≥ 0) :
    componentReading ec sensors cfg i = sensorReadGroupMaxC sensors (cfg.fan i).sensorGroup :=
  if_neg unread

/-- Against group `max`, a component reading is covered when its EC reading is. -/
theorem componentReading_le_max (noFakes : sensors.NoFakes) (j : Nat) :
    componentReading ec sensors cfg j ≤ sensorReadGroupMaxC sensors "max".toList ↔
      ecTemperature ec sensors cfg j ≤ sensorReadGroupMaxC sensors "max".toList := by
  by_cases read : ecTemperature ec sensors cfg j ≥ 0
  · rw [componentReading, if_pos read]
  · have lower := sensorReadGroupMaxC_ge noFakes "max".toList
    rw [componentReading_of_unread read]
    exact ⟨fun _ => by omega, fun _ => group_le_max noFakes _⟩

/-- The control reading covers the components exactly when the EC readings fit under it. -/
theorem controlCoversComponents_iff (noFakes : sensors.NoFakes) (follows : FollowsMaxGroup cfg i) :
    ControlCoversComponents cfg (refreshFanObservations ec sensors cfg states).states i ↔
      EcReadingsCovered ec sensors cfg i := by
  have others : (∀ j < cfg.fanLen, j ≠ i → ComponentGroup (cfg.fan j).sensorGroup →
      ((refreshFanObservations ec sensors cfg states).states j).sensorTempC ≤
        ((refreshFanObservations ec sensors cfg states).states i).controlSensorTempC) ↔
      ∀ j < cfg.fanLen, j ≠ i → ComponentGroup (cfg.fan j).sensorGroup →
        componentReading ec sensors cfg j ≤
          (pollReading ec sensors cfg i).controlSensorTemp := by
    refine forall_congr' fun j => forall_congr' fun below => ?_
    rw [refreshed_sensorTempC states below, refreshed_controlSensorTempC states follows.below]
  rw [ControlCoversComponents, others, refreshed_sensorTempC states follows.below,
    refreshed_controlSensorTempC states follows.below, pollReading_controlSensorTemp follows,
    EcReadingsCovered]
  by_cases own : (cfg.fan i).sensorGroup = "max".toList
  · rw [if_pos own]
    by_cases read : ecTemperature ec sensors cfg i ≥ 0
    · rw [if_pos ⟨own, read⟩, componentReading, if_pos read]
      exact ⟨fun covered => covered.2, fun covered => ⟨le_refl _, covered⟩⟩
    · rw [if_neg fun both => read both.2, componentReading_of_unread read, own]
      have self : ecTemperature ec sensors cfg i ≤ sensorReadGroupMaxC sensors "max".toList :=
        (componentReading_le_max noFakes i).mp (by rw [componentReading_of_unread read, own])
      constructor
      · intro covered j below which
        by_cases same : j = i
        · exact same ▸ self
        · exact (componentReading_le_max noFakes j).mp
            (covered.2 j below same (which.resolve_left same))
      · intro covered
        refine ⟨le_refl _, fun j below _ component => ?_⟩
        exact (componentReading_le_max noFakes j).mpr (covered j below (Or.inr component))
  · rw [if_neg own, if_neg fun both => own both.1]
    constructor
    · intro covered j below which
      refine (componentReading_le_max noFakes j).mp ?_
      by_cases same : j = i
      · exact same ▸ covered.1
      · exact covered.2 j below same (which.resolve_left same)
    · intro covered
      refine ⟨(componentReading_le_max noFakes i).mpr (covered i follows.below (Or.inl rfl)), ?_⟩
      intro j below _ component
      exact (componentReading_le_max noFakes j).mpr (covered j below (Or.inr component))

end Poll

/-! ## The shipped profile -/

def gpuTemperatureEc (temp : UInt8) : EcDevice where
  regs := fun reg => if reg = 42 then temp else 0

theorem gpuFan_followsMaxGroup : FollowsMaxGroup AcerNitroAn517.config 1 where
  below := by decide
  group := rfl
  noRegister := rfl

/-- With the GPU at 85 °C both shipped fans are controlled by the 50 °C of the CPU. -/
theorem controlCoversComponents_fails :
    ¬ ∀ (cfg : AnsConfig) (ec : EcDevice) (sensors : Sensors) (states : FanStates) (i : Nat),
      cfg.Valid → sensors.NoFakes → FollowsMaxGroup cfg i →
        ControlCoversComponents cfg (refreshFanObservations ec sensors cfg states).states i := by
  intro claim
  have covered := claim AcerNitroAn517.config (gpuTemperatureEc 85) (AcerNitroAn517.cpuSensors 50)
    (fun _ => {}) 1 AcerNitroAn517.config_valid ⟨rfl, rfl⟩ gpuFan_followsMaxGroup
  exact absurd covered.1 (by decide)

/-- With the GPU register at 45 °C the CPU's 50 °C covers both components. -/
theorem controlCoversComponents_cool :
    ControlCoversComponents AcerNitroAn517.config
      (refreshFanObservations (gpuTemperatureEc 45) (AcerNitroAn517.cpuSensors 50)
        AcerNitroAn517.config fun _ => {}).states 1 := by
  refine (controlCoversComponents_iff _ ⟨rfl, rfl⟩ gpuFan_followsMaxGroup).mpr ?_
  rw [EcReadingsCovered, if_neg (by decide)]
  decide

end NitroSense
