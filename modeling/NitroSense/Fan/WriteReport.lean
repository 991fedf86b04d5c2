import Mathlib.Data.Int.Order.Lemmas
import NitroSense.Fan.Safety

/-!
# What a fan write reports

`set_fan_percent` records the speed the policy decided on, while
`fan_write_percent_raw` clamps that speed once more before it writes it.  The
two are the same number when the policy has clamped it already.  Only the
branch for a missing temperature does not.
-/

namespace NitroSense

open Lib EcDevice

/-- The fan write succeeded, and everything that reports its speed agrees with the register. -/
structure WriteReported (cfg : AnsConfig) (i : Nat) (after : FanBank) (result : Int) : Prop where
  percent : (after.states i).percent = result
  writeValue : (after.states i).writeValue = result
  register : after.ec.byte (cfg.fan i).writeRegister = result
  range : (cfg.fan i).writeMin ≤ result ∧ result ≤ (cfg.fan i).writeMax

/-- The fan write failed: the recorded percents stay, and the failure is counted up to its cap. -/
structure FailureCounted (cfg : AnsConfig) (before after : FanState) : Prop where
  percent : after.percent = before.percent
  requestedPercent : after.requestedPercent = before.requestedPercent
  writeValue : after.writeValue = before.writeValue
  ecWriteFailures : after.ecWriteFailures =
    max before.ecWriteFailures
      (min (before.ecWriteFailures + 1) (cfg.safety.maxEcWriteFailures + 1))

/-- A call of `set_fan_percent` reports what it wrote, or counts the failure. -/
def ReportsWrite (cfg : AnsConfig) (bank : FanBank) (i : Nat) (requestedPercent : Int)
    (forcedReason : SafetyReason) : Prop :=
  let set := setFanPercent cfg bank i requestedPercent forcedReason
  (bank.ec.nextWriteOk = true → WriteReported cfg i set.1 set.2) ∧
    (bank.ec.nextWriteOk = false →
      set.2 = -1 ∧ FailureCounted cfg (bank.states i) (set.1.states i))

/-- The speed of a fan without a temperature: the request, raised to the fallback. -/
def unavailableSpeed (cfg : AnsConfig) (fan : FanConfig) (requestedPercent : Int) : Int :=
  max (clampInt requestedPercent 1 100) (missingTemperaturePercent cfg fan)

/-- When the branch for a missing temperature is taken, its speed is in the write range. -/
def UnavailableSpeedInRange (cfg : AnsConfig) (fan : FanConfig) (state : FanState)
    (requestedPercent : Int) (forcedReason : SafetyReason) : Prop :=
  criticalReason cfg state forcedReason = .none → state.controlTempAvailable = false →
    fan.writeMin ≤ unavailableSpeed cfg fan requestedPercent ∧
      unavailableSpeed cfg fan requestedPercent ≤ fan.writeMax

section Report

variable {cfg : AnsConfig} {bank : FanBank} {fan : FanConfig} {state : FanState} {i : Nat}
  {requestedPercent : Int} {forcedReason : SafetyReason}

theorem fanSafetyAdjustPercent_unavailableSpeed
    (calm : criticalReason cfg state forcedReason = .none)
    (unavailable : state.controlTempAvailable = false) :
    (fanSafetyAdjustPercent cfg fan state requestedPercent forcedReason).1 =
      unavailableSpeed cfg fan requestedPercent := by
  rw [fanSafetyAdjustPercent_of_unavailable calm unavailable, unavailableSpeed]
  split
  · rename_i low
    exact (max_eq_right (le_of_lt low)).symm
  · rename_i enough
    exact (max_eq_left (le_of_not_gt enough)).symm

/-- The policy's speed is in the write range, save for a missing temperature. -/
theorem speed_inRange_iff (range : fan.writeMin ≤ fan.writeMax) :
    (fan.writeMin ≤ (fanSafetyAdjustPercent cfg fan state requestedPercent forcedReason).1 ∧
      (fanSafetyAdjustPercent cfg fan state requestedPercent forcedReason).1 ≤ fan.writeMax) ↔
      UnavailableSpeedInRange cfg fan state requestedPercent forcedReason := by
  have clamped (value : Int) : fan.writeMin ≤ clampInt value fan.writeMin fan.writeMax ∧
      clampInt value fan.writeMin fan.writeMax ≤ fan.writeMax :=
    ⟨le_clamp range value, clamp_le range value⟩
  unfold UnavailableSpeedInRange
  by_cases calm : criticalReason cfg state forcedReason = .none
  · by_cases unavailable : state.controlTempAvailable = false
    · rw [fanSafetyAdjustPercent_unavailableSpeed calm unavailable]
      exact ⟨fun inside _ _ => inside, fun inside => inside calm unavailable⟩
    · have available : state.controlTempAvailable = true := by simpa using unavailable
      rw [fanSafetyAdjustPercent_of_available calm available]
      refine ⟨fun _ _ missing => absurd missing unavailable, fun _ => ?_⟩
      split
      · exact clamped _
      · exact clamped _
  · rw [fanSafetyAdjustPercent_of_critical calm]
    exact ⟨fun _ none => absurd none calm, fun _ => clamped _⟩

/-- A failed write is counted. -/
theorem recordFanWrite_failureCounted (cfg : AnsConfig) (state : FanState) (requestedPercent : Int)
    (adjusted : Int × SafetyReason) :
    FailureCounted cfg state (recordFanWrite cfg state requestedPercent adjusted false) := by
  constructor
  · rfl
  · rfl
  · rfl
  · change (if state.ecWriteFailures < cfg.safety.maxEcWriteFailures + 1 then
        state.ecWriteFailures + 1 else state.ecWriteFailures) = _
    split <;> omega

/-- The register of a successful write holds the decided speed when that is in range. -/
theorem writeReported_iff (valid : cfg.Valid) (below : i < cfg.fanLen)
    (works : bank.ec.nextWriteOk = true) :
    WriteReported cfg i (setFanPercent cfg bank i requestedPercent forcedReason).1
        (setFanPercent cfg bank i requestedPercent forcedReason).2 ↔
      UnavailableSpeedInRange cfg (cfg.fan i) (bank.states i) requestedPercent forcedReason := by
  have fanValid := valid.fan below
  have inRange := @speed_inRange_iff cfg (cfg.fan i) (bank.states i) requestedPercent forcedReason
    (le_of_lt fanValid.writeRange)
  have result : (setFanPercent cfg bank i requestedPercent forcedReason).2 =
      (setFanDecision cfg bank i requestedPercent forcedReason).1 := by
    rw [setFanPercent_result, if_pos works]
  rw [← inRange, result]
  constructor
  · intro reported
    exact reported.range
  · rintro ⟨lower, upper⟩
    have written : clampInt (setFanDecision cfg bank i requestedPercent forcedReason).1
        (cfg.fan i).writeMin (cfg.fan i).writeMax =
        (setFanDecision cfg bank i requestedPercent forcedReason).1 := clamp_of_mem lower upper
    have byte : clampInt (setFanDecision cfg bank i requestedPercent forcedReason).1 0 255 =
        (setFanDecision cfg bank i requestedPercent forcedReason).1 :=
      clamp_of_mem (le_trans fanValid.writeMin lower)
        (le_trans upper (le_trans fanValid.writeMax (by decide)))
    constructor
    · rw [setFanPercent_state_self, works]
      rfl
    · rw [setFanPercent_state_self, works]
      rfl
    · rw [setFanPercent_ec, ecWriteByte_byte_self _ _ _ works, written, byte]
    · exact ⟨lower, upper⟩

/--
A fan write reports what it wrote exactly when it fails, or when the branch for
a missing temperature, if it is taken, stays in the write range.
-/
theorem reportsWrite_iff (valid : cfg.Valid) (below : i < cfg.fanLen) :
    ReportsWrite cfg bank i requestedPercent forcedReason ↔
      (bank.ec.nextWriteOk = true →
        UnavailableSpeedInRange cfg (cfg.fan i) (bank.states i) requestedPercent forcedReason) := by
  have failure : bank.ec.nextWriteOk = false →
      (setFanPercent cfg bank i requestedPercent forcedReason).2 = -1 ∧
        FailureCounted cfg (bank.states i)
          ((setFanPercent cfg bank i requestedPercent forcedReason).1.states i) := by
    intro fails
    rw [setFanPercent_result, setFanPercent_state_self, fails]
    exact ⟨rfl, recordFanWrite_failureCounted cfg _ _ _⟩
  constructor
  · intro reports works
    exact (writeReported_iff valid below works).mp (reports.1 works)
  · intro inRange
    exact ⟨fun works => (writeReported_iff valid below works).mpr (inRange works), failure⟩

end Report

/-! ## A narrow write range -/

/-- The shipped profile with a CPU fan that takes at most 80 %. -/
def AcerNitroAn517.narrowConfig : AnsConfig :=
  { config with fans := [{ cpuFan with writeMax := 80 }, gpuFan] }

theorem AcerNitroAn517.narrowConfig_valid : narrowConfig.Valid :=
  { config_valid with
    fans := by
      intro fan member
      rcases List.mem_cons.mp member with rfl | rest
      · exact
          { cpuFan_valid with
            writeMax := by decide
            writeRange := by decide
            resetSpeed := by decide }
      · rw [List.mem_singleton.mp rest]
        exact gpuFan_valid
    fanLen := by decide }

/-- Without a temperature a request of 100 % is reported as such, while the register gets 80. -/
theorem reportsWrite_fails :
    ¬ ∀ (cfg : AnsConfig) (bank : FanBank) (i : Nat) (requestedPercent : Int)
      (forcedReason : SafetyReason), cfg.Valid → i < cfg.fanLen →
        ReportsWrite cfg bank i requestedPercent forcedReason := by
  intro claim
  have reports := claim AcerNitroAn517.narrowConfig ⟨{ regs := fun _ => 0 }, fun _ => {}⟩ 0 100 .none
    AcerNitroAn517.narrowConfig_valid (by decide)
  exact absurd (reports.1 rfl).register (by decide)

/-- A request of 70 % fits into the range. -/
theorem reportsWrite_inRange :
    ReportsWrite AcerNitroAn517.narrowConfig ⟨{ regs := fun _ => 0 }, fun _ => {}⟩ 0 70 .none :=
  (reportsWrite_iff AcerNitroAn517.narrowConfig_valid (by decide)).mpr
    fun _ _ _ => by decide

end NitroSense
