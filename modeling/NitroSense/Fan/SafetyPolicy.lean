import NitroSense.Ec
import NitroSense.Models
import NitroSense.Fan.State

/-!
# The fan safety policy

`fan/safety_policy.c`.  The policy is a chain of early returns.  Three of them
select the critical speed; the other two raise the request to a cooling floor,
the fallback for a missing temperature or the minimum speed of a warm fan.
-/

namespace NitroSense

open Lib

/-- The speed of `critical_safety_percent` before it is clamped to the write range. -/
def criticalTarget (cfg : AnsConfig) (percent : Int) (reason : SafetyReason) : Int :=
  if reason = .criticalTemperature ∧ cfg.safety.criticalFullSpeed = false then
    percent + cfg.safety.criticalStepPercent
  else cfg.safety.criticalSpeedPercent

def criticalSafetyPercent (cfg : AnsConfig) (fan : FanConfig) (percent : Int)
    (reason : SafetyReason) : Int :=
  clampInt (criticalTarget cfg percent reason) fan.writeMin fan.writeMax

def missingTemperaturePercent (cfg : AnsConfig) (fan : FanConfig) : Int :=
  if fan.missingTemperatureSpeedPercent > 0 then fan.missingTemperatureSpeedPercent
  else cfg.safety.missingTemperatureSpeedPercent

/-- `fan_safety_adjust_percent`: the effective speed and the reason behind it. -/
def fanSafetyAdjustPercent (cfg : AnsConfig) (fan : FanConfig) (state : FanState)
    (requestedPercent : Int) (forcedReason : SafetyReason) : Int × SafetyReason :=
  let percent := clampInt requestedPercent 1 100
  if forcedReason.hasValue then
    (criticalSafetyPercent cfg fan percent forcedReason, forcedReason)
  else if state.ecWriteFailures ≥ cfg.safety.maxEcWriteFailures then
    (criticalSafetyPercent cfg fan percent .ecWriteFailure, .ecWriteFailure)
  else if state.controlTempAvailable = false then
    if percent < missingTemperaturePercent cfg fan then
      (missingTemperaturePercent cfg fan, .temperatureUnknown)
    else (percent, .none)
  else if state.criticalTempSamples ≥ cfg.safety.criticalConsecutiveSamples then
    (criticalSafetyPercent cfg fan percent .criticalTemperature, .criticalTemperature)
  else if state.controlTempC ≥ cfg.safety.minSpeedTemperatureC ∧
      percent < cfg.safety.minSpeedPercent then
    (clampInt cfg.safety.minSpeedPercent fan.writeMin fan.writeMax, .minimumSafeSpeed)
  else (clampInt percent fan.writeMin fan.writeMax, .none)

/-! ## The branches -/

/-- The reason that selects the critical speed, `none` when no critical branch is taken. -/
def criticalReason (cfg : AnsConfig) (state : FanState) (forcedReason : SafetyReason) :
    SafetyReason :=
  if forcedReason.hasValue then forcedReason
  else if state.ecWriteFailures ≥ cfg.safety.maxEcWriteFailures then .ecWriteFailure
  else if state.controlTempAvailable = true ∧
      state.criticalTempSamples ≥ cfg.safety.criticalConsecutiveSamples then .criticalTemperature
  else .none

section Branches

variable {cfg : AnsConfig} {fan : FanConfig} {state : FanState} {requestedPercent : Int}
  {forcedReason : SafetyReason}

/-- A critical branch returns the critical speed. -/
theorem fanSafetyAdjustPercent_of_critical
    (critical : criticalReason cfg state forcedReason ≠ .none) :
    fanSafetyAdjustPercent cfg fan state requestedPercent forcedReason =
      (criticalSafetyPercent cfg fan (clampInt requestedPercent 1 100)
        (criticalReason cfg state forcedReason), criticalReason cfg state forcedReason) := by
  simp only [fanSafetyAdjustPercent]
  unfold criticalReason at critical ⊢
  by_cases forced : forcedReason.hasValue = true
  · simp only [if_pos forced]
  · simp only [if_neg forced] at critical ⊢
    by_cases failing : state.ecWriteFailures ≥ cfg.safety.maxEcWriteFailures
    · simp only [if_pos failing]
    · simp only [if_neg failing] at critical ⊢
      by_cases hot : state.controlTempAvailable = true ∧
          state.criticalTempSamples ≥ cfg.safety.criticalConsecutiveSamples
      · have present : ¬ state.controlTempAvailable = false := by simp [hot.1]
        rw [if_neg present, if_pos hot.2, if_pos hot]
      · exact absurd (if_neg hot) critical

/-- Without a temperature and without a critical branch the request is raised to the fallback. -/
theorem fanSafetyAdjustPercent_of_unavailable
    (calm : criticalReason cfg state forcedReason = .none)
    (unavailable : state.controlTempAvailable = false) :
    fanSafetyAdjustPercent cfg fan state requestedPercent forcedReason =
      if clampInt requestedPercent 1 100 < missingTemperaturePercent cfg fan then
        (missingTemperaturePercent cfg fan, .temperatureUnknown)
      else (clampInt requestedPercent 1 100, .none) := by
  simp only [fanSafetyAdjustPercent]
  unfold criticalReason at calm
  by_cases forced : forcedReason.hasValue = true
  · rw [if_pos forced] at calm
    exact absurd calm (SafetyReason.hasValue_eq_true.mp forced)
  · rw [if_neg forced] at calm ⊢
    by_cases failing : state.ecWriteFailures ≥ cfg.safety.maxEcWriteFailures
    · rw [if_pos failing] at calm
      cases calm
    · rw [if_neg failing, if_pos unavailable]

/-- With a temperature and without a critical branch a warm fan is raised to the minimum speed. -/
theorem fanSafetyAdjustPercent_of_available
    (calm : criticalReason cfg state forcedReason = .none)
    (available : state.controlTempAvailable = true) :
    fanSafetyAdjustPercent cfg fan state requestedPercent forcedReason =
      if state.controlTempC ≥ cfg.safety.minSpeedTemperatureC ∧
          clampInt requestedPercent 1 100 < cfg.safety.minSpeedPercent then
        (clampInt cfg.safety.minSpeedPercent fan.writeMin fan.writeMax, .minimumSafeSpeed)
      else (clampInt (clampInt requestedPercent 1 100) fan.writeMin fan.writeMax, .none) := by
  have present : ¬ state.controlTempAvailable = false := by simp [available]
  simp only [fanSafetyAdjustPercent]
  unfold criticalReason at calm
  by_cases forced : forcedReason.hasValue = true
  · rw [if_pos forced] at calm
    exact absurd calm (SafetyReason.hasValue_eq_true.mp forced)
  · rw [if_neg forced] at calm ⊢
    by_cases failing : state.ecWriteFailures ≥ cfg.safety.maxEcWriteFailures
    · rw [if_pos failing] at calm
      cases calm
    · rw [if_neg failing] at calm ⊢
      by_cases hot : state.criticalTempSamples ≥ cfg.safety.criticalConsecutiveSamples
      · rw [if_pos ⟨available, hot⟩] at calm
        cases calm
      · rw [if_neg present, if_neg hot]

/-- The policy only looks at the critical reason and the control temperature of the fan. -/
theorem fanSafetyAdjustPercent_congr {other : FanState}
    (reason : criticalReason cfg other forcedReason = criticalReason cfg state forcedReason)
    (available : other.controlTempAvailable = state.controlTempAvailable)
    (tempC : other.controlTempC = state.controlTempC) :
    fanSafetyAdjustPercent cfg fan other requestedPercent forcedReason =
      fanSafetyAdjustPercent cfg fan state requestedPercent forcedReason := by
  by_cases calm : criticalReason cfg state forcedReason = .none
  · cases present : state.controlTempAvailable with
    | false =>
        rw [fanSafetyAdjustPercent_of_unavailable calm present,
          fanSafetyAdjustPercent_of_unavailable (reason.trans calm) (available.trans present)]
    | true =>
        rw [fanSafetyAdjustPercent_of_available calm present,
          fanSafetyAdjustPercent_of_available (reason.trans calm) (available.trans present), tempC]
  · rw [fanSafetyAdjustPercent_of_critical calm,
      fanSafetyAdjustPercent_of_critical (fun none => calm (reason.symm.trans none)), reason]

end Branches

theorem clampInt_percent_bounds (percent : Int) :
    1 ≤ clampInt percent 1 100 ∧ clampInt percent 1 100 ≤ 100 :=
  ⟨le_clamp (by decide) percent, clamp_le (by decide) percent⟩

/-- The policy decides on a percent: no branch stops a fan. -/
theorem fanSafetyAdjustPercent_percent {cfg : AnsConfig} {fan : FanConfig}
    (safety : cfg.safety.Valid cfg.criticalTemperatureC) (valid : fan.Valid) (state : FanState)
    (requestedPercent : Int) (forcedReason : SafetyReason) :
    configPercentValueValid
      (fanSafetyAdjustPercent cfg fan state requestedPercent forcedReason).1 := by
  have request := clampInt_percent_bounds requestedPercent
  have range := le_of_lt valid.writeRange
  have spins : 1 ≤ fan.writeMax := lt_of_le_of_lt valid.writeMin valid.writeRange
  have written {value : Int} (positive : 1 ≤ value) :
      configPercentValueValid (clampInt value fan.writeMin fan.writeMax) :=
    ⟨le_clamp_of_le spins positive, le_trans (clamp_le range value) valid.writeMax⟩
  have critical (reason : SafetyReason) :
      1 ≤ criticalTarget cfg (clampInt requestedPercent 1 100) reason := by
    have step := safety.criticalStepPercent.1
    unfold criticalTarget
    split
    · omega
    · exact safety.criticalSpeedPercent.1
  have fallback : configPercentValueValid (missingTemperaturePercent cfg fan) := by
    unfold missingTemperaturePercent
    split
    · rename_i positive
      exact ⟨positive, valid.missingTemperatureSpeedPercent.2⟩
    · exact safety.missingTemperatureSpeedPercent
  unfold fanSafetyAdjustPercent
  dsimp only
  split
  · exact written (critical _)
  · split
    · exact written (critical _)
    · split
      · split
        · exact fallback
        · exact request
      · split
        · exact written (critical _)
        · split
          · exact written safety.minSpeedPercent.1
          · exact written request.1

theorem fanSafetyAdjustPercent_speed {cfg : AnsConfig} {fan : FanConfig}
    (safety : cfg.safety.Valid cfg.criticalTemperatureC) (valid : fan.Valid) (state : FanState)
    (requestedPercent : Int) (forcedReason : SafetyReason) :
    configSpeedValueValid (fanSafetyAdjustPercent cfg fan state requestedPercent forcedReason).1 := by
  have percent := fanSafetyAdjustPercent_percent safety valid state requestedPercent forcedReason
  exact ⟨le_trans (by decide) percent.1, percent.2⟩

/-! ## Cooling floors -/

/-- The speed a fan is not to fall below: the minimum of a warm fan, or the fallback. -/
def coolingFloor (cfg : AnsConfig) (fan : FanConfig) (state : FanState) : Option Int :=
  if state.controlTempAvailable = false then some (missingTemperaturePercent cfg fan)
  else if state.controlTempC ≥ cfg.safety.minSpeedTemperatureC then
    some cfg.safety.minSpeedPercent
  else none

/-- The returned speed, clamped to the write range, respects both configured floors. -/
def FloorsHold (cfg : AnsConfig) (fan : FanConfig) (state : FanState) (requestedPercent : Int)
    (forcedReason : SafetyReason) : Prop :=
  let speed := (fanSafetyAdjustPercent cfg fan state requestedPercent forcedReason).1
  (state.controlTempAvailable = true → state.controlTempC ≥ cfg.safety.minSpeedTemperatureC →
    clampInt cfg.safety.minSpeedPercent fan.writeMin fan.writeMax ≤
      clampInt speed fan.writeMin fan.writeMax) ∧
  (state.controlTempAvailable = false →
    clampInt (missingTemperaturePercent cfg fan) fan.writeMin fan.writeMax ≤
      clampInt speed fan.writeMin fan.writeMax)

/--
When a critical branch is taken, its target is no lower than the floor, unless
the write range hides the difference.
-/
def CriticalTargetCoversFloor (cfg : AnsConfig) (fan : FanConfig) (state : FanState)
    (requestedPercent : Int) (forcedReason : SafetyReason) : Prop :=
  let reason := criticalReason cfg state forcedReason
  let target := criticalTarget cfg (clampInt requestedPercent 1 100) reason
  reason ≠ .none → ∀ floor ∈ coolingFloor cfg fan state,
    floor ≤ target ∨ floor ≤ fan.writeMin ∨ fan.writeMax ≤ target

section Floors

variable {cfg : AnsConfig} {fan : FanConfig} {state : FanState} {requestedPercent : Int}
  {forcedReason : SafetyReason}

/-- The two floors of the policy as one. -/
theorem floorsHold_iff_coolingFloor :
    FloorsHold cfg fan state requestedPercent forcedReason ↔
      ∀ floor ∈ coolingFloor cfg fan state, clampInt floor fan.writeMin fan.writeMax ≤
        clampInt (fanSafetyAdjustPercent cfg fan state requestedPercent forcedReason).1
          fan.writeMin fan.writeMax := by
  unfold FloorsHold coolingFloor
  cases available : state.controlTempAvailable with
  | false => simp
  | true =>
      by_cases warm : state.controlTempC ≥ cfg.safety.minSpeedTemperatureC <;> simp [warm]

/-- Outside the critical branches no floor is skipped. -/
theorem coolingFloor_le_of_calm (fanValid : fan.Valid)
    (calm : criticalReason cfg state forcedReason = .none) :
    ∀ floor ∈ coolingFloor cfg fan state, clampInt floor fan.writeMin fan.writeMax ≤
      clampInt (fanSafetyAdjustPercent cfg fan state requestedPercent forcedReason).1
        fan.writeMin fan.writeMax := by
  have range : fan.writeMin ≤ fan.writeMax := le_of_lt fanValid.writeRange
  intro floor member
  unfold coolingFloor at member
  by_cases unavailable : state.controlTempAvailable = false
  · rw [if_pos unavailable] at member
    cases member
    rw [fanSafetyAdjustPercent_of_unavailable calm unavailable]
    split
    · exact le_refl _
    · rename_i enough
      exact clamp_mono range (le_of_not_gt enough)
  · have available : state.controlTempAvailable = true := by simpa using unavailable
    rw [if_neg unavailable] at member
    split at member
    · rename_i warm
      cases member
      rw [fanSafetyAdjustPercent_of_available calm available]
      split
      · simp only [clampInt]
        rw [clamp_clamp range]
      · rename_i enough
        have request : cfg.safety.minSpeedPercent ≤ clampInt requestedPercent 1 100 :=
          le_of_not_gt fun low => enough ⟨warm, low⟩
        simp only [clampInt] at request ⊢
        rw [clamp_clamp range]
        exact clamp_mono range request
    · cases member

/-- The floors hold exactly when a critical branch, if taken, covers the floor. -/
theorem floorsHold_iff (valid : cfg.Valid) (member : fan ∈ cfg.fans) :
    FloorsHold cfg fan state requestedPercent forcedReason ↔
      CriticalTargetCoversFloor cfg fan state requestedPercent forcedReason := by
  have fanValid := valid.fans fan member
  rw [floorsHold_iff_coolingFloor, CriticalTargetCoversFloor]
  by_cases calm : criticalReason cfg state forcedReason = .none
  · exact ⟨fun _ critical => absurd calm critical,
      fun _ => coolingFloor_le_of_calm fanValid calm⟩
  · rw [fanSafetyAdjustPercent_of_critical calm]
    simp only [criticalSafetyPercent, clampInt]
    rw [clamp_clamp (le_of_lt fanValid.writeRange)]
    simp only [clamp_le_clamp_iff fanValid.writeRange]
    exact ⟨fun holds _ => holds, fun holds => holds calm⟩

end Floors

/-! ## The shipped profile -/

/-- A fan whose control temperature has been critical for two samples. -/
def criticalState : FanState where
  controlTempC := 95
  controlTempAvailable := true
  controlTempSeeded := true
  criticalTempSamples := 2

/-- A request of 1 % at a critical temperature gives 21 %, below the floor of 30 %. -/
theorem floorsHold_fails :
    ¬ ∀ (cfg : AnsConfig) (fan : FanConfig) (state : FanState) (requestedPercent : Int)
      (forcedReason : SafetyReason), cfg.Valid → fan ∈ cfg.fans →
        FloorsHold cfg fan state requestedPercent forcedReason := by
  intro claim
  have floors := claim AcerNitroAn517.config AcerNitroAn517.cpuFan criticalState 1
    .criticalTemperature AcerNitroAn517.config_valid (by decide)
  exact absurd (floors.1 (by decide) (by decide)) (by decide)

/-- A request of 10 % or more is covered by the step of 20 %. -/
theorem floorsHold_ten_percent :
    FloorsHold AcerNitroAn517.config AcerNitroAn517.cpuFan criticalState 10
      .criticalTemperature := by
  refine (floorsHold_iff AcerNitroAn517.config_valid (by decide)).mpr ?_
  intro _ floor member
  have minimum : coolingFloor AcerNitroAn517.config AcerNitroAn517.cpuFan criticalState = some 30 :=
    by decide
  rw [minimum] at member
  cases member
  exact Or.inl (by decide)

end NitroSense
