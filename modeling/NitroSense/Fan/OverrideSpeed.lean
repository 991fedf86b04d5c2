import Mathlib.Order.ConditionallyCompleteLattice.Basic
import Mathlib.Data.Int.ConditionallyCompleteOrder
import NitroSense.Fan.SafetyPolicy

/-!
# Overrides and requests

How the speed of a safety override compares with the request it replaces.  The
floors and the critical step only raise a request.  The fixed critical speed
replaces it, so there the two configured numbers decide.
-/

namespace NitroSense

open Lib

/-- The reasons that write `critical_speed_percent` whatever was requested. -/
def FixedCriticalSpeed (cfg : AnsConfig) (reason : SafetyReason) : Prop :=
  reason ≠ .none ∧ (reason = .criticalTemperature → cfg.safety.criticalFullSpeed = true)

/-- With a reason, the written speed is no lower than the request would have been. -/
def NeverSlows (cfg : AnsConfig) (fan : FanConfig) (state : FanState) (requestedPercent : Int)
    (forcedReason : SafetyReason) : Prop :=
  let adjusted := fanSafetyAdjustPercent cfg fan state requestedPercent forcedReason
  adjusted.2 ≠ .none →
    clampInt (clampInt requestedPercent 1 100) fan.writeMin fan.writeMax ≤
      clampInt adjusted.1 fan.writeMin fan.writeMax

/--
When the fixed critical speed is selected, it is no lower than the clamped
request, unless the write range hides the difference.
-/
def CriticalSpeedCoversRequest (cfg : AnsConfig) (fan : FanConfig) (state : FanState)
    (requestedPercent : Int) (forcedReason : SafetyReason) : Prop :=
  FixedCriticalSpeed cfg (criticalReason cfg state forcedReason) →
    clampInt requestedPercent 1 100 ≤ cfg.safety.criticalSpeedPercent ∨
      clampInt requestedPercent 1 100 ≤ fan.writeMin ∨
      fan.writeMax ≤ cfg.safety.criticalSpeedPercent

section Speeds

variable {cfg : AnsConfig} {fan : FanConfig} {state : FanState} {requestedPercent : Int}
  {forcedReason : SafetyReason}

/-- The critical step raises the percent it starts from. -/
theorem criticalTarget_of_step {reason : SafetyReason}
    (step : ¬ FixedCriticalSpeed cfg reason) (critical : reason ≠ .none) (percent : Int) :
    criticalTarget cfg percent reason = percent + cfg.safety.criticalStepPercent := by
  have hot : reason = .criticalTemperature := by
    by_contra other
    exact step ⟨critical, fun same => absurd same other⟩
  have half : cfg.safety.criticalFullSpeed = false := by
    by_contra full
    exact step ⟨critical, fun _ => by simpa using full⟩
  exact if_pos ⟨hot, half⟩

theorem criticalTarget_of_fixed {reason : SafetyReason} (fixed : FixedCriticalSpeed cfg reason)
    (percent : Int) : criticalTarget cfg percent reason = cfg.safety.criticalSpeedPercent := by
  refine if_neg ?_
  rintro ⟨hot, half⟩
  rw [fixed.2 hot] at half
  cases half

/-- The two floors of the policy raise the request. -/
theorem neverSlows_of_calm (range : fan.writeMin ≤ fan.writeMax)
    (calm : criticalReason cfg state forcedReason = .none) :
    NeverSlows cfg fan state requestedPercent forcedReason := by
  unfold NeverSlows
  by_cases unavailable : state.controlTempAvailable = false
  · rw [fanSafetyAdjustPercent_of_unavailable calm unavailable]
    split
    · rename_i low
      exact fun _ => clamp_mono range (le_of_lt low)
    · exact fun reason => absurd rfl reason
  · have available : state.controlTempAvailable = true := by simpa using unavailable
    rw [fanSafetyAdjustPercent_of_available calm available]
    split
    · rename_i warm
      dsimp only [clampInt]
      rw [clamp_clamp range]
      exact fun _ => clamp_mono range (le_of_lt warm.2)
    · exact fun reason => absurd rfl reason

/-- An override slows a fan down exactly when the fixed critical speed is below the request. -/
theorem neverSlows_iff (valid : cfg.Valid) (member : fan ∈ cfg.fans) :
    NeverSlows cfg fan state requestedPercent forcedReason ↔
      CriticalSpeedCoversRequest cfg fan state requestedPercent forcedReason := by
  have range := (valid.fans fan member).writeRange
  by_cases calm : criticalReason cfg state forcedReason = .none
  · constructor
    · intro _ fixed
      exact absurd calm fixed.1
    · intro _
      exact neverSlows_of_calm (le_of_lt range) calm
  · unfold NeverSlows CriticalSpeedCoversRequest
    rw [fanSafetyAdjustPercent_of_critical calm]
    simp only [criticalSafetyPercent, clampInt]
    rw [clamp_clamp (le_of_lt range), clamp_le_clamp_iff range]
    by_cases fixed : FixedCriticalSpeed cfg (criticalReason cfg state forcedReason)
    · rw [criticalTarget_of_fixed fixed]
      exact ⟨fun covers _ => covers calm, fun covers _ => covers fixed⟩
    · rw [criticalTarget_of_step fixed calm]
      have step := valid.safety.criticalStepPercent.1
      constructor
      · intro _ selected
        exact absurd selected fixed
      · intro _ _
        exact Or.inl (by omega)

/-- A higher request never gives a lower speed. -/
theorem fanSafetyAdjustPercent_mono (range : fan.writeMin ≤ fan.writeMax) :
    Monotone fun requestedPercent =>
      (fanSafetyAdjustPercent cfg fan state requestedPercent forcedReason).1 := by
  intro low high less
  have request : clampInt low 1 100 ≤ clampInt high 1 100 := clamp_mono (by decide) less
  dsimp only
  by_cases calm : criticalReason cfg state forcedReason = .none
  · by_cases unavailable : state.controlTempAvailable = false
    · rw [fanSafetyAdjustPercent_of_unavailable calm unavailable,
        fanSafetyAdjustPercent_of_unavailable calm unavailable]
      split
      · split
        · exact le_refl _
        · rename_i enough
          exact le_of_not_gt enough
      · rename_i enough
        rw [if_neg (not_lt_of_ge (le_trans (le_of_not_gt enough) request))]
        exact request
    · have available : state.controlTempAvailable = true := by simpa using unavailable
      rw [fanSafetyAdjustPercent_of_available calm available,
        fanSafetyAdjustPercent_of_available calm available]
      split
      · rename_i warm
        split
        · exact le_refl _
        · rename_i enough
          exact clamp_mono range (le_of_not_gt fun slow => enough ⟨warm.1, slow⟩)
      · rename_i enough
        rw [if_neg fun warm => enough ⟨warm.1, lt_of_le_of_lt request warm.2⟩]
        exact clamp_mono range request
  · rw [fanSafetyAdjustPercent_of_critical calm, fanSafetyAdjustPercent_of_critical calm]
    refine clamp_mono range ?_
    unfold criticalTarget
    split
    · exact Int.add_le_add_right request _
    · exact le_refl _

/--
An override is no slower than the request exactly when the fixed critical speed,
if it is selected, covers the request, and the speed grows with the request.
-/
theorem overrideSpeed_bounds (valid : cfg.Valid) (member : fan ∈ cfg.fans) :
    (NeverSlows cfg fan state requestedPercent forcedReason ↔
      CriticalSpeedCoversRequest cfg fan state requestedPercent forcedReason) ∧
      Monotone fun percent =>
        (fanSafetyAdjustPercent cfg fan state percent forcedReason).1 :=
  ⟨neverSlows_iff valid member,
    fanSafetyAdjustPercent_mono (le_of_lt (valid.fans fan member).writeRange)⟩

end Speeds

/-- The shipped profile with a critical speed of 50 %. -/
def AcerNitroAn517.halfCriticalConfig : AnsConfig :=
  { config with safety := { config.safety with criticalSpeedPercent := 50 } }

theorem AcerNitroAn517.halfCriticalConfig_valid : halfCriticalConfig.Valid :=
  { config_valid with
    safety := { config_valid.safety with criticalSpeedPercent := by decide } }

/-- A fan held at 100 % is slowed down to 50 % when EC reads fail. -/
theorem neverSlows_fails :
    ¬ ∀ (cfg : AnsConfig) (fan : FanConfig) (state : FanState) (forcedReason : SafetyReason),
      cfg.Valid → fan ∈ cfg.fans →
        (∀ requestedPercent, NeverSlows cfg fan state requestedPercent forcedReason) ∧
          Monotone fun requestedPercent =>
            (fanSafetyAdjustPercent cfg fan state requestedPercent forcedReason).1 := by
  intro claim
  obtain ⟨slows, -⟩ := claim AcerNitroAn517.halfCriticalConfig AcerNitroAn517.cpuFan {}
    .ecReadFailure AcerNitroAn517.halfCriticalConfig_valid List.mem_cons_self
  exact absurd (slows 100 (by decide)) (by decide)

/-- The shipped critical speed of 100 % covers every request. -/
theorem overrideSpeed_bounds_shipped :
    (NeverSlows AcerNitroAn517.config AcerNitroAn517.cpuFan criticalState 100 .ecReadFailure ↔
      CriticalSpeedCoversRequest AcerNitroAn517.config AcerNitroAn517.cpuFan criticalState 100
        .ecReadFailure) ∧
      Monotone fun percent =>
        (fanSafetyAdjustPercent AcerNitroAn517.config AcerNitroAn517.cpuFan criticalState percent
          .ecReadFailure).1 :=
  overrideSpeed_bounds AcerNitroAn517.config_valid List.mem_cons_self

end NitroSense
