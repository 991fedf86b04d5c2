import NitroSense.Fan.Activity
import NitroSense.Fan.FirmwareAuto

/-!
# Firmware-auto without a safety reason

A poll in firmware-auto that finds no reason runs through the same loop as one
that overrides, but every round takes the branch that only keeps the target.
The first such poll brings each fan's target into the range of requests; from
there on the targets stay as they are.
-/

namespace NitroSense

open Lib EcDevice

def FindsNoReason (cfg : AnsConfig) (run : FirmwareRun) (input : PollInput) : Prop :=
  ¬ SomeReason cfg false (run.observed cfg input)

instance (cfg : AnsConfig) (run : FirmwareRun) (input : PollInput) :
    Decidable (FindsNoReason cfg run input) :=
  inferInstanceAs (Decidable (¬ _))

/--
What a poll changes in the control fields of a fan it leaves to the firmware.
The reason text is kept where it agrees with the flag, as it does in every
state `fan_update_safety_state` has set.
-/
structure OnlyTargetKept (before observed after : FanState) : Prop where
  target : configPercentValueValid after.percent
  writeValue : after.writeValue = after.percent
  requestedPercent : after.requestedPercent = after.percent
  ecWriteFailures : after.ecWriteFailures = before.ecWriteFailures
  safetyActive : after.safetyActive = before.safetyActive
  safetyReason : (before.safetyActive = true ↔ before.safetyReason ≠ .none) →
    after.safetyReason = before.safetyReason
  observation : observed.SameObservation after

/-- The poll writes no EC register and only keeps the targets of the fans. -/
structure HandsOff (cfg : AnsConfig) (run : FirmwareRun) (input : PollInput) : Prop where
  ec : OnlyRead (run.found input).ec (run.step cfg input).bank.ec
  fans : ∀ i < cfg.fanLen,
    OnlyTargetKept (run.bank.states i) ((run.observed cfg input).states i)
      ((run.step cfg input).bank.states i)

/-- The poll leaves percent and requested percent of every fan as they were. -/
def LeavesTargets (cfg : AnsConfig) (run : FirmwareRun) (input : PollInput) : Prop :=
  ∀ i < cfg.fanLen,
    ((run.step cfg input).bank.states i).percent = (run.bank.states i).percent ∧
      ((run.step cfg input).bank.states i).requestedPercent =
        (run.bank.states i).requestedPercent

/-- Every fan's target is one of 1-100, requested and active alike. -/
def TargetsSettled (cfg : AnsConfig) (states : FanStates) : Prop :=
  ∀ i < cfg.fanLen, configPercentValueValid (states i).percent ∧
    (states i).requestedPercent = (states i).percent

section HandsOff

variable {cfg : AnsConfig} {run : FirmwareRun} {input : PollInput} {i : Nat}

/-- A round without a reason keeps the clamped target of the fan and nothing else. -/
theorem step_state_of_calm (calm : FindsNoReason cfg run input) (below : i < cfg.fanLen) :
    (run.step cfg input).bank.states i =
      keepTarget ((run.observed cfg input).states i)
        (clampInt ((run.observed cfg input).states i).statusRequestedPercent 1 100) := by
  refine @updateFans_each cfg false firmwareAutoPreset (run.observed cfg input)
    (fun j state => state = keepTarget ((run.observed cfg input).states j)
      (clampInt ((run.observed cfg input).states j).statusRequestedPercent 1 100)) ?_ i below
  intro j poll inside same
  have noReason : ¬ (pollReason cfg false (run.observed cfg input) j).hasValue = true :=
    fun reason => calm ⟨j, inside, reason⟩
  rw [updateFan_firmware firmwareAuto_mode same, if_neg noReason, firmwareFan]
  dsimp only
  rw [Function.update_self, same]
  rfl

/-- Without a reason and without an override to end, a poll keeps its hands off. -/
theorem handsOff_of_calm (inactive : anySafetyActive cfg run.bank.states = false)
    (calm : FindsNoReason cfg run input) : HandsOff cfg run input := by
  constructor
  · have stays : ¬ run.EndsOverride cfg input := by
      rintro ⟨active, -⟩
      rw [inactive] at active
      exact Bool.false_ne_true active
    rw [step_ec, if_neg stays, updateFans_calm firmwareAuto_mode calm]
    exact observed_onlyRead cfg run input
  · intro i below
    have unset : (run.bank.states i).safetyActive = false := by
      by_contra active
      have some : anySafetyActive cfg run.bank.states = true :=
        anySafetyActive_iff.mpr ⟨i, below, by simpa using active⟩
      rw [inactive] at some
      exact Bool.false_ne_true some
    obtain ⟨-, -, failures⟩ := refreshFanObservations_recorded (run.found input).ec
      input.sensors cfg run.bank.states i
    rw [step_state_of_calm calm below]
    constructor
    · exact clampInt_percent_bounds _
    · rfl
    · rfl
    · exact failures
    · exact unset.symm
    · intro agrees
      by_contra differs
      have reason : (run.bank.states i).safetyReason ≠ .none := fun same => differs same.symm
      rw [unset] at agrees
      exact Bool.false_ne_true (agrees.mpr reason)
    · exact ⟨rfl, rfl, rfl, rfl, rfl, rfl, rfl⟩

/-- A poll without a reason leaves no fan under safety control. -/
theorem step_inactive (calm : FindsNoReason cfg run input) :
    anySafetyActive cfg (run.step cfg input).bank.states = false := by
  rw [Bool.eq_false_iff]
  intro active
  exact calm (step_anySafetyActive.mp active)

theorem HandsOff.targetsSettled (off : HandsOff cfg run input) :
    TargetsSettled cfg (run.step cfg input).bank.states :=
  fun i below => ⟨(off.fans i below).target, (off.fans i below).requestedPercent⟩

/-- A settled target is its own clamped target. -/
theorem leavesTargets_of_settled (calm : FindsNoReason cfg run input)
    (settled : TargetsSettled cfg run.bank.states) : LeavesTargets cfg run input := by
  intro i below
  obtain ⟨⟨lower, upper⟩, same⟩ := settled i below
  obtain ⟨percent, requested, -⟩ := refreshFanObservations_recorded (run.found input).ec
    input.sensors cfg run.bank.states i
  have held : ((run.observed cfg input).states i).statusRequestedPercent =
      (run.bank.states i).percent := by
    rw [FirmwareRun.observed, FanState.statusRequestedPercent, requested, percent, same]
    exact ite_self _
  have clamped : clampInt (run.bank.states i).percent 1 100 = (run.bank.states i).percent :=
    clamp_of_mem lower upper
  rw [step_state_of_calm calm below]
  rw [held, clamped]
  exact ⟨rfl, same.symm⟩

/--
From a state without a fan under safety control, and as long as no poll finds a
reason, every poll keeps its hands off, and every poll after the first leaves
the targets as they are.
-/
theorem firmwareAuto_handsOff {start : FirmwareRun} {inputs : List PollInput}
    (inactive : anySafetyActive cfg start.bank.states = false)
    (calm : Along (FirmwareRun.step cfg) (FindsNoReason cfg) start inputs) :
    Along (FirmwareRun.step cfg) (HandsOff cfg) start inputs ∧
      ∀ first rest, inputs = first :: rest →
        Along (FirmwareRun.step cfg) (LeavesTargets cfg) (start.step cfg first) rest := by
  constructor
  · refine @Along.of_invariant _ _ _ _ (HandsOff cfg) _
      (fun run => anySafetyActive cfg run.bank.states = false) _ calm inactive ?_ ?_
    · intro run input noReason _
      exact step_inactive noReason
    · intro run input noReason before
      exact handsOff_of_calm before noReason
  · rintro first rest rfl
    obtain ⟨now, later⟩ := calm
    have settled := (handsOff_of_calm inactive now).targetsSettled
    refine @Along.of_invariant _ _ _ _ (LeavesTargets cfg) _
      (fun run => anySafetyActive cfg run.bank.states = false ∧
        TargetsSettled cfg run.bank.states) _ later ⟨step_inactive now, settled⟩ ?_ ?_
    · intro run input noReason before
      exact ⟨step_inactive noReason, (handsOff_of_calm before.1 noReason).targetsSettled⟩
    · intro run input noReason before
      exact leavesTargets_of_settled noReason before.2

end HandsOff

/-- Two polls at 50 °C of the shipped profile, with one fan's target still unset. -/
theorem firmwareAuto_handsOff_cool :
    Along (FirmwareRun.step AcerNitroAn517.config) (HandsOff AcerNitroAn517.config)
      ⟨lowWarmBank 0 20 fun _ => false, none⟩ [pollAt 50, pollAt 50] ∧
      ∀ first rest, [pollAt 50, pollAt 50] = first :: rest →
        Along (FirmwareRun.step AcerNitroAn517.config) (LeavesTargets AcerNitroAn517.config)
          (FirmwareRun.step AcerNitroAn517.config ⟨lowWarmBank 0 20 fun _ => false, none⟩ first)
          rest :=
  firmwareAuto_handsOff rfl ⟨by decide, by decide, trivial⟩

end NitroSense
