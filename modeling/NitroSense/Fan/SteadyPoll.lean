import NitroSense.Fan.Settling
import NitroSense.Fan.SpikeMemory

/-!
# Steady polls

A poll that leaves the recorded percents of every fan as they were is followed
by a poll without writes, with one exception.  The test before a write compares
the target itself, and the request it is compared with was clamped to at least
1 %: a fan whose curve asks for 0 % is written again by every poll.
-/

namespace NitroSense

open Lib EcDevice

/-! ## Seeing the same again -/

/-- A reading that is not held back as a spike changes nothing when it is read again. -/
theorem TempChannel.refresh_again {cfg : AnsConfig} {channel : TempChannel} {sensorTemp : Int}
    (accepted : ¬ channel.HoldsBack cfg sensorTemp) :
    let seen := channel.refresh sensorTemp cfg.criticalTemperatureC
    (seen.refresh sensorTemp cfg.criticalTemperatureC).available = seen.available ∧
      (seen.refresh sensorTemp cfg.criticalTemperatureC).tempC = seen.tempC := by
  intro seen
  rcases refresh_cases cfg channel sensorTemp with
    ⟨unreadable, first⟩ | ⟨readable, -, first⟩ | ⟨held, -⟩ | ⟨held, -⟩
  · have unread : ¬ sensorTemp ≥ 0 := not_le.mpr unreadable
    have seenAs : seen = _ := first
    rw [seenAs, TempChannel.refresh, if_neg unread]
    refine ⟨rfl, ?_⟩
    dsimp only
    split
    · rfl
    · rfl
  · have seenAs : seen = _ := first
    rw [seenAs]
    rcases refresh_cases cfg ⟨sensorTemp, 0, true, true⟩ sensorTemp with
      ⟨unreadable, -⟩ | ⟨-, -, second⟩ | ⟨-, fresh, -⟩ | ⟨held, -⟩
    · exact absurd readable (not_le.mpr unreadable)
    · rw [second]
      exact ⟨rfl, rfl⟩
    · cases fresh
    · obtain ⟨jump, -⟩ := (holdsBack_iff rfl).mp held
      have rises : sensorTemp ≥ sensorTemp + tempSpikeFilterDeltaC := jump.rises
      have rise : tempSpikeFilterDeltaC = 15 := rfl
      omega
  · exact absurd held accepted
  · exact absurd held accepted

/--
Two polls see the same of fan `i`: the control temperature after the spike filter
and the reasons of the safety policy.
-/
structure SameView (cfg : AnsConfig) (autoMode : Bool) (first second : Observation) (i : Nat) :
    Prop where
  forcedReason : second.forcedReason = first.forcedReason
  reason : pollReason cfg autoMode second i = pollReason cfg autoMode first i
  available : (second.states i).controlTempAvailable = (first.states i).controlTempAvailable
  tempC : (second.states i).controlTempC = (first.states i).controlTempC

section Reasons

variable {cfg : AnsConfig} {fan : FanConfig} {state : FanState} {requestedPercent : Int}
  {forcedReason : SafetyReason}

/-- Unforced critical reasons are those of a failing EC write and of a critical temperature. -/
theorem criticalReason_of_unforced (unforced : ¬ forcedReason.hasValue = true)
    (critical : criticalReason cfg state forcedReason ≠ .none) :
    criticalReason cfg state forcedReason = .ecWriteFailure ∨
      criticalReason cfg state forcedReason = .criticalTemperature := by
  unfold criticalReason at critical ⊢
  rw [if_neg unforced] at critical ⊢
  split at critical
  · rename_i failing
    exact Or.inl (if_pos failing)
  · rename_i working
    rw [if_neg working]
    split at critical
    · rename_i hot
      exact Or.inr (if_pos hot)
    · exact absurd rfl critical

/-- The floors of the policy report other reasons. -/
theorem fanSafetyAdjustPercent_reason_of_calm
    (calm : criticalReason cfg state forcedReason = .none) :
    ¬ ((fanSafetyAdjustPercent cfg fan state requestedPercent forcedReason).2 = .ecWriteFailure ∨
      (fanSafetyAdjustPercent cfg fan state requestedPercent forcedReason).2 =
        .criticalTemperature) := by
  cases present : state.controlTempAvailable with
  | false =>
      rw [fanSafetyAdjustPercent_of_unavailable calm present]
      split
      · simp
      · simp
  | true =>
      rw [fanSafetyAdjustPercent_of_available calm present]
      split
      · simp
      · simp

/-- The reason of a fan tells which critical branch was taken. -/
theorem criticalReason_of_pollReason (cfg : AnsConfig) (autoMode : Bool) (observed : Observation)
    (i : Nat) :
    criticalReason cfg (observed.states i) observed.forcedReason =
      if observed.forcedReason.hasValue then observed.forcedReason
      else if pollReason cfg autoMode observed i = .ecWriteFailure ∨
          pollReason cfg autoMode observed i = .criticalTemperature then
        pollReason cfg autoMode observed i
      else .none := by
  by_cases forced : observed.forcedReason.hasValue = true
  · rw [criticalReason, if_pos forced, if_pos forced]
  · rw [if_neg forced]
    by_cases calm : criticalReason cfg (observed.states i) observed.forcedReason = .none
    · rw [calm, pollReason, pollDecision, if_neg (fanSafetyAdjustPercent_reason_of_calm calm)]
    · have reason : pollReason cfg autoMode observed i =
          criticalReason cfg (observed.states i) observed.forcedReason := by
        rw [pollReason, pollDecision, fanSafetyAdjustPercent_of_critical calm]
      rw [reason, if_pos (criticalReason_of_unforced forced calm)]

end Reasons

theorem SameView.seesSame {cfg : AnsConfig} {autoMode : Bool} {first second : Observation} {i : Nat}
    (view : SameView cfg autoMode first second i)
    (percent : (second.states i).percent = (first.states i).percent)
    (requestedPercent : (second.states i).requestedPercent = (first.states i).requestedPercent) :
    SeesSame cfg first second i := by
  refine ⟨view.forcedReason, ?_, view.available, view.tempC, percent, requestedPercent⟩
  have critical := criticalReason_of_pollReason cfg autoMode second i
  rw [view.forcedReason, view.reason] at critical
  rw [critical, criticalReason_of_pollReason cfg autoMode first i]

/-! ## Fans that are written although nothing changes -/

/-- In auto mode the curve stops fan `i`, for which a request is recorded. -/
def StopsFan (cfg : AnsConfig) (autoMode : Bool) (observed : Observation) (i : Nat) : Prop :=
  autoMode = true ∧ 0 < (observed.states i).controlTempC ∧
    0 < (observed.states i).requestedPercent ∧
    curveSpeed (cfg.fan i) (observed.states i).controlTempC (observed.states i).requestedPercent = 0

instance (cfg : AnsConfig) (autoMode : Bool) (observed : Observation) (i : Nat) :
    Decidable (StopsFan cfg autoMode observed i) :=
  inferInstanceAs (Decidable (_ ∧ _ ∧ _ ∧ _))

section Unchanged

variable {cfg : AnsConfig} {autoMode : Bool} {observed : Observation} {i : Nat}

/-- The recorded request is the current percent. -/
theorem statusRequestedPercent_of_requested {state : FanState}
    (requested : 0 < state.requestedPercent) :
    state.statusRequestedPercent = state.requestedPercent := if_pos requested

/-- The target of a stopped fan is 0 %. -/
theorem pollTarget_of_stopsFan (stops : StopsFan cfg autoMode observed i) :
    pollTarget cfg autoMode observed i = 0 := by
  obtain ⟨auto, warm, requested, stopped⟩ := stops
  unfold pollTarget pollPercent autoRampedPercent
  dsimp only
  rw [statusRequestedPercent_of_requested requested, if_pos auto, if_pos warm, stopped]
  exact if_pos (Or.inr (le_of_lt requested))

/-- Ramping a curve speed above the current percent keeps it a percent. -/
theorem autoRampedPercent_range {state : FanState} {target : Int} {forcedReason : SafetyReason}
    (positive : 1 ≤ target) (most : target ≤ 100) :
    1 ≤ autoRampedPercent cfg state target forcedReason ∧
      autoRampedPercent cfg state target forcedReason ≤ 100 := by
  have ramped (value : Int) : 1 ≤ clampInt value 1 target ∧ clampInt value 1 target ≤ 100 :=
    ⟨le_clamp positive value, le_trans (clamp_le positive value) most⟩
  unfold autoRampedPercent
  dsimp only
  split
  · exact ⟨positive, most⟩
  · split
    · exact ⟨positive, most⟩
    · split
      · exact ⟨positive, most⟩
      · exact ramped _

/-- Behind a recorded request the target of any other fan is a percent above 0 %. -/
theorem pollTarget_range (valid : (cfg.fan i).Valid)
    (requested : 1 ≤ (observed.states i).requestedPercent)
    (most : (observed.states i).requestedPercent ≤ 100)
    (runs : ¬ StopsFan cfg autoMode observed i) :
    1 ≤ pollTarget cfg autoMode observed i ∧ pollTarget cfg autoMode observed i ≤ 100 := by
  have reset := le_trans valid.resetSpeed.2 valid.writeMax
  unfold pollTarget pollPercent
  dsimp only
  rw [statusRequestedPercent_of_requested requested]
  split
  · rename_i auto
    split
    · rename_i warm
      have selected := curveSelected_range valid (observed.states i).controlTempC
      have running : curveSpeed (cfg.fan i) (observed.states i).controlTempC
          (observed.states i).requestedPercent ≠ 0 :=
        fun stopped => runs ⟨auto, warm, requested, stopped⟩
      refine autoRampedPercent_range ?_ ?_
      · rcases curveSpeed_cases (cfg.fan i) (observed.states i).controlTempC
          (observed.states i).requestedPercent with speed | ⟨kept, -⟩
        · have lower := selected.1
          omega
        · omega
      · rcases curveSpeed_cases (cfg.fan i) (observed.states i).controlTempC
          (observed.states i).requestedPercent with speed | ⟨kept, -⟩
        · exact le_of_eq_of_le speed selected.2
        · exact le_of_eq_of_le kept most
    · split
      · omega
      · exact ⟨requested, most⟩
  · exact ⟨requested, most⟩

/-- A written fan that keeps its recorded percents is a fan its curve stops. -/
theorem needsWrite_iff_stopsFan (valid : (cfg.fan i).Valid)
    (percent : (roundState cfg autoMode observed i true).percent = (observed.states i).percent)
    (requestedPercent : (roundState cfg autoMode observed i true).requestedPercent =
      (observed.states i).requestedPercent) :
    NeedsWrite cfg autoMode observed i ↔ StopsFan cfg autoMode observed i := by
  constructor
  · intro needs
    rw [roundState, if_pos needs] at percent requestedPercent
    have speed : pollSpeed cfg autoMode observed i = (observed.states i).percent := percent
    have request : clampInt (pollTarget cfg autoMode observed i) 1 100 =
        (observed.states i).requestedPercent := requestedPercent
    have bounds := clampInt_percent_bounds (pollTarget cfg autoMode observed i)
    rw [request] at bounds
    by_contra runs
    have range := pollTarget_range valid bounds.1 bounds.2 runs
    have same : clampInt (pollTarget cfg autoMode observed i) 1 100 =
        pollTarget cfg autoMode observed i := clamp_of_mem range.1 range.2
    rcases needs with changed | changed
    · exact changed speed
    · exact changed (same.symm.trans request)
  · intro stops
    refine Or.inr ?_
    rw [pollTarget_of_stopsFan stops]
    exact Int.ne_of_lt stops.2.2.1

end Unchanged

/-! ## Two polls -/

def WritesNoSpeed (cfg : AnsConfig) (before after : EcDevice) : Prop :=
  ∀ write ∈ writesSince before after, ¬ FanWriteRegister cfg write.reg

section TwoPolls

variable (cfg : AnsConfig) (bank : FanBank) (sensors : Sensors) (autoMode : Bool)
  (preset : CString) (ec : EcDevice) (later : Sensors)

/-- What the second of two polls begins with, whose EC and sensors it finds as `ec` and `later`. -/
def secondBank : FanBank := ⟨ec, (updateFanStates bank sensors cfg autoMode preset).states⟩

/--
Two polls of a mode the daemon owns see the same, and the first changes none of
the recorded percents although its writes succeed.
-/
structure SteadyPolls : Prop where
  daemon : firmwareAutoMode autoMode preset = false
  worked : WritesWorked bank.ec (updateFanStates bank sensors cfg autoMode preset).ec
  percent : ∀ i < cfg.fanLen,
    ((updateFanStates bank sensors cfg autoMode preset).states i).percent = (bank.states i).percent
  requestedPercent : ∀ i < cfg.fanLen,
    ((updateFanStates bank sensors cfg autoMode preset).states i).requestedPercent =
      (bank.states i).requestedPercent
  view : ∀ i < cfg.fanLen,
    SameView cfg autoMode (refreshFanObservations bank.ec sensors cfg bank.states)
      (refreshFanObservations ec later cfg
        (secondBank cfg bank sensors autoMode preset ec).states) i

variable {cfg bank sensors autoMode preset ec later}

/-- Polls with the same reading and reasons see the same, unless the first holds the reading back. -/
theorem sameView_of_reading {i : Nat} (below : i < cfg.fanLen)
    (same : (pollReading ec later cfg i).controlSensorTemp =
      (pollReading bank.ec sensors cfg i).controlSensorTemp)
    (accepted : ¬ (bank.states i).control.HoldsBack cfg
      (pollReading bank.ec sensors cfg i).controlSensorTemp) :
    let first := refreshFanObservations bank.ec sensors cfg bank.states
    let second := refreshFanObservations ec later cfg
      (secondBank cfg bank sensors autoMode preset ec).states
    second.forcedReason = first.forcedReason →
      pollReason cfg autoMode second i = pollReason cfg autoMode first i →
        SameView cfg autoMode first second i := by
  intro first second forcedReason reason
  have seen : (first.states i).control = (bank.states i).control.refresh
      (pollReading bank.ec sensors cfg i).controlSensorTemp cfg.criticalTemperatureC := by
    rw [refreshFanObservations_states, if_pos below]
    rfl
  have kept : ((secondBank cfg bank sensors autoMode preset ec).states i).control =
      (first.states i).control :=
    ((updateFanStates_changes cfg bank sensors autoMode preset).states i).control
  have again : (second.states i).control = (first.states i).control.refresh
      (pollReading bank.ec sensors cfg i).controlSensorTemp cfg.criticalTemperatureC := by
    rw [← same, ← kept, refreshFanObservations_states, if_pos below]
    rfl
  obtain ⟨available, tempC⟩ := TempChannel.refresh_again accepted
  rw [← seen, ← again] at available tempC
  exact ⟨forcedReason, reason, available, tempC⟩

/-- A poll in a mode the daemon owns writes no speed when no fan needs a write. -/
theorem writesNoSpeed_iff (daemon : firmwareAutoMode autoMode preset = false) :
    WritesNoSpeed cfg bank.ec (updateFanStates bank sensors cfg autoMode preset).ec ↔
      ∀ i < cfg.fanLen,
        ¬ NeedsWrite cfg autoMode (refreshFanObservations bank.ec sensors cfg bank.states) i := by
  constructor
  · intro silent i below needs
    obtain ⟨write, member, reg⟩ :=
      @updateFanStates_daemon_writes_mem cfg bank sensors autoMode preset daemon i below needs
    exact silent write member ⟨i, below, reg⟩
  · intro calm write member
    have registers := @updateFanStates_daemon_writes cfg bank sensors autoMode preset daemon
    have unwritten : writtenFans cfg autoMode
        (refreshFanObservations bank.ec sensors cfg bank.states) = [] := by
      refine List.eq_nil_iff_forall_not_mem.mpr fun i written => ?_
      obtain ⟨below, needs⟩ := mem_writtenFans.mp written
      exact calm i below needs
    rw [unwritten, List.map_nil, List.reverse_nil, List.map_eq_nil_iff] at registers
    rw [registers] at member
    cases member

/-- What the steady polls decide for one fan. -/
theorem SteadyPolls.needsWrite_iff (valid : cfg.Valid)
    (steady : SteadyPolls cfg bank sensors autoMode preset ec later) {i : Nat}
    (below : i < cfg.fanLen) :
    NeedsWrite cfg autoMode
        (refreshFanObservations ec later cfg
          (secondBank cfg bank sensors autoMode preset ec).states) i ↔
      StopsFan cfg autoMode (refreshFanObservations bank.ec sensors cfg bank.states) i := by
  obtain ⟨firstPercent, firstRequested, -⟩ :=
    refreshFanObservations_recorded bank.ec sensors cfg bank.states i
  obtain ⟨secondPercent, secondRequested, -⟩ := refreshFanObservations_recorded ec later cfg
    (secondBank cfg bank sensors autoMode preset ec).states i
  have percent := (steady.percent i below).trans firstPercent.symm
  have requested := (steady.requestedPercent i below).trans firstRequested.symm
  have same := (steady.view i below).seesSame (secondPercent.trans percent)
    (secondRequested.trans requested)
  obtain ⟨ok, worked, state⟩ :=
    @updateFanStates_daemon_state cfg bank sensors autoMode preset steady.daemon i below
  rw [worked steady.worked] at state
  rw [state] at percent requested
  exact same.needsWrite_iff.trans (needsWrite_iff_stopsFan (valid.fan below) percent requested)

/-- The second of two steady polls writes no speed exactly when the curve stops no fan. -/
theorem steadyPolls_silent_iff (valid : cfg.Valid)
    (steady : SteadyPolls cfg bank sensors autoMode preset ec later) :
    WritesNoSpeed cfg ec
        (updateFanStates (secondBank cfg bank sensors autoMode preset ec) later cfg autoMode
          preset).ec ↔
      ∀ i < cfg.fanLen,
        ¬ StopsFan cfg autoMode (refreshFanObservations bank.ec sensors cfg bank.states) i := by
  refine (@writesNoSpeed_iff cfg (secondBank cfg bank sensors autoMode preset ec) later autoMode
    preset steady.daemon).trans ?_
  refine forall_congr' fun i => forall_congr' fun below => not_congr ?_
  exact steady.needsWrite_iff valid below

end TwoPolls

/-! ## The shipped profile -/

/-- Both fans of the shipped profile at these percents, which were also requested. -/
def recordedBank (cpu gpu : Int) : FanBank where
  ec := { regs := fun _ => 0 }
  states := fun i =>
    if i = 0 then { percent := cpu, requestedPercent := cpu }
    else { percent := gpu, requestedPercent := gpu }

section Shipped

variable (cpu gpu : Int) (celsius : Nat)

/-- An auto poll of the shipped profile at this temperature. -/
def shippedPoll : FanBank :=
  updateFanStates (recordedBank cpu gpu) (AcerNitroAn517.cpuSensors celsius) AcerNitroAn517.config
    true "auto".toList

def shippedView : Observation :=
  refreshFanObservations (recordedBank cpu gpu).ec (AcerNitroAn517.cpuSensors celsius)
    AcerNitroAn517.config (recordedBank cpu gpu).states

/-- What the poll right after it observes. -/
def shippedNextView : Observation :=
  refreshFanObservations (shippedPoll cpu gpu celsius).ec (AcerNitroAn517.cpuSensors celsius)
    AcerNitroAn517.config (shippedPoll cpu gpu celsius).states

def ShippedSteady : Prop :=
  SteadyPolls AcerNitroAn517.config (recordedBank cpu gpu) (AcerNitroAn517.cpuSensors celsius) true
    "auto".toList (shippedPoll cpu gpu celsius).ec (AcerNitroAn517.cpuSensors celsius)

variable {cpu gpu celsius}

/-- They are when the first keeps the percents, and its reading and its reasons come again. -/
theorem shippedSteady_of_kept
    (kept : ∀ i < 2, ((shippedPoll cpu gpu celsius).states i).percent =
        ((recordedBank cpu gpu).states i).percent ∧
      ((shippedPoll cpu gpu celsius).states i).requestedPercent =
        ((recordedBank cpu gpu).states i).requestedPercent)
    (readings : ∀ i < 2,
      (pollReading (recordedBank cpu gpu).ec (AcerNitroAn517.cpuSensors celsius)
          AcerNitroAn517.config i).controlSensorTemp = celsius ∧
        (pollReading (shippedPoll cpu gpu celsius).ec (AcerNitroAn517.cpuSensors celsius)
          AcerNitroAn517.config i).controlSensorTemp = celsius ∧
        (fanFilteredSensorTemp 0 0 celsius false
          AcerNitroAn517.config.criticalTemperatureC).1 = celsius)
    (reasons : (shippedNextView cpu gpu celsius).forcedReason =
        (shippedView cpu gpu celsius).forcedReason ∧
      ∀ i < 2, pollReason AcerNitroAn517.config true (shippedNextView cpu gpu celsius) i =
        pollReason AcerNitroAn517.config true (shippedView cpu gpu celsius) i) :
    ShippedSteady cpu gpu celsius := by
  have unseen (i : Nat) : ((recordedBank cpu gpu).states i).control = ⟨0, 0, false, false⟩ := by
    unfold recordedBank
    dsimp only
    split
    · rfl
    · rfl
  constructor
  · rfl
  · exact fun _ _ _ => rfl
  · exact fun i below => (kept i below).1
  · exact fun i below => (kept i below).2
  · intro i below
    obtain ⟨first, second, accepted⟩ := readings i below
    refine sameView_of_reading below (second.trans first.symm) ?_ reasons.1 (reasons.2 i below)
    rintro ⟨-, replaced⟩
    rw [unseen i, first] at replaced
    exact replaced accepted

end Shipped

/-- At 50 °C both fans stay at the speeds of their curves. -/
theorem steadyPolls_silent_fifty :
    WritesNoSpeed AcerNitroAn517.config (shippedPoll 36 28 50).ec
        (updateFanStates ⟨(shippedPoll 36 28 50).ec, (shippedPoll 36 28 50).states⟩
          (AcerNitroAn517.cpuSensors 50) AcerNitroAn517.config true "auto".toList).ec :=
  (steadyPolls_silent_iff AcerNitroAn517.config_valid (shippedSteady_of_kept (by decide +kernel)
    (by decide +kernel) (by decide +kernel))).mpr (by decide +kernel)

/-- At 30 °C the curves ask for 0 %, and every poll writes the 1 % again. -/
theorem steadyPolls_silent_fails :
    ¬ ∀ (cfg : AnsConfig) (bank : FanBank) (sensors : Sensors) (autoMode : Bool) (preset : CString)
      (ec : EcDevice) (later : Sensors), cfg.Valid →
        SteadyPolls cfg bank sensors autoMode preset ec later →
          WritesNoSpeed cfg ec (updateFanStates (secondBank cfg bank sensors autoMode preset ec)
            later cfg autoMode preset).ec := by
  intro claim
  have steady : ShippedSteady 1 1 30 :=
    shippedSteady_of_kept (by decide +kernel) (by decide +kernel) (by decide +kernel)
  have silent := claim _ _ _ _ _ _ _ AcerNitroAn517.config_valid steady
  have calm := (@writesNoSpeed_iff AcerNitroAn517.config (shippedPoll 1 1 30)
    (AcerNitroAn517.cpuSensors 30) true "auto".toList rfl).mp silent
  exact calm 0 (by decide) (by decide +kernel)

end NitroSense
