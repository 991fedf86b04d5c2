import NitroSense.Lib.Settle
import NitroSense.Fan.CriticalSamples
import NitroSense.Fan.DaemonPoll
import NitroSense.Fan.FirmwareAuto

/-!
# Auto mode settles

At a constant temperature the curve selects one speed, but it keeps the current
percent when that is a curve speed above it, and the ramp passes percents that
are no curve speeds.  What the next request is depends on the current one alone:
it moves towards the selected speed from below, and from above it stays or drops
there at once.
-/

namespace NitroSense

open Lib EcDevice

/-! ## The next request -/

/-- The speed of the last threshold at or below the temperature, which `curve_speed` selects. -/
def curveSelected (fan : FanConfig) (tempC : Int) : Int :=
  fan.curve.foldl (fun selected threshold => if tempC ≥ threshold.up then threshold.speed else selected)
    (match fan.curve with
      | [] => 50
      | threshold :: _ => threshold.speed)

def RampBypassed (cfg : AnsConfig) (celsius : Int) : Prop :=
  cfg.safety.autoRampBypassTemperatureC > 0 ∧ celsius ≥ cfg.safety.autoRampBypassTemperatureC

instance (cfg : AnsConfig) (celsius : Int) : Decidable (RampBypassed cfg celsius) :=
  inferInstanceAs (Decidable (_ ∧ _))

/-- The target of auto mode without a forced reason. -/
def autoTarget (cfg : AnsConfig) (fan : FanConfig) (celsius percent : Int) : Int :=
  let target := curveSpeed fan celsius percent
  if cfg.safety.autoRampUpPercent ≤ 0 ∨ target ≤ percent ∨ RampBypassed cfg celsius then target
  else clampInt (percent + cfg.safety.autoRampUpPercent) 1 target

/-- The request behind a current percent. -/
def nextRequest (cfg : AnsConfig) (fan : FanConfig) (celsius percent : Int) : Int :=
  clampInt (autoTarget cfg fan celsius percent) 1 100

/-- The curve selects a speed, and only a current percent that is a higher curve speed is kept. -/
theorem curveSpeed_cases (fan : FanConfig) (tempC percent : Int) :
    curveSpeed fan tempC percent = curveSelected fan tempC ∨
      curveSpeed fan tempC percent = percent ∧ curveSelected fan tempC < percent ∧
        ∃ threshold ∈ fan.curve, threshold.speed = percent := by
  have unfolded : curveSpeed fan tempC percent =
      if fan.curve.any fun threshold => threshold.speed = percent && tempC ≥ threshold.down then
        if percent > curveSelected fan tempC then percent else curveSelected fan tempC
      else curveSelected fan tempC := rfl
  rw [unfolded]
  split
  · rename_i matched
    split
    · rename_i higher
      obtain ⟨threshold, member, same⟩ := List.any_eq_true.mp matched
      refine Or.inr ⟨rfl, higher, threshold, member, ?_⟩
      exact of_decide_eq_true (Bool.and_eq_true _ _ ▸ same).1
    · exact Or.inl rfl
  · exact Or.inl rfl

theorem foldl_speed_range (tempC : Int) {curve : List Threshold}
    (speeds : ∀ threshold ∈ curve, configSpeedValueValid threshold.speed) {first : Int}
    (start : configSpeedValueValid first) :
    configSpeedValueValid (curve.foldl
      (fun selected threshold => if tempC ≥ threshold.up then threshold.speed else selected)
      first) := by
  induction curve generalizing first with
  | nil => exact start
  | cons threshold rest ih =>
      refine ih (fun next member => speeds next (List.mem_cons_of_mem _ member)) ?_
      dsimp only
      split
      · exact speeds threshold List.mem_cons_self
      · exact start

theorem curveSelected_range {fan : FanConfig} (valid : fan.Valid) (tempC : Int) :
    configSpeedValueValid (curveSelected fan tempC) := by
  have speeds : ∀ threshold ∈ fan.curve, configSpeedValueValid threshold.speed :=
    fun threshold member => (valid.curve.1 threshold member).speed
  refine foldl_speed_range tempC speeds ?_
  split
  · exact ⟨by decide, by decide⟩
  · rename_i threshold rest curve
    exact speeds threshold (curve ▸ List.mem_cons_self)

section Next

variable {cfg : AnsConfig} {fan : FanConfig}

theorem clampInt_percent_of_nonneg {value : Int} (valid : configSpeedValueValid value) :
    clampInt value 1 100 = max 1 value := by
  obtain ⟨lower, upper⟩ := valid
  unfold clampInt clamp
  split
  · omega
  · split <;> omega

/-- A current percent is kept, or followed by the selected speed, or raised towards it. -/
theorem nextRequest_cases (valid : fan.Valid) (celsius percent : Int) :
    (curveSelected fan celsius < percent ∧ curveSpeed fan celsius percent = percent ∧
      percent ≤ 100 ∧ nextRequest cfg fan celsius percent = percent) ∨
    curveSpeed fan celsius percent = curveSelected fan celsius ∧
      ((nextRequest cfg fan celsius percent = max 1 (curveSelected fan celsius) ∧
        (cfg.safety.autoRampUpPercent ≤ 0 ∨ curveSelected fan celsius ≤ percent ∨
          RampBypassed cfg celsius)) ∨
      (percent < curveSelected fan celsius ∧ 0 < cfg.safety.autoRampUpPercent ∧
        nextRequest cfg fan celsius percent =
          clampInt (clampInt (percent + cfg.safety.autoRampUpPercent) 1
            (curveSelected fan celsius)) 1 100)) := by
  have range := curveSelected_range valid celsius
  unfold nextRequest autoTarget
  dsimp only
  rcases curveSpeed_cases fan celsius percent with selected | ⟨kept, above, threshold, member, same⟩
  · rw [selected]
    refine Or.inr ⟨rfl, ?_⟩
    split
    · rename_i free
      exact Or.inl ⟨clampInt_percent_of_nonneg range, free⟩
    · rename_i ramped
      exact Or.inr ⟨by omega, by omega, rfl⟩
  · have speed := (valid.curve.1 threshold member).speed
    rw [same] at speed
    rw [kept, if_pos (Or.inr (Or.inl (le_refl percent)))]
    refine Or.inl ⟨above, rfl, speed.2, ?_⟩
    rw [clampInt_percent_of_nonneg speed]
    have low := range.1
    omega

/-- The ramped request lies above the current percent, by at most the step, and up to the goal. -/
theorem ramped_bounds {selected : Int} (range : configSpeedValueValid selected) {percent step : Int}
    (low : percent < selected) (positive : 0 < step) :
    let ramped := clampInt (clampInt (percent + step) 1 selected) 1 100
    percent < ramped ∧ ramped ≤ max 1 selected ∧ (0 ≤ percent → ramped ≤ percent + step) := by
  obtain ⟨lower, upper⟩ := range
  intro ramped
  have unfolded : ramped = clampInt (clampInt (percent + step) 1 selected) 1 100 := rfl
  unfold clampInt clamp at unfolded
  refine ⟨?_, ?_, fun nonneg => ?_⟩
  · split at unfolded <;> split at unfolded <;> omega
  · split at unfolded <;> split at unfolded <;> omega
  · split at unfolded <;> split at unfolded <;> omega

/-- The request approaches the selected speed, or 1 % when the curve selects 0 %. -/
theorem nextRequest_approaches (valid : fan.Valid) (celsius : Int) :
    Approaches (nextRequest cfg fan celsius) (max 1 (curveSelected fan celsius)) := by
  have range := curveSelected_range valid celsius
  have lower := range.1
  have cases (percent : Int) := @nextRequest_cases cfg fan valid celsius percent
  constructor
  · rcases cases (max 1 (curveSelected fan celsius)) with
      ⟨-, -, -, kept⟩ | ⟨-, ⟨selected, -⟩ | ⟨low, -, -⟩⟩
    · exact kept
    · exact selected
    · omega
  · intro percent below
    rcases cases percent with ⟨above, -⟩ | ⟨-, ⟨selected, -⟩ | ⟨low, positive, ramped⟩⟩
    · omega
    · rw [selected]
      exact ⟨below, le_refl _⟩
    · obtain ⟨up, upTo, -⟩ := ramped_bounds range low positive
      rw [ramped]
      exact ⟨up, upTo⟩
  · intro percent above
    rcases cases percent with ⟨-, -, -, kept⟩ | ⟨-, ⟨selected, -⟩ | ⟨low, -, -⟩⟩
    · exact Or.inl kept
    · exact Or.inr selected
    · omega

/-- The request lies between the current percent and the curve target, which is at least 1 %. -/
theorem nextRequest_between (valid : fan.Valid) (celsius percent : Int) :
    min percent (clampInt (curveSpeed fan celsius percent) 1 100) ≤
        nextRequest cfg fan celsius percent ∧
      nextRequest cfg fan celsius percent ≤
        max percent (clampInt (curveSpeed fan celsius percent) 1 100) := by
  have range := curveSelected_range valid celsius
  rcases @nextRequest_cases cfg fan valid celsius percent with
    ⟨-, -, -, kept⟩ | ⟨target, ⟨selected, -⟩ | ⟨low, positive, ramped⟩⟩
  · rw [kept]
    exact ⟨min_le_left _ _, le_max_left _ _⟩
  · rw [target, selected, clampInt_percent_of_nonneg range]
    exact ⟨min_le_right _ _, le_max_right _ _⟩
  · obtain ⟨up, upTo, -⟩ := ramped_bounds range low positive
    rw [target, ramped, clampInt_percent_of_nonneg range]
    exact ⟨le_trans (min_le_left _ _) (le_of_lt up), le_trans upTo (le_max_right _ _)⟩

/-- With a ramp the request rises by at most its step. -/
theorem nextRequest_ramps (valid : fan.Valid) {celsius percent : Int}
    (ramp : 0 < cfg.safety.autoRampUpPercent) (cool : ¬ RampBypassed cfg celsius)
    (nonneg : 0 ≤ percent) :
    nextRequest cfg fan celsius percent ≤ percent + cfg.safety.autoRampUpPercent := by
  have range := curveSelected_range valid celsius
  rcases @nextRequest_cases cfg fan valid celsius percent with
    ⟨-, -, -, kept⟩ | ⟨-, ⟨selected, free⟩ | ⟨low, positive, ramped⟩⟩
  · omega
  · rcases free with unramped | reached | bypassed
    · omega
    · rw [selected]
      omega
    · exact absurd bypassed cool
  · rw [ramped]
    exact (ramped_bounds range low positive).2.2 nonneg

end Next

/-! ## Auto mode polls -/

section Polls

variable (cfg : AnsConfig) (preset : CString) (start : FanBank) (inputs : ℕ → PollInput)

/-- The bank after this many polls in auto mode. -/
def autoPolls : ℕ → FanBank
  | 0 => start
  | n + 1 =>
      updateFanStates
        ⟨(autoPolls n).ec.refresh (inputs n).refreshed, (autoPolls n).states⟩
        (inputs n).sensors cfg true preset

def autoObserved (n : ℕ) : Observation :=
  refreshFanObservations ((autoPolls cfg preset start inputs n).ec.refresh (inputs n).refreshed)
    (inputs n).sensors cfg (autoPolls cfg preset start inputs n).states

/-- The percent fan `i` is at after `n` polls: the requested one, or the actual one before a request. -/
def autoRequest (i : Nat) (n : ℕ) : Int :=
  ((autoPolls cfg preset start inputs n).states i).statusRequestedPercent

/-- Every poll finds fan `i` at this temperature, nothing is forced and no write fails. -/
structure HeldAt (i : Nat) (celsius : Int) : Prop where
  percent : configSpeedValueValid (start.states i).percent
  requestedPercent : configSpeedValueValid (start.states i).requestedPercent
  reliable : start.ec.WritesSucceed
  positive : 0 < celsius
  available : ∀ n, ((autoObserved cfg preset start inputs n).states i).controlTempAvailable = true
  constant : ∀ n, ((autoObserved cfg preset start inputs n).states i).controlTempC = celsius
  calm : ∀ n, (autoObserved cfg preset start inputs n).forcedReason = .none

end Polls

/-- The requests `x` settle, for curve targets that depend on the current request. -/
structure Settles (cfg : AnsConfig) (celsius : Int) (target : Int → Int) (x : ℕ → Int) : Prop where
  monotone : Monotone x ∨ Antitone x
  ramps : 0 < cfg.safety.autoRampUpPercent → ¬ RampBypassed cfg celsius →
    ∀ n, x (n + 1) ≤ x n + cfg.safety.autoRampUpPercent
  between : ∀ n, min (x n) (target (x n)) ≤ x (n + 1) ∧ x (n + 1) ≤ max (x n) (target (x n))
  settled : ∀ n ≥ 101, x n = x 101

section Settling

variable {cfg : AnsConfig} {preset : CString} {start : FanBank} {inputs : ℕ → PollInput} {i : Nat}
  {celsius : Int}

theorem autoMode_daemon (preset : CString) : firmwareAutoMode true preset = false := rfl

theorem autoPolls_reliable (reliable : start.ec.WritesSucceed) (n : ℕ) :
    (autoPolls cfg preset start inputs n).ec.WritesSucceed := by
  induction n with
  | zero => exact reliable
  | succ n ih =>
      have found : ((autoPolls cfg preset start inputs n).ec.refresh
        (inputs n).refreshed).WritesSucceed := ih
      exact updateFanStates_writesSucceed found

/-- What a poll leaves of fan `i` when writes succeed. -/
theorem autoPolls_state (held : HeldAt cfg preset start inputs i celsius) (below : i < cfg.fanLen)
    (n : ℕ) : (autoPolls cfg preset start inputs (n + 1)).states i =
      roundState cfg true (autoObserved cfg preset start inputs n) i true := by
  obtain ⟨ok, worked, state⟩ := @updateFanStates_daemon_state cfg
    ⟨(autoPolls cfg preset start inputs n).ec.refresh (inputs n).refreshed,
      (autoPolls cfg preset start inputs n).states⟩ (inputs n).sensors true preset
    (autoMode_daemon preset) i below
  rw [worked (EcDevice.WritesSucceed.worked (autoPolls_reliable held.reliable n) _)] at state
  exact state

/-- A poll observes what the polls before it recorded. -/
theorem autoObserved_recorded (cfg : AnsConfig) (preset : CString) (start : FanBank)
    (inputs : ℕ → PollInput) (i : Nat) (n : ℕ) :
    ((autoObserved cfg preset start inputs n).states i).percent =
        ((autoPolls cfg preset start inputs n).states i).percent ∧
      ((autoObserved cfg preset start inputs n).states i).requestedPercent =
        ((autoPolls cfg preset start inputs n).states i).requestedPercent ∧
      ((autoObserved cfg preset start inputs n).states i).ecWriteFailures =
        ((autoPolls cfg preset start inputs n).states i).ecWriteFailures :=
  refreshFanObservations_recorded _ _ _ _ _

/-- The target of a poll follows from the current request. -/
theorem autoObserved_target (held : HeldAt cfg preset start inputs i celsius) (n : ℕ) :
    pollTarget cfg true (autoObserved cfg preset start inputs n) i =
      autoTarget cfg (cfg.fan i) celsius (autoRequest cfg preset start inputs i n) := by
  obtain ⟨percent, requested, -⟩ := autoObserved_recorded cfg preset start inputs i n
  have current : ((autoObserved cfg preset start inputs n).states i).statusRequestedPercent =
      autoRequest cfg preset start inputs i n := by
    unfold autoRequest FanState.statusRequestedPercent
    rw [percent, requested]
  have bypass : autoRampBypassTemperatureReached cfg
      ((autoObserved cfg preset start inputs n).states i) = true ↔ RampBypassed cfg celsius := by
    unfold autoRampBypassTemperatureReached RampBypassed
    rw [held.available n, held.constant n]
    simp
  unfold pollTarget pollPercent autoTarget autoRampedPercent
  dsimp only
  rw [current, held.constant n, held.calm n, if_pos rfl, if_pos held.positive,
    if_neg (show ¬ SafetyReason.none.hasValue = true by simp)]
  by_cases free : cfg.safety.autoRampUpPercent ≤ 0 ∨
      curveSpeed (cfg.fan i) celsius (autoRequest cfg preset start inputs i n) ≤
        autoRequest cfg preset start inputs i n
  · rw [if_pos free, if_pos (by tauto)]
  · by_cases bypassed : RampBypassed cfg celsius
    · rw [if_neg free, if_pos (bypass.mpr bypassed), if_pos (Or.inr (Or.inr bypassed))]
    · rw [if_neg free, if_neg fun reached => bypassed (bypass.mp reached), if_neg (by tauto)]

/-- A fan that a poll writes gets the next request. -/
theorem autoRequest_of_written (held : HeldAt cfg preset start inputs i celsius)
    (below : i < cfg.fanLen) {n : ℕ}
    (needs : NeedsWrite cfg true (autoObserved cfg preset start inputs n) i) :
    autoRequest cfg preset start inputs i (n + 1) =
      nextRequest cfg (cfg.fan i) celsius (autoRequest cfg preset start inputs i n) := by
  have positive := (clampInt_percent_bounds
    (pollTarget cfg true (autoObserved cfg preset start inputs n) i)).1
  rw [autoRequest, autoPolls_state held below, roundState, if_pos needs, nextRequest,
    ← autoObserved_target held]
  exact if_pos (show clampInt (pollTarget cfg true (autoObserved cfg preset start inputs n) i) 1 100
    > 0 by omega)

/-- Without a forced reason no fan has enough critical samples. -/
theorem autoObserved_criticalReason (held : HeldAt cfg preset start inputs i celsius)
    (below : i < cfg.fanLen) (n : ℕ) :
    criticalReason cfg ((autoObserved cfg preset start inputs n).states i) .none =
      if ((autoPolls cfg preset start inputs n).states i).ecWriteFailures ≥
        cfg.safety.maxEcWriteFailures then .ecWriteFailure else .none := by
  obtain ⟨-, -, failures⟩ := autoObserved_recorded cfg preset start inputs i n
  have few : ¬ ((autoObserved cfg preset start inputs n).states i).criticalTempSamples ≥
      cfg.safety.criticalConsecutiveSamples := by
    intro many
    exact (refreshFanObservations_forced _ _).mpr ⟨i, below, Or.inr many⟩ (held.calm n)
  unfold criticalReason
  rw [if_neg (by simp), failures]
  split
  · rfl
  · exact if_neg fun critical => few critical.2

/-- A fan that a poll does not write is not written by the next one, and stays where it is. -/
theorem autoPolls_quiet (held : HeldAt cfg preset start inputs i celsius) (below : i < cfg.fanLen)
    {n : ℕ} (quiet : ¬ NeedsWrite cfg true (autoObserved cfg preset start inputs n) i) :
    autoRequest cfg preset start inputs i (n + 1) = autoRequest cfg preset start inputs i n ∧
      ¬ NeedsWrite cfg true (autoObserved cfg preset start inputs (n + 1)) i := by
  obtain ⟨percent, requested, failures⟩ := autoObserved_recorded cfg preset start inputs i n
  obtain ⟨nextPercent, nextRequested, -⟩ :=
    autoObserved_recorded cfg preset start inputs i (n + 1)
  have state := autoPolls_state held below n
  rw [roundState, if_neg quiet] at state
  have same : SeesSame cfg (autoObserved cfg preset start inputs n)
      (autoObserved cfg preset start inputs (n + 1)) i := by
    constructor
    · rw [held.calm n, held.calm (n + 1)]
    · rw [held.calm n, autoObserved_criticalReason held below, autoObserved_criticalReason held below,
        state]
      change (if ((autoObserved cfg preset start inputs n).states i).ecWriteFailures ≥ _ then _ else _)
        = _
      rw [failures]
    · rw [held.available n, held.available (n + 1)]
    · rw [held.constant n, held.constant (n + 1)]
    · rw [nextPercent, state]
      rfl
    · rw [nextRequested, state]
      rfl
  refine ⟨?_, fun needs => quiet (same.needsWrite_iff.mp needs)⟩
  rw [autoRequest, state, autoRequest]
  change ((autoObserved cfg preset start inputs n).states i).statusRequestedPercent = _
  rw [FanState.statusRequestedPercent, percent, requested, FanState.statusRequestedPercent]

/-- The requests follow `nextRequest` until a poll finds nothing to write. -/
theorem autoRequest_follows (held : HeldAt cfg preset start inputs i celsius)
    (below : i < cfg.fanLen) :
    Follows (nextRequest cfg (cfg.fan i) celsius) (autoRequest cfg preset start inputs i) := by
  intro n
  by_cases needs : NeedsWrite cfg true (autoObserved cfg preset start inputs n) i
  · exact Or.inl (autoRequest_of_written held below needs)
  · have stays : ∀ m ≥ n, autoRequest cfg preset start inputs i m =
        autoRequest cfg preset start inputs i n ∧
          ¬ NeedsWrite cfg true (autoObserved cfg preset start inputs m) i := by
      intro m later
      induction m, later using Nat.le_induction with
      | base => exact ⟨rfl, needs⟩
      | succ m _ ih =>
          obtain ⟨same, quiet⟩ := autoPolls_quiet held below ih.2
          exact ⟨same.trans ih.1, quiet⟩
    exact Or.inr fun m later => (stays m later).1

theorem autoRequest_nonneg (held : HeldAt cfg preset start inputs i celsius)
    (below : i < cfg.fanLen) (n : ℕ) : 0 ≤ autoRequest cfg preset start inputs i n := by
  induction n with
  | zero =>
      unfold autoRequest FanState.statusRequestedPercent
      split
      · exact held.requestedPercent.1
      · exact held.percent.1
  | succ n ih =>
      rcases autoRequest_follows held below n with next | stuck
      · rw [next]
        exact le_trans (by decide) (clampInt_percent_bounds _).1
      · rw [stuck (n + 1) (Nat.le_succ n)]
        exact ih

/--
At a constant temperature auto mode settles: the requests are monotone, ramp up,
stay between the current one and the curve target, and are constant after 101 polls.
-/
theorem autoRequest_settles (valid : cfg.Valid) (below : i < cfg.fanLen)
    (held : HeldAt cfg preset start inputs i celsius) :
    Settles cfg celsius (fun percent => clampInt (curveSpeed (cfg.fan i) celsius percent) 1 100)
      (autoRequest cfg preset start inputs i) := by
  have fanValid := valid.fan below
  have approaches := @nextRequest_approaches cfg (cfg.fan i) fanValid celsius
  have follows := autoRequest_follows held below
  have nonneg := autoRequest_nonneg held below
  constructor
  · exact follows.monotone_or_antitone approaches
  · intro ramp cool n
    rcases follows n with next | stuck
    · rw [next]
      exact nextRequest_ramps fanValid ramp cool (nonneg n)
    · rw [stuck (n + 1) (Nat.le_succ n)]
      omega
  · intro n
    rcases follows n with next | stuck
    · rw [next]
      exact nextRequest_between fanValid celsius _
    · rw [stuck (n + 1) (Nat.le_succ n)]
      exact ⟨min_le_left _ _, le_max_left _ _⟩
  · have top := (curveSelected_range fanValid celsius).2
    have start := nonneg 0
    exact follows.settled approaches (by decide) (by push_cast; omega)

end Settling

/-! ## The shipped profile -/

/-- A poll of the shipped profile at one temperature, on an EC whose registers are all 0. -/
def steadyInput (celsius : Nat) : PollInput := ⟨AcerNitroAn517.cpuSensors celsius, fun _ => some 0⟩

section Steady

/-- A bank that has never seen another temperature, on an EC whose reads all work. -/
structure SteadyBank (celsius : Nat) (bank : FanBank) : Prop where
  reads : bank.ec.readFails = fun _ => false
  steady : ∀ i, (bank.states i).controlTempC ≤ 0 ∨ (bank.states i).controlTempC = celsius

/-- What a poll makes of a fan at a temperature that is not critical. -/
structure SteadyFan (celsius : Nat) (state : FanState) : Prop where
  control : state.control = ⟨celsius, 0, true, true⟩
  criticalTempSamples : state.criticalTempSamples = 0
  ecReadFailures : state.ecReadFailures = 0

variable {celsius : Nat}

theorem steadyReading (shown : celsius = 30 ∨ celsius = 60) {ec : EcDevice}
    (reads : ec.readFails = fun _ => false) :
    ∀ i < 2,
      (pollReading (ec.refresh (steadyInput celsius).refreshed) (steadyInput celsius).sensors
          AcerNitroAn517.config i).raw = 0 ∧
        (pollReading (ec.refresh (steadyInput celsius).refreshed) (steadyInput celsius).sensors
          AcerNitroAn517.config i).controlSensorTemp = celsius := by
  obtain ⟨regs, readFails, writeFails, log, writes⟩ := ec
  obtain rfl : readFails = fun _ => false := reads
  intro i below
  obtain rfl | rfl : i = 0 ∨ i = 1 := by omega
  · rcases shown with rfl | rfl
    · exact ⟨rfl, rfl⟩
    · exact ⟨rfl, rfl⟩
  · rcases shown with rfl | rfl
    · exact ⟨rfl, rfl⟩
    · exact ⟨rfl, rfl⟩

theorem steadyObserved (shown : celsius = 30 ∨ celsius = 60) {bank : FanBank}
    (steady : SteadyBank celsius bank) :
    ∀ i < 2, SteadyFan celsius ((refreshFanObservations
      (bank.ec.refresh (steadyInput celsius).refreshed) (steadyInput celsius).sensors
      AcerNitroAn517.config bank.states).states i) := by
  intro i below
  obtain ⟨raw, sample⟩ := steadyReading shown steady.reads i below
  have cold : ¬ (celsius : Int) ≥ AcerNitroAn517.config.criticalTemperatureC := by
    have critical : AcerNitroAn517.config.criticalTemperatureC = 90 := rfl
    omega
  have control :
      (bank.states i).control.refresh celsius AcerNitroAn517.config.criticalTemperatureC =
        ⟨celsius, 0, true, true⟩ := by
    have near : ¬ ((bank.states i).control.tempC > 0 ∧
        (celsius : Int) > (bank.states i).control.tempC ∧
        celsius - (bank.states i).control.tempC ≥ tempSpikeFilterDeltaC) := by
      have temp : (bank.states i).control.tempC ≤ 0 ∨ (bank.states i).control.tempC = celsius :=
        steady.steady i
      omega
    have filtered : fanFilteredSensorTemp (bank.states i).control.tempC
        (bank.states i).control.pendingSpikeTempC celsius (bank.states i).control.seeded
        AcerNitroAn517.config.criticalTemperatureC = ((celsius : Int), 0) := by
      rw [fanFilteredSensorTemp, if_neg (by omega), decide_eq_false cold, Bool.and_false,
        if_neg Bool.false_ne_true, if_neg near]
    rw [TempChannel.refresh, if_pos (by omega), filtered]
    rfl
  rw [refreshFanObservations_states, if_pos (show i < AcerNitroAn517.config.fanLen from below)]
  constructor
  · change (bank.states i).control.refresh _ _ = _
    rw [sample, control]
  · change countCriticalSample _ ((bank.states i).control.refresh _ _) _ = _
    rw [sample, control]
    rcases shown with rfl | rfl
    · rfl
    · rfl
  · change countReadFailure _ _ _ = _
    rw [raw]
    rfl

/-- The shipped profile in auto mode, from a bank without any request. -/
def steadyStart : FanBank := ⟨{ regs := fun _ => 0 }, fun _ => {}⟩

theorem steadyPoll (shown : celsius = 30 ∨ celsius = 60) {bank : FanBank}
    (steady : SteadyBank celsius bank) :
    SteadyBank celsius (updateFanStates
      ⟨bank.ec.refresh (steadyInput celsius).refreshed, bank.states⟩ (steadyInput celsius).sensors
      AcerNitroAn517.config true "auto".toList) := by
  have reads := @updateFanStates_daemon_readFails AcerNitroAn517.config
    ⟨bank.ec.refresh (steadyInput celsius).refreshed, bank.states⟩ (steadyInput celsius).sensors true
    "auto".toList (autoMode_daemon _)
  refine ⟨reads.trans steady.reads, fun i => ?_⟩
  have same := ((updateFanStates_changes AcerNitroAn517.config
    ⟨bank.ec.refresh (steadyInput celsius).refreshed, bank.states⟩ (steadyInput celsius).sensors true
    "auto".toList).states i).control
  have temp := congrArg TempChannel.tempC same
  by_cases below : i < 2
  · exact Or.inr (temp.trans
      (congrArg TempChannel.tempC (steadyObserved shown steady i below).control))
  · have unobserved := refreshFanObservations_states
      (bank.ec.refresh (steadyInput celsius).refreshed) (steadyInput celsius).sensors
      AcerNitroAn517.config bank.states i
    rw [if_neg (show ¬ i < AcerNitroAn517.config.fanLen from below)] at unobserved
    have kept := temp.trans (congrArg FanState.controlTempC unobserved)
    have before := steady.steady i
    rw [← kept] at before
    exact before

theorem steadyPolls (shown : celsius = 30 ∨ celsius = 60) (n : ℕ) :
    SteadyBank celsius (autoPolls AcerNitroAn517.config "auto".toList steadyStart
      (fun _ => steadyInput celsius) n) := by
  induction n with
  | zero => exact ⟨rfl, fun _ => Or.inl (le_refl 0)⟩
  | succ n ih => exact steadyPoll shown ih

theorem steadyHeld (shown : celsius = 30 ∨ celsius = 60) :
    HeldAt AcerNitroAn517.config "auto".toList steadyStart (fun _ => steadyInput celsius) 0
      celsius := by
  have fans (n : ℕ) := steadyObserved shown (steadyPolls shown n)
  constructor
  · decide
  · decide
  · exact fun _ => rfl
  · omega
  · exact fun n => congrArg TempChannel.available (fans n 0 (by decide)).control
  · exact fun n => congrArg TempChannel.tempC (fans n 0 (by decide)).control
  · intro n
    by_contra forced
    obtain ⟨i, below, reads | samples⟩ := (refreshFanObservations_forced _ _).mp forced
    · rw [(fans n i below).ecReadFailures] at reads
      exact absurd reads (by decide)
    · rw [(fans n i below).criticalTempSamples] at samples
      exact absurd samples (by decide)

end Steady

/-- At 60 °C the requests rise from 0 % to the curve's 44 %, at most 12 % a poll. -/
theorem autoRequest_settles_warm :
    Settles AcerNitroAn517.config 60
        (fun percent => clampInt (curveSpeed (AcerNitroAn517.config.fan 0) 60 percent) 1 100)
        (autoRequest AcerNitroAn517.config "auto".toList steadyStart (fun _ => steadyInput 60) 0) ∧
      (List.range 6).map
        (autoRequest AcerNitroAn517.config "auto".toList steadyStart (fun _ => steadyInput 60) 0) =
          [0, 12, 24, 36, 44, 44] :=
  ⟨autoRequest_settles AcerNitroAn517.config_valid (by decide) (steadyHeld (Or.inr rfl)),
    by decide +kernel⟩

/-- The first request of a fan at 0 % is 1 %, above the curve's 0 %. -/
theorem autoRequest_overshoots :
    ¬ ∀ (cfg : AnsConfig) (preset : CString) (start : FanBank) (inputs : ℕ → PollInput) (i : Nat)
      (celsius : Int), cfg.Valid → i < cfg.fanLen → HeldAt cfg preset start inputs i celsius →
        Settles cfg celsius (curveSpeed (cfg.fan i) celsius) (autoRequest cfg preset start inputs i) := by
  intro claim
  have settles := claim AcerNitroAn517.config "auto".toList steadyStart (fun _ => steadyInput 30) 0
    30 AcerNitroAn517.config_valid (by decide) (steadyHeld (Or.inl rfl))
  exact absurd (settles.between 0).2 (by decide +kernel)

end NitroSense
