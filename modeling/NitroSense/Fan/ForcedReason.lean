import NitroSense.Models
import NitroSense.Fan.Observation
import NitroSense.Fan.Safety

/-!
# The forced reason of a poll and the global reason of a command

`refresh_fan_observations` accumulates a reason over the fans, while
`global_safety_reason` returns at the first fan that fails.  Both are brought
into the same form, a search through the fans; they differ by the EC write
failures, which the poll does not look at.
-/

namespace NitroSense

open Lib

/-- The fan's EC reads have failed up to the limit. -/
def ReadsFailing (cfg : AnsConfig) (state : FanState) : Prop :=
  cfg.safety.maxEcReadFailures ≤ state.ecReadFailures

/-- The fan's EC writes have failed up to the limit. -/
def WritesFailing (cfg : AnsConfig) (state : FanState) : Prop :=
  cfg.safety.maxEcWriteFailures ≤ state.ecWriteFailures

/-- The fan's critical samples have been counted up to the limit. -/
def CountedCritical (cfg : AnsConfig) (state : FanState) : Prop :=
  cfg.safety.criticalConsecutiveSamples ≤ state.criticalTempSamples

instance (cfg : AnsConfig) (state : FanState) : Decidable (ReadsFailing cfg state) :=
  inferInstanceAs (Decidable (_ ≤ _))

instance (cfg : AnsConfig) (state : FanState) : Decidable (WritesFailing cfg state) :=
  inferInstanceAs (Decidable (_ ≤ _))

instance (cfg : AnsConfig) (state : FanState) : Decidable (CountedCritical cfg state) :=
  inferInstanceAs (Decidable (_ ≤ _))

/-- The fan makes `global_safety_reason` return at once. -/
def fails (cfg : AnsConfig) (states : FanStates) (i : Nat) : Bool :=
  decide (ReadsFailing cfg (states i) ∨ WritesFailing cfg (states i))

section Reasons

variable {cfg : AnsConfig} {states : FanStates}

theorem globalSafetyReasonFrom_cons (first : Nat) (rest : List Nat) (reason : SafetyReason) :
    globalSafetyReasonFrom cfg states (first :: rest) reason =
      if ReadsFailing cfg (states first) then .ecReadFailure
      else if WritesFailing cfg (states first) then .ecWriteFailure
      else
        globalSafetyReasonFrom cfg states rest
          (if CountedCritical cfg (states first) then .criticalTemperature else reason) := rfl

theorem forcedByFan_eq (state : FanState) (forced : SafetyReason) :
    forcedByFan cfg state forced =
      if ReadsFailing cfg state then .ecReadFailure
      else if CountedCritical cfg state ∧ forced = .none then .criticalTemperature
      else forced := rfl

/-- `global_safety_reason` reports the first fan that fails, and else a critical temperature. -/
theorem globalSafetyReasonFrom_eq (fans : List Nat) (reason : SafetyReason) :
    globalSafetyReasonFrom cfg states fans reason =
      match fans.find? (fails cfg states) with
      | some i => if ReadsFailing cfg (states i) then .ecReadFailure else .ecWriteFailure
      | none =>
          if ∃ i ∈ fans, CountedCritical cfg (states i) then .criticalTemperature else reason := by
  induction fans generalizing reason with
  | nil => simp [globalSafetyReasonFrom]
  | cons first rest ih =>
      rw [globalSafetyReasonFrom_cons]
      by_cases reads : ReadsFailing cfg (states first)
      · have found : fails cfg states first = true := decide_eq_true (Or.inl reads)
        rw [if_pos reads, List.find?_cons_of_pos found]
        exact (if_pos reads).symm
      · rw [if_neg reads]
        by_cases writes : WritesFailing cfg (states first)
        · have found : fails cfg states first = true := decide_eq_true (Or.inr writes)
          rw [if_pos writes, List.find?_cons_of_pos found]
          exact (if_neg reads).symm
        · have passed : ¬ fails cfg states first = true := by simp [fails, reads, writes]
          rw [if_neg writes, List.find?_cons_of_neg passed, ih]
          cases rest.find? (fails cfg states) with
          | some i => rfl
          | none =>
              by_cases here : CountedCritical cfg (states first)
              · simp [here]
              · simp [here]

/-- A poll reports a failing read of any fan, and else a critical temperature. -/
theorem refreshFanObservations_reason (ec : EcDevice) (sensors : Sensors) :
    let observed := refreshFanObservations ec sensors cfg states
    observed.forcedReason =
      if ∃ i < cfg.fanLen, ReadsFailing cfg (observed.states i) then .ecReadFailure
      else if ∃ i < cfg.fanLen, CountedCritical cfg (observed.states i) then .criticalTemperature
      else .none := by
  suffices rounds : ∀ count ≤ cfg.fanLen,
      (loop count (observeRound sensors cfg) ⟨ec, states, .none⟩).forcedReason =
        if ∃ i < count, ReadsFailing cfg
            ((refreshFanObservations ec sensors cfg states).states i) then .ecReadFailure
        else if ∃ i < count, CountedCritical cfg
            ((refreshFanObservations ec sensors cfg states).states i) then .criticalTemperature
        else .none from rounds cfg.fanLen (le_refl _)
  intro count
  induction count with
  | zero => simp
  | succ count ih =>
      intro within
      have state := refreshFanObservations_states ec sensors cfg states count
      rw [if_pos (Nat.lt_of_succ_le within)] at state
      rw [observeRounds_forced_succ, ← state, ih (Nat.le_of_succ_le within), forcedByFan_eq]
      simp only [Nat.exists_lt_succ_right]
      generalize (refreshFanObservations ec sensors cfg states).states = observed
      by_cases reads : ReadsFailing cfg (observed count)
      · rw [if_pos reads, if_pos (Or.inr reads)]
      · by_cases earlier : ∃ i < count, ReadsFailing cfg (observed i)
        · simp [reads, earlier]
        · by_cases hot : ∃ i < count, CountedCritical cfg (observed i)
          · simp [reads, earlier, hot]
          · simp [reads, earlier, hot]

/-- The two loops agree exactly when a failing write is never the first failure. -/
theorem reasons_agree_iff (ec : EcDevice) (sensors : Sensors) :
    let observed := refreshFanObservations ec sensors cfg states
    observed.forcedReason = globalSafetyReason cfg observed.states ↔
      ∀ i < cfg.fanLen, WritesFailing cfg (observed.states i) →
        ∃ j ≤ i, ReadsFailing cfg (observed.states j) := by
  intro observed
  have forced : observed.forcedReason = _ := refreshFanObservations_reason ec sensors
  rw [forced, globalSafetyReason, globalSafetyReasonFrom_eq]
  cases first : (List.range cfg.fanLen).find? (fails cfg observed.states) with
  | none =>
      have passed : ∀ i < cfg.fanLen, ¬ (ReadsFailing cfg (observed.states i) ∨
          WritesFailing cfg (observed.states i)) := by
        simpa [fails] using List.find?_range_eq_none.mp first
      have reads : ¬ ∃ i < cfg.fanLen, ReadsFailing cfg (observed.states i) :=
        fun ⟨i, below, failing⟩ => passed i below (Or.inl failing)
      rw [if_neg reads]
      simp only [List.mem_range]
      constructor
      · intro _ i below failing
        exact absurd (Or.inr failing) (passed i below)
      · intro _
        trivial
  | some i =>
      obtain ⟨failing, member, earlier⟩ := List.find?_range_eq_some.mp first
      have below : i < cfg.fanLen := List.mem_range.mp member
      have passed : ∀ j < i, ¬ ReadsFailing cfg (observed.states j) ∧
          ¬ WritesFailing cfg (observed.states j) := by
        simpa [fails] using earlier
      dsimp only
      by_cases reads : ReadsFailing cfg (observed.states i)
      · rw [if_pos ⟨i, below, reads⟩, if_pos reads]
        constructor
        · intro _ j _ writes
          have later : i ≤ j := le_of_not_gt fun before => (passed j before).2 writes
          exact ⟨i, later, reads⟩
        · intro _
          rfl
      · have writes : WritesFailing cfg (observed.states i) := by
          simpa [fails, reads] using failing
        rw [if_neg reads]
        constructor
        · intro same
          split at same
          · cases same
          · split at same
            · cases same
            · cases same
        · intro covered
          obtain ⟨j, upTo, readsBefore⟩ := covered i below writes
          rcases Nat.lt_or_eq_of_le upTo with before | here
          · exact absurd readsBefore (passed j before).1
          · exact absurd (here ▸ readsBefore) reads

/-! ## In terms of what the poll finds -/

/-- A poll forces the reason that a command would find in the states it leaves. -/
def ForcesGlobalReason (ec : EcDevice) (sensors : Sensors) (cfg : AnsConfig)
    (states : FanStates) : Prop :=
  let observed := refreshFanObservations ec sensors cfg states
  observed.forcedReason = globalSafetyReason cfg observed.states

instance (ec : EcDevice) (sensors : Sensors) (cfg : AnsConfig) (states : FanStates) :
    Decidable (ForcesGlobalReason ec sensors cfg states) :=
  inferInstanceAs (Decidable (_ = _))

/-- The poll cannot read the fan's speed, for at least the last time that is tolerated. -/
def ReadFailsAgain (ec : EcDevice) (sensors : Sensors) (cfg : AnsConfig) (states : FanStates)
    (i : Nat) : Prop :=
  (pollReading ec sensors cfg i).raw < 0 ∧
    cfg.safety.maxEcReadFailures ≤ (states i).ecReadFailures + 1

/-- A fan whose EC writes keep failing stands behind a fan whose reads do, or is that fan. -/
def ReadsFailFirst (ec : EcDevice) (sensors : Sensors) (cfg : AnsConfig)
    (states : FanStates) : Prop :=
  ∀ i < cfg.fanLen, WritesFailing cfg (states i) →
    ∃ j ≤ i, ReadFailsAgain ec sensors cfg states j

theorem countReadFailure_reaches_iff (valid : cfg.Valid) (raw failures : Int) :
    cfg.safety.maxEcReadFailures ≤ countReadFailure cfg raw failures ↔
      raw < 0 ∧ cfg.safety.maxEcReadFailures ≤ failures + 1 := by
  have limit := valid.safety.maxEcReadFailures.1
  unfold countReadFailure
  split
  · rename_i unread
    split
    · exact ⟨fun reached => ⟨unread, reached⟩, fun reached => reached.2⟩
    · exact ⟨fun reached => ⟨unread, by omega⟩, fun _ => by omega⟩
  · rename_i read
    exact ⟨fun reached => by omega, fun reached => absurd reached.1 read⟩

theorem observed_readsFailing_iff (valid : cfg.Valid) {ec : EcDevice} {sensors : Sensors} {i : Nat}
    (below : i < cfg.fanLen) :
    ReadsFailing cfg ((refreshFanObservations ec sensors cfg states).states i) ↔
      ReadFailsAgain ec sensors cfg states i := by
  rw [refreshFanObservations_states, if_pos below]
  exact countReadFailure_reaches_iff valid _ _

/-- Observing leaves the count of failed writes alone. -/
theorem observed_writesFailing_iff {ec : EcDevice} {sensors : Sensors} {i : Nat} :
    WritesFailing cfg ((refreshFanObservations ec sensors cfg states).states i) ↔
      WritesFailing cfg (states i) := by
  rw [refreshFanObservations_states]
  split
  · exact Iff.rfl
  · exact Iff.rfl

/--
A poll forces the global reason exactly when every fan whose EC writes keep
failing has a fan with failing reads at or before it.
-/
theorem forcesGlobalReason_iff (valid : cfg.Valid) (ec : EcDevice) (sensors : Sensors) :
    ForcesGlobalReason ec sensors cfg states ↔ ReadsFailFirst ec sensors cfg states := by
  refine (reasons_agree_iff ec sensors).trans ?_
  refine forall_congr' fun i => forall_congr' fun below => ?_
  rw [observed_writesFailing_iff]
  refine imp_congr_right fun _ => exists_congr fun j => and_congr_right fun upTo => ?_
  exact observed_readsFailing_iff valid (lt_of_le_of_lt upTo below)

end Reasons

/-! ## The shipped profile -/

/-- Three EC writes to the CPU fan have failed. -/
def cpuWritesFailed : FanStates := fun i => if i = 0 then { ecWriteFailures := 3 } else {}

/-- The commands find the failing writes of the CPU fan; a poll at 50 °C forces nothing. -/
theorem forcesGlobalReason_fails :
    ¬ ∀ (cfg : AnsConfig) (ec : EcDevice) (sensors : Sensors) (states : FanStates), cfg.Valid →
      ForcesGlobalReason ec sensors cfg states := by
  intro claim
  have agrees := claim AcerNitroAn517.config { regs := fun _ => 0 } (AcerNitroAn517.cpuSensors 50)
    cpuWritesFailed AcerNitroAn517.config_valid
  exact absurd agrees (by decide)

/-- One more failed read of the CPU fan is the third; three EC writes to the GPU fan have failed. -/
def gpuWritesFailed : FanStates :=
  fun i => if i = 0 then { ecReadFailures := 2 } else { ecWriteFailures := 3 }

/-- The failing reads of the CPU fan come before the failing writes of the GPU fan. -/
theorem forcesGlobalReason_reads :
    (refreshFanObservations { regs := fun _ => 0, readFails := fun _ => true }
        (AcerNitroAn517.cpuSensors 50) AcerNitroAn517.config gpuWritesFailed).forcedReason =
          .ecReadFailure ∧
      ForcesGlobalReason { regs := fun _ => 0, readFails := fun _ => true }
        (AcerNitroAn517.cpuSensors 50) AcerNitroAn517.config gpuWritesFailed := by
  refine ⟨by decide, (forcesGlobalReason_iff AcerNitroAn517.config_valid _ _).mpr ?_⟩
  intro i _ _
  exact ⟨0, Nat.zero_le i, by decide, by decide⟩

end NitroSense
