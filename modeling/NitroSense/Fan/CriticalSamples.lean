import NitroSense.Models
import NitroSense.Lib.Run
import NitroSense.Fan.Observation
import NitroSense.Fan.TemperatureCache

/-!
# Counting critical samples

Critical safety of one fan depends on its control channel and its counter
alone, so a run of the daemon is, for one fan, a run of `Heat` over the raw
control samples of its polls.  Along hot samples that run has two phases: the
leading samples the spike filter keeps back, and from the first one it counts
on every sample.
-/

namespace NitroSense

open Lib

/-! ## The counter of one fan -/

/-- What critical safety keeps of one fan. -/
structure Heat where
  control : TempChannel
  samples : Int
  deriving DecidableEq, Repr

/-- One poll with its raw control sample. -/
def Heat.sample (cfg : AnsConfig) (heat : Heat) (sensorTemp : Int) : Heat :=
  let control := heat.control.refresh sensorTemp cfg.criticalTemperatureC
  ⟨control, countCriticalSample cfg control heat.samples⟩

def FanState.heat (state : FanState) : Heat := ⟨state.control, state.criticalTempSamples⟩

/-- The temperature new samples are compared with, once one has been accepted or seeded. -/
def TempChannel.baseline (channel : TempChannel) : Option Int :=
  if channel.seeded then some channel.tempC else none

/-- A hot sample close enough to a trusted baseline, or over one that is critical itself. -/
def nearBaseline (cfg : AnsConfig) (baseline : Option Int) (sensorTemp : Int) : Bool :=
  baseline.any fun temp =>
    decide (temp ≥ cfg.criticalTemperatureC ∨ temp ≤ 0 ∨ sensorTemp - temp < tempSpikeFilterDeltaC)

/-- A sample that repeats the one the filter has kept back. -/
def repeatsPending (pending sensorTemp : Int) : Bool :=
  decide (pending > 0 ∧ (sensorTemp - pending).natAbs ≤ tempSpikeAcceptDeltaC)

/-- How many hot samples the filter keeps back before the first one that counts. -/
def leadingSpikes (cfg : AnsConfig) (baseline : Option Int) : Int → List Int → Nat
  | _, [] => 0
  | pending, sensorTemp :: rest =>
      if nearBaseline cfg baseline sensorTemp || repeatsPending pending sensorTemp then 0
      else leadingSpikes cfg baseline sensorTemp rest + 1

def Heat.spikes (cfg : AnsConfig) (heat : Heat) (samples : List Int) : Nat :=
  leadingSpikes cfg heat.control.baseline heat.control.pendingSpikeTempC samples

/-- The counter that survives a sample kept back: a baseline at release temperature clears it. -/
def Heat.keptSamples (cfg : AnsConfig) (heat : Heat) : Int :=
  if heat.control.baseline.any fun temp => temp ≤ cfg.safety.criticalReleaseTemperatureC then 0
  else heat.samples

section OneFan

variable {cfg : AnsConfig}

structure TempChannel.Critical (cfg : AnsConfig) (channel : TempChannel) : Prop where
  seeded : channel.seeded = true
  available : channel.available = true
  hot : channel.tempC ≥ cfg.criticalTemperatureC

/-- A hot sample near the baseline, or one that repeats the pending one, leaves a critical channel. -/
theorem refresh_critical {channel : TempChannel} {sensorTemp : Int}
    (positive : 0 < cfg.criticalTemperatureC) (hot : cfg.criticalTemperatureC ≤ sensorTemp)
    (counts : nearBaseline cfg channel.baseline sensorTemp = true ∨
      repeatsPending channel.pendingSpikeTempC sensorTemp = true) :
    (channel.refresh sensorTemp cfg.criticalTemperatureC).Critical cfg := by
  have readable : sensorTemp ≥ 0 := by omega
  have filtered : (fanFilteredSensorTemp channel.tempC channel.pendingSpikeTempC sensorTemp
      channel.seeded cfg.criticalTemperatureC).1 ≥ cfg.criticalTemperatureC := by
    unfold fanFilteredSensorTemp
    rw [if_neg (by omega)]
    simp only [nearBaseline, repeatsPending, TempChannel.baseline, decide_eq_true_eq] at counts
    cases seeded : channel.seeded with
    | false =>
        simp only [seeded, Bool.false_eq_true, if_false, Option.any_none, false_or] at counts
        rw [if_pos (by simpa using hot), if_pos counts]
        exact hot
    | true =>
        simp only [seeded, if_true, Option.any_some, decide_eq_true_eq] at counts
        simp only [Bool.not_true, Bool.false_and, Bool.false_eq_true, if_false]
        split
        · split
          · exact hot
          · rename_i jump notPending
            rcases counts with near | pending
            · change channel.tempC ≥ cfg.criticalTemperatureC
              omega
            · exact absurd pending notPending
        · exact hot
  rw [TempChannel.refresh, if_pos readable]
  dsimp only
  rw [if_pos (by omega)]
  exact ⟨rfl, rfl, filtered⟩

/-- A hot sample that is kept back leaves baseline and counter as they were, or clears the counter. -/
theorem sample_keptBack {heat : Heat} {sensorTemp : Int}
    (valid : cfg.Valid) (hot : cfg.criticalTemperatureC ≤ sensorTemp)
    (far : nearBaseline cfg heat.control.baseline sensorTemp = false)
    (fresh : repeatsPending heat.control.pendingSpikeTempC sensorTemp = false) :
    (heat.sample cfg sensorTemp).control.baseline = heat.control.baseline ∧
      (heat.sample cfg sensorTemp).control.pendingSpikeTempC = sensorTemp ∧
      (heat.sample cfg sensorTemp).samples = heat.keptSamples cfg := by
  have positive := valid.criticalTemperatureC.1
  have release := valid.safety.criticalReleaseTemperatureC
  have readable : sensorTemp ≥ 0 := by omega
  obtain ⟨⟨temp, pending, available, seeded⟩, samples⟩ := heat
  simp only [repeatsPending, decide_eq_false_iff_not] at fresh
  cases seeded with
  | false =>
      have unfiltered : fanFilteredSensorTemp temp pending sensorTemp false
          cfg.criticalTemperatureC = (-1, sensorTemp) := by
        rw [fanFilteredSensorTemp, if_neg (not_lt.mpr readable), if_pos (by simpa using hot),
          if_neg fresh]
      simp [Heat.sample, TempChannel.refresh, readable, unfiltered, TempChannel.baseline,
        Heat.keptSamples, countCriticalSample]
  | true =>
      simp only [nearBaseline, TempChannel.baseline, if_true, Option.any_some,
        decide_eq_false_iff_not, not_or, not_le, not_lt, ge_iff_le] at far
      obtain ⟨cool, warm, jump⟩ := far
      have rises : temp > 0 ∧ sensorTemp > temp ∧ sensorTemp - temp ≥ tempSpikeFilterDeltaC := by
        omega
      have held : fanFilteredSensorTemp temp pending sensorTemp true cfg.criticalTemperatureC =
          (temp, sensorTemp) := by
        rw [fanFilteredSensorTemp, if_neg (not_lt.mpr readable), if_neg (by simp), if_pos rises,
          if_neg fresh]
      have present : temp ≥ 0 := by omega
      simp [Heat.sample, TempChannel.refresh, readable, held, present, TempChannel.baseline,
        Heat.keptSamples, countCriticalSample, not_le.mpr cool]

/-- What a counted sample does to the counter. -/
theorem sample_counted {heat : Heat} {sensorTemp : Int}
    (critical : (heat.sample cfg sensorTemp).control.Critical cfg) :
    (heat.sample cfg sensorTemp).samples =
      if heat.samples < cfg.safety.criticalConsecutiveSamples then heat.samples + 1
      else heat.samples := by
  have counted : (heat.control.refresh sensorTemp cfg.criticalTemperatureC).available = true ∧
      (heat.control.refresh sensorTemp cfg.criticalTemperatureC).tempC ≥
        cfg.criticalTemperatureC := ⟨critical.available, critical.hot⟩
  simp [Heat.sample, countCriticalSample, counted]

/-- From a critical channel every further hot sample counts. -/
theorem run_critical {samples : List Int} {heat : Heat} (positive : 0 < cfg.criticalTemperatureC)
    (critical : heat.control.Critical cfg)
    (hot : ∀ sensorTemp ∈ samples, cfg.criticalTemperatureC ≤ sensorTemp) :
    cfg.safety.criticalConsecutiveSamples ≤ (run (Heat.sample cfg) heat samples).samples ↔
      cfg.safety.criticalConsecutiveSamples ≤ heat.samples + samples.length := by
  induction samples generalizing heat with
  | nil => simp
  | cons sensorTemp rest ih =>
      have near : nearBaseline cfg heat.control.baseline sensorTemp = true := by
        simp [nearBaseline, TempChannel.baseline, critical.seeded, critical.hot]
      have next : (heat.sample cfg sensorTemp).control.Critical cfg :=
        refresh_critical positive (hot sensorTemp List.mem_cons_self) (Or.inl near)
      rw [run_cons, ih next fun later member => hot later (List.mem_cons_of_mem _ member),
        sample_counted next, List.length_cons]
      split <;> omega

/--
Along hot samples the counter reaches its limit exactly when the samples that
count, added to what the counter held or kept, do.
-/
theorem run_hot {samples : List Int} {heat : Heat} (valid : cfg.Valid)
    (hot : ∀ sensorTemp ∈ samples, cfg.criticalTemperatureC ≤ sensorTemp) :
    cfg.safety.criticalConsecutiveSamples ≤ (run (Heat.sample cfg) heat samples).samples ↔
      cfg.safety.criticalConsecutiveSamples + heat.spikes cfg samples ≤
        (if heat.spikes cfg samples = 0 then heat.samples else heat.keptSamples cfg) +
          samples.length := by
  have positive : 0 < cfg.criticalTemperatureC := valid.criticalTemperatureC.1
  induction samples generalizing heat with
  | nil => simp [Heat.spikes, leadingSpikes]
  | cons sensorTemp rest ih =>
      have later : ∀ next ∈ rest, cfg.criticalTemperatureC ≤ next :=
        fun next member => hot next (List.mem_cons_of_mem _ member)
      have here := hot sensorTemp List.mem_cons_self
      cases counts : nearBaseline cfg heat.control.baseline sensorTemp ||
          repeatsPending heat.control.pendingSpikeTempC sensorTemp with
      | true =>
          have none : heat.spikes cfg (sensorTemp :: rest) = 0 := by
            simp [Heat.spikes, leadingSpikes, counts]
          have critical : (heat.sample cfg sensorTemp).control.Critical cfg :=
            refresh_critical positive here (Bool.or_eq_true _ _ ▸ counts)
          rw [none, run_cons, run_critical positive critical later, sample_counted critical,
            List.length_cons]
          simp only [if_true]
          split <;> omega
      | false =>
          obtain ⟨far, fresh⟩ := Bool.or_eq_false_iff.mp counts
          obtain ⟨baseline, pending, kept⟩ := sample_keptBack valid here far fresh
          have more : heat.spikes cfg (sensorTemp :: rest) =
              (heat.sample cfg sensorTemp).spikes cfg rest + 1 := by
            simp [Heat.spikes, leadingSpikes, counts, baseline, pending]
          have again : (heat.sample cfg sensorTemp).keptSamples cfg = heat.keptSamples cfg := by
            simp only [Heat.keptSamples, baseline, kept]
            split <;> rfl
          refine (ih later).trans ?_
          rw [more, kept, again, List.length_cons, if_neg (Nat.succ_ne_zero _)]
          push_cast
          split <;> omega

end OneFan

/-! ## Polls of the daemon -/

/-- The fan states a daemon can have. -/
inductive ReachableStates (cfg : AnsConfig) : FanStates → Prop where
  | start (statusFile cacheFile : Option CString) :
      ReachableStates cfg (seedLastTemperatures statusFile cacheFile cfg (resetSpeedStates cfg))
  | poll {states : FanStates} (ec : EcDevice) (sensors : Sensors)
      (reachable : ReachableStates cfg states) :
      ReachableStates cfg (refreshFanObservations ec sensors cfg states).states
  | control {before after : FanStates} (reachable : ReachableStates cfg before)
      (same : SameObservations before after) : ReachableStates cfg after

/-- Polls one after the other, with what the last one returns. -/
inductive Polls (cfg : AnsConfig) : FanStates → List (EcDevice × Sensors) → Observation → Prop where
  | last (states : FanStates) (ec : EcDevice) (sensors : Sensors) :
      Polls cfg states [(ec, sensors)] (refreshFanObservations ec sensors cfg states)
  | next {states later : FanStates} {ec : EcDevice} {sensors : Sensors}
      {sources : List (EcDevice × Sensors)} {returned : Observation}
      (same : SameObservations (refreshFanObservations ec sensors cfg states).states later)
      (rest : Polls cfg later sources returned) :
      Polls cfg states ((ec, sensors) :: sources) returned

def controlSamples (cfg : AnsConfig) (i : Nat) (sources : List (EcDevice × Sensors)) : List Int :=
  sources.map fun source => (pollReading source.1 source.2 cfg i).controlSensorTemp

section Polls

variable {cfg : AnsConfig} {states : FanStates} {i : Nat}

theorem observeFan_heat (cfg : AnsConfig) (state : FanState) (reading : FanReading) :
    (observeFan cfg state reading).heat = state.heat.sample cfg reading.controlSensorTemp := rfl

theorem FanState.SameObservation.heat {first second : FanState}
    (same : first.SameObservation second) : second.heat = first.heat := by
  rw [FanState.heat, same.control, same.criticalTempSamples, FanState.heat]

theorem refreshFanObservations_heat (below : i < cfg.fanLen) (ec : EcDevice) (sensors : Sensors) :
    ((refreshFanObservations ec sensors cfg states).states i).heat =
      (states i).heat.sample cfg (pollReading ec sensors cfg i).controlSensorTemp := by
  rw [refreshFanObservations_states, if_pos below, observeFan_heat]

/-- For one fan a run of polls is a run over its raw control samples. -/
theorem Polls.heat (below : i < cfg.fanLen) {sources : List (EcDevice × Sensors)}
    {returned : Observation} (polls : Polls cfg states sources returned) :
    (returned.states i).heat =
      run (Heat.sample cfg) (states i).heat (controlSamples cfg i sources) := by
  induction polls with
  | last states ec sensors => exact refreshFanObservations_heat below ec sensors
  | next same rest ih =>
      rw [ih, (same i).heat, refreshFanObservations_heat below]
      rfl

theorem Polls.returned_eq {sources : List (EcDevice × Sensors)} {returned : Observation}
    (polls : Polls cfg states sources returned) :
    ∃ ec sensors before, returned = refreshFanObservations ec sensors cfg before := by
  induction polls with
  | last states ec sensors => exact ⟨ec, sensors, states, rfl⟩
  | next same rest ih => exact ih

/-- The counter is never negative. -/
theorem ReachableStates.samples_nonneg (reachable : ReachableStates cfg states) :
    0 ≤ (states i).criticalTempSamples := by
  induction reachable with
  | start statusFile cacheFile =>
      rw [(seedLastTemperatures_seededFrom statusFile cacheFile cfg _ i).criticalTempSamples,
        resetSpeedStates]
      split <;> exact le_refl 0
  | poll ec sensors reachable ih =>
      rw [refreshFanObservations_states]
      split
      · change 0 ≤ countCriticalSample cfg _ _
        unfold countCriticalSample
        split
        · split <;> omega
        · split <;> omega
      · exact ih
  | control reachable same ih =>
      rw [(same i).criticalTempSamples]
      exact ih

/-- An observed fan that forces a reason. -/
def ForcesReason (cfg : AnsConfig) (state : FanState) : Prop :=
  state.ecReadFailures ≥ cfg.safety.maxEcReadFailures ∨
    state.criticalTempSamples ≥ cfg.safety.criticalConsecutiveSamples

theorem forcedByFan_ne_none {state : FanState} {forced : SafetyReason} :
    forcedByFan cfg state forced ≠ .none ↔ ForcesReason cfg state ∨ forced ≠ .none := by
  unfold forcedByFan ForcesReason
  by_cases reads : state.ecReadFailures ≥ cfg.safety.maxEcReadFailures
  · simp [reads]
  · by_cases calm : forced = .none
    · by_cases hot : state.criticalTempSamples ≥ cfg.safety.criticalConsecutiveSamples <;>
        simp [reads, calm, hot]
    · simp [reads, calm]

/-- A poll forces a reason exactly when one of the observed fans does. -/
theorem refreshFanObservations_forced (ec : EcDevice) (sensors : Sensors) :
    (refreshFanObservations ec sensors cfg states).forcedReason ≠ .none ↔
      ∃ i < cfg.fanLen,
        ForcesReason cfg ((refreshFanObservations ec sensors cfg states).states i) := by
  suffices rounds : ∀ count,
      (loop count (observeRound sensors cfg) ⟨ec, states, .none⟩).forcedReason ≠ .none ↔
        ∃ i < count, ForcesReason cfg (observeFan cfg (states i) (pollReading ec sensors cfg i)) by
    rw [refreshFanObservations, rounds cfg.fanLen]
    refine exists_congr fun i => and_congr_right fun below => ?_
    have observed := refreshFanObservations_states ec sensors cfg states i
    rw [if_pos below, refreshFanObservations] at observed
    rw [observed]
  intro count
  induction count with
  | zero => simp
  | succ count ih =>
      rw [observeRounds_forced_succ, forcedByFan_ne_none, ih]
      constructor
      · rintro (now | ⟨j, earlier, forces⟩)
        · exact ⟨count, Nat.lt_succ_self count, now⟩
        · exact ⟨j, by omega, forces⟩
      · rintro ⟨j, upTo, forces⟩
        by_cases last : j = count
        · exact Or.inl (last ▸ forces)
        · exact Or.inr ⟨j, by omega, forces⟩

/-! ## Sustained overheating -/

/-- As many hot polls as the limit, and one more. -/
structure SustainedHeat (cfg : AnsConfig) (i : Nat) (sources : List (EcDevice × Sensors)) : Prop where
  length : (sources.length : Int) = cfg.safety.criticalConsecutiveSamples + 1
  hot : ∀ sensorTemp ∈ controlSamples cfg i sources, cfg.criticalTemperatureC ≤ sensorTemp

/-- Apart from one sample, the samples kept back at first are made up for by the counter. -/
def FewSpikes (cfg : AnsConfig) (state : FanState) (samples : List Int) : Prop :=
  (state.heat.spikes cfg samples : Int) ≤ state.heat.keptSamples cfg + 1

instance (cfg : AnsConfig) (state : FanState) (samples : List Int) :
    Decidable (FewSpikes cfg state samples) :=
  inferInstanceAs (Decidable (_ ≤ _))

/-- After sustained heat the counter is at its limit exactly when few samples were kept back. -/
theorem criticalSamples_iff (valid : cfg.Valid) (reachable : ReachableStates cfg states)
    (below : i < cfg.fanLen) {sources : List (EcDevice × Sensors)} {returned : Observation}
    (polls : Polls cfg states sources returned) (heat : SustainedHeat cfg i sources) :
    cfg.safety.criticalConsecutiveSamples ≤ (returned.states i).criticalTempSamples ↔
      FewSpikes cfg (states i) (controlSamples cfg i sources) := by
  have counter : (returned.states i).criticalTempSamples =
      (run (Heat.sample cfg) (states i).heat (controlSamples cfg i sources)).samples := by
    rw [← polls.heat below]
    rfl
  have nonneg : 0 ≤ (states i).heat.samples := reachable.samples_nonneg
  have keptNonneg : 0 ≤ (states i).heat.keptSamples cfg := by
    unfold Heat.keptSamples
    split
    · exact le_refl 0
    · exact nonneg
  have length : ((controlSamples cfg i sources).length : Int) =
      cfg.safety.criticalConsecutiveSamples + 1 := by
    rw [controlSamples, List.length_map]
    exact heat.length
  rw [counter, run_hot valid heat.hot, length, FewSpikes]
  split
  · rename_i none
    rw [none]
    omega
  · omega

/-- Sustained heat of one fan forces a reason, unless the filter keeps back too many samples. -/
theorem sustainedHeat_forces (valid : cfg.Valid) (reachable : ReachableStates cfg states)
    (below : i < cfg.fanLen) {sources : List (EcDevice × Sensors)} {returned : Observation}
    (polls : Polls cfg states sources returned) (heat : SustainedHeat cfg i sources)
    (few : FewSpikes cfg (states i) (controlSamples cfg i sources)) :
    returned.forcedReason ≠ .none := by
  have reached := (criticalSamples_iff valid reachable below polls heat).mpr few
  obtain ⟨ec, sensors, before, returned_eq⟩ := polls.returned_eq
  rw [returned_eq] at reached ⊢
  exact (refreshFanObservations_forced ec sensors).mpr ⟨i, below, Or.inr reached⟩

end Polls

/-! ## The shipped profile -/

/-- The EC and the sensors of a poll whose CPU sensor reads `celsius`. -/
def pollSource (celsius : Nat) : EcDevice × Sensors :=
  ({ regs := fun _ => 0 }, AcerNitroAn517.cpuSensors celsius)

/-- A fresh daemon without any recorded temperatures. -/
def freshStates : FanStates :=
  seedLastTemperatures none none AcerNitroAn517.config (resetSpeedStates AcerNitroAn517.config)

/-- What the last of three polls of a fresh daemon returns. -/
def freshReturn (first second third : Nat) : Observation :=
  let poll (celsius : Nat) (states : FanStates) :=
    refreshFanObservations (pollSource celsius).1 (pollSource celsius).2 AcerNitroAn517.config states
  poll third (poll second (poll first freshStates).states).states

theorem freshPolls (first second third : Nat) :
    Polls AcerNitroAn517.config freshStates
      [pollSource first, pollSource second, pollSource third] (freshReturn first second third) :=
  .next (fun _ => .refl _) (.next (fun _ => .refl _) (.last _ _ _))

/-- At 95, 100 and 95 °C every sample is kept back and no reason is forced. -/
theorem sustainedHeat_fails :
    ¬ ∀ (cfg : AnsConfig) (states : FanStates) (i : Nat) (sources : List (EcDevice × Sensors))
      (returned : Observation), cfg.Valid → ReachableStates cfg states → i < cfg.fanLen →
        Polls cfg states sources returned → SustainedHeat cfg i sources →
          returned.forcedReason ≠ .none := by
  intro claim
  have forced := claim AcerNitroAn517.config freshStates 0 _ _ AcerNitroAn517.config_valid
    (.start none none) (by decide) (freshPolls 95 100 95) ⟨by decide, by decide⟩
  exact absurd (by decide) forced

/-- The CPU fan's samples confirm each other at 95, 97 and 103 °C. -/
theorem freshFewSpikes : FewSpikes AcerNitroAn517.config (freshStates 0)
    (controlSamples AcerNitroAn517.config 0 [pollSource 95, pollSource 97, pollSource 103]) := by
  decide

/-- At 95, 97 and 103 °C the second sample confirms the first. -/
theorem sustainedHeat_confirmed : (freshReturn 95 97 103).forcedReason ≠ .none :=
  sustainedHeat_forces AcerNitroAn517.config_valid (.start none none) (by decide)
    (freshPolls 95 97 103) ⟨by decide, by decide⟩ freshFewSpikes

end NitroSense
