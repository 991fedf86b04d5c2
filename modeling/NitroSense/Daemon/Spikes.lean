import NitroSense.Daemon.Polls
import NitroSense.Fan.SpikeMemory

/-!
# Spikes in a run of the daemon

A jump of a fan's control temperature should have been seen by the preceding
poll already.  It has, unless that poll could not read the temperature, or the
jump starts at 0 °C, which the filter takes for no temperature at all.
-/

namespace NitroSense

open Lib

/-- The seeded control temperature of fan `i` rises by a spike's height in this event. -/
structure Daemon.Rises (cfg : AnsConfig) (daemon : Daemon) (i : Nat) (event : Event) : Prop where
  seeded : (daemon.states i).controlTempSeeded = true
  rises : ((daemon.step cfg event).states i).controlTempC ≥
    (daemon.states i).controlTempC + tempSpikeFilterDeltaC

/--
If the control temperature of fan `i` rises so, the sample of the preceding poll
was close to the new temperature, and was kept back.
-/
def RiseConfirmed (cfg : AnsConfig) (start : Daemon) (i : Nat) (earlier : List Event)
    (event : Event) : Prop :=
  let before := run (Daemon.step cfg) start earlier
  before.Rises cfg i event →
    ConfirmedByPreceding cfg (start.states i).control
      (controlSamples cfg i (polledSources cfg start earlier))
      ((before.step cfg event).states i).controlTempC

/--
A poll that reads a jump of fan `i` finds its control temperature above 0 °C,
and a pending sample it repeats only when the preceding poll read a temperature.
-/
def PendingIsFresh (cfg : AnsConfig) (start : Daemon) (i : Nat) (earlier : List Event)
    (event : Event) : Prop :=
  let before := run (Daemon.step cfg) start earlier
  ∀ source ∈ before.polled cfg event,
    FreshPending (before.states i).control (before.states i).controlSensorTempC
      (pollReading source.1 source.2 cfg i).controlSensorTemp

instance (cfg : AnsConfig) (start : Daemon) (i : Nat) (earlier : List Event) (event : Event) :
    Decidable (PendingIsFresh cfg start i earlier event) :=
  inferInstanceAs (Decidable (∀ source ∈ Daemon.polled cfg _ event, _))

section Runs

variable {cfg : AnsConfig} {i : Nat}

theorem run_sample_control (heat : Heat) (samples : List Int) :
    (run (Heat.sample cfg) heat samples).control = heat.control.after cfg samples := by
  induction samples generalizing heat with
  | nil => rfl
  | cons sensorTemp rest ih => exact ih (heat.sample cfg sensorTemp)

/-- The control channel of a fan after a run. -/
theorem run_control (below : i < cfg.fanLen) (daemon : Daemon) (events : List Event) :
    ((run (Daemon.step cfg) daemon events).states i).control =
      (daemon.states i).control.after cfg (controlSamples cfg i (polledSources cfg daemon events)) := by
  have heat := run_heat below daemon events
  exact (congrArg Heat.control heat).trans (run_sample_control _ _)

/-- The daemon starts without a pending sample. -/
theorem startDaemon_control (cfg : AnsConfig) (boot : Boot) (i : Nat) :
    ((startDaemon cfg boot).states i).control.pendingSpikeTempC = 0 ∧
      -1 ≤ ((startDaemon cfg boot).states i).control.tempC := by
  have seeded := seedLastTemperatures_seededFrom boot.statusFile boot.cacheFile cfg
    (resetSpeedStates cfg) i
  have fresh : (resetSpeedStates cfg i).pendingControlSpikeTempC = 0 ∧
      0 ≤ (resetSpeedStates cfg i).controlTempC := by
    unfold resetSpeedStates
    split
    · exact ⟨rfl, le_refl 0⟩
    · exact ⟨rfl, le_refl 0⟩
  rw [((startDaemon_changes cfg boot).states i).control]
  constructor
  · exact seeded.pendingControlSpikeTempC.trans fresh.1
  · exact le_trans (by decide) (seedLastTemperatures_control_nonneg _ _ cfg fresh.2)

/-- An event without a poll keeps the control temperature. -/
theorem step_controlTempC (daemon : Daemon) (event : Event)
    (calm : daemon.polled cfg event = none) :
    ((daemon.step cfg event).states i).controlTempC = (daemon.states i).controlTempC := by
  have same := (step_sameObservations cfg daemon event i).control
  rw [calm] at same
  exact congrArg TempChannel.tempC same

theorem riseConfirmed_iff (below : i < cfg.fanLen) (boot : Boot) (earlier : List Event)
    (event : Event) :
    RiseConfirmed cfg (startDaemon cfg boot) i earlier event ↔
      PendingIsFresh cfg (startDaemon cfg boot) i earlier event := by
  obtain ⟨settled, floor⟩ := startDaemon_control cfg boot i
  unfold RiseConfirmed PendingIsFresh
  dsimp only
  cases polled : (run (Daemon.step cfg) (startDaemon cfg boot) earlier).polled cfg event with
  | none =>
      have rise : tempSpikeFilterDeltaC = 15 := rfl
      constructor
      · intro _ source found
        cases found
      · rintro _ ⟨-, rises⟩
        rw [step_controlTempC _ _ polled] at rises
        omega
  | some source =>
      have channel := run_control below (startDaemon cfg boot) earlier
      have next := congrArg Heat.control (@step_heat cfg (run (Daemon.step cfg)
        (startDaemon cfg boot) earlier) i below event)
      rw [polled, run_sample_control] at next
      have confirmed := @rise_confirmed_iff cfg _ (controlSamples cfg i
        (polledSources cfg (startDaemon cfg boot) earlier)) settled floor _
        (fun before previous samples => run_controlSensor below (startDaemon cfg boot) earlier
          samples) (pollReading source.1 source.2 cfg i).controlSensorTemp
      dsimp only at confirmed
      rw [← channel] at confirmed
      simp only [Option.mem_def, Option.some.injEq, forall_eq']
      have after : (((run (Daemon.step cfg) (startDaemon cfg boot) earlier).step cfg event).states
          i).controlTempC = (((run (Daemon.step cfg) (startDaemon cfg boot) earlier).states
            i).control.refresh (pollReading source.1 source.2 cfg i).controlSensorTemp
              cfg.criticalTemperatureC).tempC := congrArg TempChannel.tempC next
      rw [← confirmed, ← after]
      exact ⟨fun rise seeded rises => rise ⟨seeded, rises⟩, fun rise rises =>
        rise rises.seeded rises.rises⟩

/--
In every run the jumps of a fan's control temperature are confirmed by the
preceding poll exactly while the polls that read a jump find it pending since then.
-/
theorem riseConfirmed_each_iff (below : i < cfg.fanLen) (boot : Boot) (events : List Event) :
    AtEach (RiseConfirmed cfg (startDaemon cfg boot) i) events ↔
      AtEach (PendingIsFresh cfg (startDaemon cfg boot) i) events :=
  atEach_congr (riseConfirmed_iff below boot) events

end Runs

/-! ## The shipped profile -/

/-- 80 °C behind 50 °C is accepted at the second of two polls in a row. -/
theorem riseConfirmed_repeated :
    AtEach (RiseConfirmed AcerNitroAn517.config (startDaemon AcerNitroAn517.config shippedBoot) 0)
      ([some 50, some 80, some 81].map sampleEvent) := by
  refine (riseConfirmed_each_iff (by decide) shippedBoot _).mpr ?_
  refine (atEach_concat _ ([some 50, some 80].map sampleEvent) _).mpr
    ⟨(atEach_concat _ ([some 50].map sampleEvent) _).mpr
      ⟨(atEach_concat _ [] _).mpr ⟨atEach_nil _, ?_⟩, ?_⟩, ?_⟩
  · decide +kernel
  · decide +kernel
  · decide +kernel

/--
At 50 °C, 80 °C is kept back; the next poll reads no temperature, and the one
behind it accepts 80 °C at once.
-/
theorem riseConfirmed_fails :
    ¬ ∀ (cfg : AnsConfig) (boot : Boot) (i : Nat) (events : List Event), cfg.Valid →
      i < cfg.fanLen → AtEach (RiseConfirmed cfg (startDaemon cfg boot) i) events := by
  intro claim
  have confirmed : RiseConfirmed AcerNitroAn517.config
      (startDaemon AcerNitroAn517.config shippedBoot) 0 ([some 50, some 80, none].map sampleEvent)
      (sampleEvent (some 80)) :=
    claim AcerNitroAn517.config shippedBoot 0 _ AcerNitroAn517.config_valid (by decide) _ _ [] rfl
  have jump : (sampled [some 50, some 80, none]).Rises AcerNitroAn517.config 0
      (sampleEvent (some 80)) :=
    ⟨by decide +kernel, by decide +kernel⟩
  have samples : controlSamples AcerNitroAn517.config 0 (polledSources AcerNitroAn517.config
      (startDaemon AcerNitroAn517.config shippedBoot)
      ([some 50, some 80, none].map sampleEvent)) = [50, 80] ++ [-1] := by
    decide +kernel
  obtain ⟨before, previous, split, -, held⟩ := confirmed jump
  have last := (List.append_inj' (samples.symm.trans split) rfl).2
  have readable := held.readable
  rw [← List.singleton_inj.mp last] at readable
  exact absurd readable (by decide)

end NitroSense
