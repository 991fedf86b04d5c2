import NitroSense.Lib.Streak
import NitroSense.Daemon.Polls

/-!
# Consecutive critical samples

`critical_temp_samples` should count critical samples in a row.  Between the
release and the critical temperature it is kept, because it is the latch of the
safety state as well, so samples in that band do not interrupt the count.
-/

namespace NitroSense

open Lib

section Accepted

variable (cfg : AnsConfig)

/-- One raw control sample, with the control temperatures accepted so far, newest first. -/
def TempChannel.accept (history : TempChannel × List Int) (sensorTemp : Int) :
    TempChannel × List Int :=
  let channel := history.1.refresh sensorTemp cfg.criticalTemperatureC
  (channel, if channel.available then channel.tempC :: history.2 else history.2)

/-- A control temperature that is counted. -/
def hot (celsius : Int) : Bool := decide (celsius ≥ cfg.criticalTemperatureC)

/-- A control temperature that clears the counter, unless it is counted. -/
def cold (celsius : Int) : Bool := decide (celsius ≤ cfg.safety.criticalReleaseTemperatureC)

/-- The control temperatures of fan `i` that the polls of a run accepted, newest first. -/
def acceptedTemps (start : Daemon) (i : Nat) (events : List Event) : List Int :=
  (run (TempChannel.accept cfg) ((start.states i).control, [])
    (controlSamples cfg i (polledSources cfg start events))).2

/-- The critical-sample counter of fan `i` reaches its limit in this event. -/
structure Daemon.ReachesLimit (daemon : Daemon) (i : Nat) (event : Event) : Prop where
  below : (daemon.states i).criticalTempSamples < cfg.safety.criticalConsecutiveSamples
  reached : ((daemon.step cfg event).states i).criticalTempSamples =
    cfg.safety.criticalConsecutiveSamples

/-- When the counter reaches its limit, as many accepted temperatures in a row are critical. -/
def LimitIsConsecutive (start : Daemon) (i : Nat) (earlier : List Event) (event : Event) : Prop :=
  (run (Daemon.step cfg) start earlier).ReachesLimit cfg i event →
    ∃ newest older, acceptedTemps cfg start i (earlier ++ [event]) = newest ++ older ∧
      (newest.length : Int) = cfg.safety.criticalConsecutiveSamples ∧
      ∀ celsius ∈ newest, celsius ≥ cfg.criticalTemperatureC

/--
When the counter reaches its limit, no temperature accepted since it was last
cleared is below the critical one and newer than a critical one.
-/
def LimitIsUnbroken (start : Daemon) (i : Nat) (earlier : List Event) (event : Event) : Prop :=
  (run (Daemon.step cfg) start earlier).ReachesLimit cfg i event →
    Unbroken (hot cfg) (cold cfg) (acceptedTemps cfg start i (earlier ++ [event]))

variable {cfg}

/-- The counter counts accepted temperatures only. -/
theorem countCriticalSample_eq (channel : TempChannel) (samples : Int) :
    countCriticalSample cfg channel samples =
      if channel.available then
        count (hot cfg) (cold cfg) cfg.safety.criticalConsecutiveSamples channel.tempC samples
      else samples := by
  unfold countCriticalSample count hot cold
  cases channel.available with
  | true => rfl
  | false => rfl

/-- A counter that starts at 0 is the count of the accepted temperatures. -/
theorem run_sample_counted {heat : Heat} (fresh : heat.samples = 0) (samples : List Int) :
    (run (Heat.sample cfg) heat samples).control =
        (run (TempChannel.accept cfg) (heat.control, []) samples).1 ∧
      (run (Heat.sample cfg) heat samples).samples =
        counted (hot cfg) (cold cfg) cfg.safety.criticalConsecutiveSamples
          (run (TempChannel.accept cfg) (heat.control, []) samples).2 := by
  induction samples using List.reverseRecOn with
  | nil => exact ⟨rfl, fresh⟩
  | append_singleton samples sensorTemp ih =>
      rw [run_concat, run_concat, Heat.sample, TempChannel.accept, countCriticalSample_eq, ih.1, ih.2]
      dsimp only
      split
      · exact ⟨rfl, rfl⟩
      · exact ⟨rfl, rfl⟩

end Accepted

section Runs

variable {cfg : AnsConfig} {i : Nat}

/-- An event accepts at most one more control temperature. -/
theorem acceptedTemps_concat (cfg : AnsConfig) (start : Daemon) (i : Nat) (earlier : List Event)
    (event : Event) :
    acceptedTemps cfg start i (earlier ++ [event]) = acceptedTemps cfg start i earlier ∨
      ∃ celsius, acceptedTemps cfg start i (earlier ++ [event]) =
        celsius :: acceptedTemps cfg start i earlier := by
  unfold acceptedTemps
  rw [polledSources_concat, controlSamples, List.map_append, run_append]
  cases (run (Daemon.step cfg) start earlier).polled cfg event with
  | none => exact Or.inl rfl
  | some source =>
      rw [Option.toList_some, List.map_singleton, run_cons, run_nil, TempChannel.accept]
      dsimp only
      split
      · exact Or.inr ⟨_, rfl⟩
      · exact Or.inl rfl

theorem startDaemon_samples (cfg : AnsConfig) (boot : Boot) (i : Nat) :
    ((startDaemon cfg boot).states i).criticalTempSamples = 0 := by
  have seeded := seedLastTemperatures_seededFrom boot.statusFile boot.cacheFile cfg
    (resetSpeedStates cfg) i
  rw [((startDaemon_changes cfg boot).states i).criticalTempSamples]
  refine seeded.criticalTempSamples.trans ?_
  unfold resetSpeedStates
  split
  · rfl
  · rfl

/-- In every run the counter of a fan is the count of the temperatures it accepted. -/
theorem run_counted (below : i < cfg.fanLen) (boot : Boot) (events : List Event) :
    ((run (Daemon.step cfg) (startDaemon cfg boot) events).states i).criticalTempSamples =
      counted (hot cfg) (cold cfg) cfg.safety.criticalConsecutiveSamples
        (acceptedTemps cfg (startDaemon cfg boot) i events) := by
  have heat := congrArg Heat.samples (run_heat below (startDaemon cfg boot) events)
  exact heat.trans (run_sample_counted (startDaemon_samples cfg boot i) _).2

theorem limitIsConsecutive_iff (valid : cfg.Valid) (below : i < cfg.fanLen) (boot : Boot)
    (earlier : List Event) (event : Event) :
    LimitIsConsecutive cfg (startDaemon cfg boot) i earlier event ↔
      LimitIsUnbroken cfg (startDaemon cfg boot) i earlier event := by
  have limit := valid.safety.criticalConsecutiveSamples.1
  refine forall_congr' fun reaches => ?_
  have before := reaches.below
  have after := reaches.reached
  rw [run_counted below] at before
  rw [← run_concat (Daemon.step cfg), run_counted below] at after
  rcases acceptedTemps_concat cfg (startDaemon cfg boot) i earlier event with same | ⟨celsius, next⟩
  · rw [same] at after
    omega
  · rw [next] at after ⊢
    rw [← newest_hot_iff (by omega) before after]
    simp only [hot, decide_eq_true_eq]

/--
In every run the counter of a fan reaches its limit on consecutive critical
temperatures exactly while no temperature below the critical one interrupts them.
-/
theorem limitIsConsecutive_each_iff (valid : cfg.Valid) (below : i < cfg.fanLen) (boot : Boot)
    (events : List Event) :
    AtEach (LimitIsConsecutive cfg (startDaemon cfg boot) i) events ↔
      AtEach (LimitIsUnbroken cfg (startDaemon cfg boot) i) events :=
  atEach_congr (limitIsConsecutive_iff valid below boot) events

end Runs

/-! ## The shipped profile -/

/-- 91 and 92 °C behind 85 °C are two critical samples in a row. -/
theorem limitIsConsecutive_rising :
    AtEach (LimitIsConsecutive AcerNitroAn517.config
        (startDaemon AcerNitroAn517.config shippedBoot) 0)
      ([some 85, some 91, some 92].map sampleEvent) := by
  refine (limitIsConsecutive_each_iff AcerNitroAn517.config_valid (by decide) shippedBoot _).mpr ?_
  refine (atEach_concat _ ([some 85, some 91].map sampleEvent) _).mpr
    ⟨(atEach_concat _ ([some 85].map sampleEvent) _).mpr
      ⟨(atEach_concat _ [] _).mpr ⟨atEach_nil _, fun _ => ?_⟩, fun _ => ?_⟩, fun _ => ?_⟩
  · decide +kernel
  · decide +kernel
  · decide +kernel

/--
The counter keeps the 91 °C sample while the fan is at 85 °C, so 92 °C makes it
reach 2.
-/
theorem limitIsConsecutive_fails :
    ¬ ∀ (cfg : AnsConfig) (boot : Boot) (i : Nat) (events : List Event), cfg.Valid →
      i < cfg.fanLen → AtEach (LimitIsConsecutive cfg (startDaemon cfg boot) i) events := by
  intro claim
  have consecutive : LimitIsConsecutive AcerNitroAn517.config
      (startDaemon AcerNitroAn517.config shippedBoot) 0
      ([some 80, some 91, some 85].map sampleEvent) (sampleEvent (some 92)) :=
    claim AcerNitroAn517.config shippedBoot 0 _ AcerNitroAn517.config_valid (by decide) _ _ [] rfl
  have reaches : (sampled [some 80, some 91, some 85]).ReachesLimit AcerNitroAn517.config 0
      (sampleEvent (some 92)) :=
    ⟨by decide +kernel, by decide +kernel⟩
  have accepted : acceptedTemps AcerNitroAn517.config
      (startDaemon AcerNitroAn517.config shippedBoot) 0
      ([some 80, some 91, some 85].map sampleEvent ++ [sampleEvent (some 92)]) =
        [92, 85, 91, 80] := by
    decide +kernel
  obtain ⟨newest, older, split, length, critical⟩ := consecutive reaches
  have two : newest.length = 2 := Int.ofNat_inj.mp length
  have recent : newest = [92, 85] := by
    have taken := congrArg (List.take 2) (accepted.symm.trans split)
    rw [← two, List.take_left, two] at taken
    exact taken.symm
  rw [recent] at critical
  exact absurd (critical 85 (by decide)) (by decide)

end NitroSense
