import NitroSense.Daemon.Activity

/-!
# The latch of the critical temperature

The counter of critical samples is a latch: once it has reached its limit only
an observed temperature at or below the release temperature resets it.  While
it holds, every call of `set_fan_percent`, from a poll or from a command, is
made with a reason and so writes the critical speed.
-/

namespace NitroSense

open Lib EcDevice

/-- The counter of fan `i` has reached its limit. -/
def CriticalLatched (cfg : AnsConfig) (states : FanStates) (i : Nat) : Prop :=
  cfg.safety.criticalConsecutiveSamples ≤ (states i).criticalTempSamples

/-- The observed fan has a control temperature at or below the release temperature. -/
def ReleasesCritical (cfg : AnsConfig) (state : FanState) : Prop :=
  state.controlTempAvailable = true ∧
    state.controlTempC ≤ cfg.safety.criticalReleaseTemperatureC

/-- The event polls and releases fan `i`. -/
def Daemon.Releases (cfg : AnsConfig) (i : Nat) (daemon : Daemon) (event : Event) : Prop :=
  daemon.polled cfg event ≠ none ∧
    ReleasesCritical cfg ((daemon.decidingBank cfg event).states i)

/-- `set_fan_percent` writes the critical speed of the clamped request. -/
def WritesCriticalSpeed (cfg : AnsConfig) (bank : FanBank) (i : Nat) (requestedPercent : Int)
    (forcedReason : SafetyReason) : Prop :=
  (setFanPercent cfg bank i requestedPercent forcedReason).1.ec =
    (ecWriteByte bank.ec (cfg.fan i).writeRegister
      (criticalSafetyPercent cfg (cfg.fan i) (clampInt requestedPercent 1 100) forcedReason)).1

/-- What holds at an event while a fan is latched. -/
structure StaysCritical (cfg : AnsConfig) (i : Nat) (daemon : Daemon) (event : Event) : Prop where
  latched : CriticalLatched cfg (daemon.step cfg event).states i
  polledReason : ∀ reason ∈ daemon.polledReason cfg event, reason ≠ .none
  globalReason : globalSafetyReason cfg daemon.states ≠ .none ∧
    globalSafetyReason cfg (daemon.step cfg event).states ≠ .none
  counters : daemon.polled cfg event = none → ∀ j,
    ((daemon.step cfg event).states j).criticalTempSamples = (daemon.states j).criticalTempSamples
  speeds : daemon.running = true →
    FanActivity cfg (EcAccess cfg) (WritesCriticalSpeed cfg) (daemon.decidingBank cfg event)
      (daemon.step cfg event).toFanBank

section Latch

variable {cfg : AnsConfig} {states : FanStates} {daemon : Daemon} {event : Event} {i : Nat}

/-- A missing sample, or one above the release temperature, leaves a reached limit reached. -/
theorem countCriticalSample_latched {channel : TempChannel} {samples : Int}
    (reached : cfg.safety.criticalConsecutiveSamples ≤ samples)
    (held : ¬ (channel.available = true ∧
      channel.tempC ≤ cfg.safety.criticalReleaseTemperatureC)) :
    cfg.safety.criticalConsecutiveSamples ≤ countCriticalSample cfg channel samples := by
  unfold countCriticalSample
  split
  · split
    · omega
    · exact reached
  · rw [if_neg (by simpa using held)]
    exact reached

theorem refreshFanObservations_latched {ec : EcDevice} {sensors : Sensors}
    (latched : CriticalLatched cfg states i)
    (held : ¬ ReleasesCritical cfg ((refreshFanObservations ec sensors cfg states).states i)) :
    CriticalLatched cfg (refreshFanObservations ec sensors cfg states).states i := by
  unfold CriticalLatched
  rw [refreshFanObservations_states] at held ⊢
  split
  · rename_i below
    rw [if_pos below] at held
    exact countCriticalSample_latched latched held
  · exact latched

theorem SameObservations.criticalLatched {later : FanStates}
    (same : SameObservations states later) (latched : CriticalLatched cfg states i) :
    CriticalLatched cfg later i := by
  unfold CriticalLatched
  rw [(same i).criticalTempSamples]
  exact latched

/-- The loop returns a reason as soon as one has been found or a remaining fan is latched. -/
theorem globalSafetyReasonFrom_ne_none {fans : List Nat} {reason : SafetyReason}
    (some : reason ≠ .none ∨ ∃ j ∈ fans, CriticalLatched cfg states j) :
    globalSafetyReasonFrom cfg states fans reason ≠ .none := by
  induction fans generalizing reason with
  | nil =>
      rcases some with found | ⟨j, member, _⟩
      · exact found
      · cases member
  | cons first rest ih =>
      unfold globalSafetyReasonFrom
      split
      · simp
      · split
        · simp
        · apply ih
          rcases some with found | ⟨j, member, latched⟩
          · left
            split
            · simp
            · exact found
          · rcases List.mem_cons.mp member with rfl | later
            · left
              have reached : (states j).criticalTempSamples ≥
                cfg.safety.criticalConsecutiveSamples := latched
              rw [if_pos reached]
              simp
            · exact Or.inr ⟨j, later, latched⟩

theorem globalSafetyReason_of_latched (below : i < cfg.fanLen)
    (latched : CriticalLatched cfg states i) : globalSafetyReason cfg states ≠ .none :=
  globalSafetyReasonFrom_ne_none (Or.inr ⟨i, List.mem_range.mpr below, latched⟩)

/-- With a reason `set_fan_percent` writes the critical speed. -/
theorem setFanPercent_writesCriticalSpeed (valid : cfg.Valid) (below : i < cfg.fanLen)
    (bank : FanBank) (requestedPercent : Int) {forcedReason : SafetyReason}
    (forced : forcedReason ≠ .none) :
    WritesCriticalSpeed cfg bank i requestedPercent forcedReason := by
  have range : (cfg.fan i).writeMin ≤ (cfg.fan i).writeMax :=
    le_of_lt (valid.fan below).writeRange
  have reason : criticalReason cfg (bank.states i) forcedReason = forcedReason :=
    if_pos (SafetyReason.hasValue_eq_true.mpr forced)
  have decision : setFanDecision cfg bank i requestedPercent forcedReason =
      (criticalSafetyPercent cfg (cfg.fan i) (clampInt requestedPercent 1 100) forcedReason,
        forcedReason) := by
    rw [setFanDecision, fanSafetyAdjustPercent_of_critical (by rw [reason]; exact forced), reason]
  rw [WritesCriticalSpeed, setFanPercent_ec, decision, criticalSafetyPercent]
  simp only [clampInt]
  rw [clamp_clamp range]

/-- The poll of a latched fan returns a reason. -/
theorem polledReason_ne_none (below : i < cfg.fanLen)
    (latched : CriticalLatched cfg (daemon.decidingBank cfg event).states i) :
    ∀ reason ∈ daemon.polledReason cfg event, reason ≠ .none := by
  intro reason returned
  rw [decidingBank_states] at latched
  unfold Daemon.polledReason at returned
  cases polled : daemon.polled cfg event with
  | none => rw [polled] at returned; cases returned
  | some source =>
      rw [polled] at returned latched
      cases returned
      exact (refreshFanObservations_forced source.1 source.2).mpr ⟨i, below, Or.inr latched⟩

/-- The deciding bank of an event that does not release a latched fan is latched. -/
theorem decidingBank_latched (latched : CriticalLatched cfg daemon.states i)
    (held : ¬ daemon.Releases cfg i event) :
    CriticalLatched cfg (daemon.decidingBank cfg event).states i := by
  unfold Daemon.Releases at held
  rw [decidingBank_states] at held ⊢
  cases polled : daemon.polled cfg event with
  | none => exact latched
  | some source =>
      rw [polled] at held
      exact refreshFanObservations_latched latched fun releases => held ⟨by simp, releases⟩

/-- An event that does not release a latched fan leaves the latch and all it implies. -/
theorem step_staysCritical (valid : cfg.Valid) (below : i < cfg.fanLen)
    (latched : CriticalLatched cfg daemon.states i) (held : ¬ daemon.Releases cfg i event) :
    StaysCritical cfg i daemon event := by
  have deciding := decidingBank_latched latched held
  have returned := polledReason_ne_none below deciding
  have observed := step_sameObservations cfg daemon event
  rw [decidingBank_states] at deciding
  have after : CriticalLatched cfg (daemon.step cfg event).states i :=
    observed.criticalLatched deciding
  refine ⟨after, returned, ⟨globalSafetyReason_of_latched below latched,
    globalSafetyReason_of_latched below after⟩, ?_, ?_⟩
  · intro calm j
    rw [calm] at observed
    exact (observed j).criticalTempSamples
  · intro running
    have activity : FanActivity cfg (EcAccess cfg)
        (fun _ _ _ forcedReason => forcedReason ≠ .none) (daemon.decidingBank cfg event)
        (daemon.step cfg event).toFanBank :=
      step_activity running (fun reason member _ _ _ => returned reason member)
        fun _ _ _ states same => globalSafetyReason_of_latched below (same.criticalLatched latched)
    exact activity.mono fun bank j requestedPercent _ inside forced =>
      setFanPercent_writesCriticalSpeed valid inside bank requestedPercent forced

/--
From a daemon whose fan `i` is latched, along every run without a poll that
releases the fan, each event stays critical.
-/
theorem criticalTemperature_latches (valid : cfg.Valid) (below : i < cfg.fanLen)
    (latched : CriticalLatched cfg daemon.states i) {events : List Event}
    (held : Along (Daemon.step cfg) (fun daemon event => ¬ daemon.Releases cfg i event) daemon
      events) :
    Along (Daemon.step cfg) (StaysCritical cfg i) daemon events := by
  refine @Along.of_invariant _ _ (Daemon.step cfg) _ (StaysCritical cfg i) daemon
    (fun daemon => CriticalLatched cfg daemon.states i) events held latched ?_ ?_
  · intro daemon event kept before
    exact (step_staysCritical valid below before kept).latched
  · intro daemon event kept before
    exact step_staysCritical valid below before kept

end Latch

/-! ## The shipped profile -/

/-- A held daemon whose fans have been critical for two polls. -/
def hotDaemon : Daemon :=
  { heldDaemon false "manual".toList with states := fun _ => criticalState }

/-- A poll at 88 °C, between the release and the critical temperature, and a command. -/
def warmEvents : List Event :=
  [.poll { hotDaemon.host with sensors := AcerNitroAn517.cpuSensors 88 },
    .command hotDaemon.host "set all 20".toList]

/-- Both events leave the CPU fan critical. -/
theorem criticalTemperature_latches_warm :
    Along (Daemon.step AcerNitroAn517.config) (StaysCritical AcerNitroAn517.config 0) hotDaemon
      warmEvents := by
  refine criticalTemperature_latches AcerNitroAn517.config_valid (by decide) ?_ ?_
  · exact (by decide : (2 : Int) ≤ 2)
  · refine ⟨fun releases => ?_, fun releases => releases.1 rfl, trivial⟩
    exact absurd releases.2.2 (by decide)

end NitroSense
