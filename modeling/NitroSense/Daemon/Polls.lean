import NitroSense.Daemon.Loop
import NitroSense.Daemon.Start
import NitroSense.Fan.CriticalSamples
import NitroSense.Fan.FirmwareAuto

/-!
# The polls of a run

Whatever the EC answers, only a poll changes what the daemon has observed: a
start, a command and a tick leave all observations alone.  So the fan states of
every run are reachable ones, and a run is, for its fans, the sequence of its
polls.
-/

namespace NitroSense

open Lib

section Start

variable {cfg : AnsConfig} {daemon : Daemon}

theorem startDaemon_reachable (cfg : AnsConfig) (boot : Boot) :
    ReachableStates cfg (startDaemon cfg boot).states :=
  .control (.start boot.statusFile boot.cacheFile) (startDaemon_changes cfg boot).states

theorem KeepsFans.states {after : Daemon} (kept : KeepsFans cfg daemon after) :
    after.states = daemon.states :=
  congrArg (fun control => control.states) kept.fanControl

end Start

/-- In firmware-auto a poll of the loop is a step of a `FirmwareRun`. -/
theorem updateFans_firmwareRun {cfg : AnsConfig} {daemon : Daemon} (override : Option Nat)
    (owned : daemon.autoMode = false) (firmware : daemon.preset = firmwareAutoPreset) :
    (daemon.updateFans cfg).toFanBank =
      (FirmwareRun.step cfg ⟨daemon.toFanBank, override⟩
        ⟨daemon.host.sensors, fun _ => none⟩).bank := by
  rw [Daemon.updateFans, owned, firmware]
  rfl

/-! ## Runs -/

/-- What an event's poll reads, if the event polls. -/
def Daemon.polled (cfg : AnsConfig) (daemon : Daemon) (event : Event) :
    Option (EcDevice × Sensors) :=
  match event.action with
  | .poll activity =>
      let before := (daemon.found event).beforeFans cfg activity
      if daemon.running = false then none else some (before.ec, before.host.sensors)
  | _ => none

def polledSources (cfg : AnsConfig) : Daemon → List Event → List (EcDevice × Sensors)
  | _, [] => []
  | daemon, event :: events =>
      (daemon.polled cfg event).toList ++ polledSources cfg (daemon.step cfg event) events

/-- The states with the observation of a poll, if there is one. -/
def polledStates (cfg : AnsConfig) (states : FanStates) : Option (EcDevice × Sensors) → FanStates
  | none => states
  | some source => (refreshFanObservations source.1 source.2 cfg states).states

section Steps

variable {cfg : AnsConfig} {daemon : Daemon} {event : Event}

theorem poll_sameObservations (cfg : AnsConfig) (daemon : Daemon)
    (activity : Option InputActivity) :
    SameObservations (refreshFanObservations (daemon.beforeFans cfg activity).ec
      (daemon.beforeFans cfg activity).host.sensors cfg daemon.states).states
      (daemon.act cfg (.poll activity)).states := by
  have before := (beforeFans_keepsFans cfg daemon activity).states
  rw [← before]
  exact (updateFanStates_changes cfg (daemon.beforeFans cfg activity).toFanBank _ _ _).states

/-- Apart from its poll a step observes nothing. -/
theorem step_sameObservations (cfg : AnsConfig) (daemon : Daemon) (event : Event) :
    SameObservations (polledStates cfg daemon.states (daemon.polled cfg event))
      (daemon.step cfg event).states := by
  cases running : daemon.running with
  | false =>
      have idle : daemon.polled cfg event = none := by
        unfold Daemon.polled
        split
        · exact if_pos running
        · rfl
      rw [idle, Daemon.step, if_pos running]
      exact SameObservations.refl _
  | true =>
      rw [Daemon.step, if_neg (by simp [running])]
      by_cases polls : ∃ activity, event.action = .poll activity
      · obtain ⟨activity, isPoll⟩ := polls
        simp only [Daemon.polled, isPoll, running, Bool.true_eq_false, if_false]
        exact poll_sameObservations cfg (daemon.found event) activity
      · have calm : daemon.polled cfg event = none := by
          unfold Daemon.polled
          split
          · rename_i activity isPoll
            exact absurd ⟨activity, isPoll⟩ polls
          · rfl
        rw [calm]
        rcases act_cases cfg (daemon.found event) event.action with
          kept | ⟨activity, isPoll, _⟩ | ⟨request, _, fans, kept⟩
        · exact .of_eq kept.states
        · exact absurd ⟨activity, isPoll⟩ polls
        · have performed := @perform_changes cfg (daemon.found event) request fans
          exact performed.states.trans (.of_eq kept.states)

end Steps

section Runs

variable {cfg : AnsConfig} {daemon : Daemon}

theorem run_keepsReachable (reachable : ReachableStates cfg daemon.states) (events : List Event) :
    ReachableStates cfg (run (Daemon.step cfg) daemon events).states := by
  refine run_preserves (fun daemon : Daemon => ReachableStates cfg daemon.states) reachable ?_
    events
  intro daemon event before
  refine .control ?_ (step_sameObservations cfg daemon event)
  cases daemon.polled cfg event with
  | none => exact before
  | some source => exact .poll source.1 source.2 before

/-- The fan states after every run of the daemon are reachable. -/
theorem run_reachable (cfg : AnsConfig) (boot : Boot) (events : List Event) :
    ReachableStates cfg (run (Daemon.step cfg) (startDaemon cfg boot) events).states :=
  run_keepsReachable (startDaemon_reachable cfg boot) events

theorem polledSources_concat (cfg : AnsConfig) (daemon : Daemon) (events : List Event)
    (event : Event) :
    polledSources cfg daemon (events ++ [event]) = polledSources cfg daemon events ++
      ((run (Daemon.step cfg) daemon events).polled cfg event).toList := by
  induction events generalizing daemon with
  | nil => exact List.append_nil _
  | cons first rest ih =>
      rw [List.cons_append, polledSources, polledSources, ih, List.append_assoc, run_cons]

/-- For one fan a step is a run over the raw control sample of its poll, if there is one. -/
theorem step_heat {i : Nat} (below : i < cfg.fanLen) (event : Event) :
    ((daemon.step cfg event).states i).heat =
      run (Heat.sample cfg) (daemon.states i).heat
        (controlSamples cfg i (daemon.polled cfg event).toList) := by
  rw [(step_sameObservations cfg daemon event i).heat]
  cases daemon.polled cfg event with
  | none => rfl
  | some source => exact refreshFanObservations_heat below source.1 source.2

/-- For one fan a run of the daemon is a run over the raw control samples of its polls. -/
theorem run_heat {i : Nat} (below : i < cfg.fanLen) (daemon : Daemon) (events : List Event) :
    ((run (Daemon.step cfg) daemon events).states i).heat =
      run (Heat.sample cfg) (daemon.states i).heat
        (controlSamples cfg i (polledSources cfg daemon events)) := by
  induction events generalizing daemon with
  | nil => rfl
  | cons event rest ih =>
      rw [run_cons, ih, step_heat below, polledSources, controlSamples, controlSamples,
        controlSamples, List.map_append, run_append]

/-- The newest raw control sample is recorded. -/
theorem run_controlSensor {i : Nat} (below : i < cfg.fanLen) (daemon : Daemon)
    (events : List Event) {earlier : List Int} {newest : Int}
    (samples : controlSamples cfg i (polledSources cfg daemon events) = earlier ++ [newest]) :
    ((run (Daemon.step cfg) daemon events).states i).controlSensorTempC = newest := by
  induction events using List.reverseRecOn generalizing earlier with
  | nil => exact absurd samples (by simp [controlSamples, polledSources])
  | append_singleton events event ih =>
      have same := (step_sameObservations cfg (run (Daemon.step cfg) daemon events) event i)
      rw [polledSources_concat, controlSamples, List.map_append] at samples
      rw [run_concat, same.controlSensorTempC]
      cases polled : (run (Daemon.step cfg) daemon events).polled cfg event with
      | none =>
          rw [polled, Option.toList_none, List.map_nil, List.append_nil] at samples
          exact ih samples
      | some source =>
          rw [polled] at samples
          have last := List.singleton_inj.mp (List.append_inj' samples rfl).2
          rw [polledStates, refreshFanObservations_states, if_pos below, ← last]
          rfl

/-- A run without polls leaves the observations alone. -/
theorem run_withoutPolls {events : List Event} (none : polledSources cfg daemon events = []) :
    SameObservations daemon.states (run (Daemon.step cfg) daemon events).states := by
  induction events generalizing daemon with
  | nil => exact SameObservations.refl _
  | cons event rest ih =>
      obtain ⟨calm, later⟩ := List.append_eq_nil_iff.mp none
      have step := step_sameObservations cfg daemon event
      rw [Option.toList_eq_nil_iff.mp calm] at step
      exact step.trans (ih later)

/-- A run with polls is, for the observations, the sequence of them. -/
theorem run_polls {events : List Event} (polls : polledSources cfg daemon events ≠ []) :
    ∃ first returned, SameObservations daemon.states first ∧
      Polls cfg first (polledSources cfg daemon events) returned ∧
      SameObservations returned.states (run (Daemon.step cfg) daemon events).states := by
  induction events generalizing daemon with
  | nil => exact absurd rfl polls
  | cons event rest ih =>
      have step := step_sameObservations cfg daemon event
      have sources : polledSources cfg daemon (event :: rest) =
        (daemon.polled cfg event).toList ++ polledSources cfg (daemon.step cfg event) rest := rfl
      rw [sources] at polls ⊢
      rw [run_cons]
      cases polled : daemon.polled cfg event with
      | none =>
          rw [polled] at polls step
          obtain ⟨first, returned, same, run, last⟩ := ih polls
          exact ⟨first, returned, step.trans same, run, last⟩
      | some source =>
          rw [polled] at step
          by_cases more : polledSources cfg (daemon.step cfg event) rest = []
          · rw [more]
            exact ⟨daemon.states, _, SameObservations.refl _, .last _ source.1 source.2,
              step.trans (run_withoutPolls more)⟩
          · obtain ⟨first, returned, same, run, last⟩ := ih more
            exact ⟨daemon.states, returned, SameObservations.refl _,
              .next (step.trans same) run, last⟩

/--
In a run whose polls see sustained heat of a fan, the fan's counter ends at its
limit exactly when the filter kept back few samples.
-/
theorem run_criticalSamples {i : Nat} {events : List Event} (valid : cfg.Valid)
    (reachable : ReachableStates cfg daemon.states) (below : i < cfg.fanLen)
    (heat : SustainedHeat cfg i (polledSources cfg daemon events)) :
    cfg.safety.criticalConsecutiveSamples ≤
        ((run (Daemon.step cfg) daemon events).states i).criticalTempSamples ↔
      FewSpikes cfg (daemon.states i)
        (controlSamples cfg i (polledSources cfg daemon events)) := by
  have polls : polledSources cfg daemon events ≠ [] := by
    intro none
    have length := heat.length
    have limit := valid.safety.criticalConsecutiveSamples.1
    rw [none, List.length_nil] at length
    omega
  obtain ⟨first, returned, same, run, last⟩ := run_polls polls
  rw [(last i).criticalTempSamples,
    criticalSamples_iff valid (.control reachable same) below run heat, FewSpikes, (same i).heat,
    FewSpikes]

end Runs

/-! ## The shipped profile -/

/-- The shipped daemon starts without state files on an EC whose writes all work. -/
def shippedBoot : Boot :=
  ⟨{ regs := fun _ => 0 }, { sensors := AcerNitroAn517.cpuSensors 50 }, none, none, none⟩

/-- A poll of the shipped daemon whose CPU sensor reads this temperature, or cannot be read. -/
def sampleEvent : Option Nat → Event
  | none => .poll { sensors := { hwmon := none } }
  | some celsius => .poll { sensors := AcerNitroAn517.cpuSensors celsius }

/-- The shipped daemon after polls of these temperatures. -/
def sampled (temperatures : List (Option Nat)) : Daemon :=
  run (Daemon.step AcerNitroAn517.config) (startDaemon AcerNitroAn517.config shippedBoot)
    (temperatures.map sampleEvent)

end NitroSense
