import NitroSense.Daemon.Polls

/-!
# Every step is an activity of fan control

From what its poll has observed on, an event of the loop is an activity.  Its
calls of `set_fan_percent` are made with the reason the poll returns, or by a
command with the global one.
-/

namespace NitroSense

open Lib EcDevice

/-- The EC accesses of the daemon beside its speeds. -/
inductive EcAccess (cfg : AnsConfig) (before : EcDevice) : EcDevice → Prop where
  | fanMode (mode : FanMode) : EcAccess cfg before (applyFanMode before cfg mode).1
  | initWrites : EcAccess cfg before (applyInitWrites before cfg)
  | aside {after : EcDevice} (within : WritesWithin (SideRegister cfg) before after) :
      EcAccess cfg before after

/-- What a poll's observation leaves, or the daemon as an event without a poll finds it. -/
def Daemon.decidingBank (cfg : AnsConfig) (daemon : Daemon) (event : Event) : FanBank :=
  match daemon.polled cfg event with
  | none => (daemon.found event).toFanBank
  | some source =>
      let observed := refreshFanObservations source.1 source.2 cfg daemon.states
      ⟨observed.ec, observed.states⟩

def Daemon.polledReason (cfg : AnsConfig) (daemon : Daemon) (event : Event) :
    Option SafetyReason :=
  (daemon.polled cfg event).map fun source =>
    (refreshFanObservations source.1 source.2 cfg daemon.states).forcedReason

/-! ## Every step is an activity of fan control -/

section Step

variable {cfg : AnsConfig} {sets : FanBank → Nat → Int → SafetyReason → Prop} {daemon : Daemon}
  {event : Event}

theorem decidingBank_states (cfg : AnsConfig) (daemon : Daemon) (event : Event) :
    (daemon.decidingBank cfg event).states =
      polledStates cfg daemon.states (daemon.polled cfg event) := by
  unfold Daemon.decidingBank
  cases daemon.polled cfg event with
  | none => rfl
  | some source => rfl

theorem EcAccess.switches : SwitchesModes cfg (EcAccess cfg) := fun _ mode => .fanMode mode

/-- What leaves the fans alone is one access aside. -/
theorem KeepsFans.activity {after : Daemon} (kept : KeepsFans cfg daemon after) :
    FanActivity cfg (EcAccess cfg) sets daemon.toFanBank after.toFanBank := by
  have bank : after.toFanBank = { daemon.toFanBank with ec := after.ec } :=
    congrArg FanControl.toFanBank kept.fanControl
  rw [bank]
  exact FanActivity.start.access (.aside kept.ec)

theorem poll_activity {activity : Option InputActivity}
    (calls : ∀ bank i requestedPercent, sets bank i requestedPercent
      (refreshFanObservations (daemon.beforeFans cfg activity).ec
        (daemon.beforeFans cfg activity).host.sensors cfg daemon.states).forcedReason) :
    let observed := refreshFanObservations (daemon.beforeFans cfg activity).ec
      (daemon.beforeFans cfg activity).host.sensors cfg daemon.states
    FanActivity cfg (EcAccess cfg) sets ⟨observed.ec, observed.states⟩
      (daemon.act cfg (.poll activity)).toFanBank := by
  have before := (beforeFans_keepsFans cfg daemon activity).states
  rw [← before] at calls ⊢
  have poll : FanActivity cfg (EcAccess cfg) sets _
      ((daemon.beforeFans cfg activity).updateFans cfg).toFanBank :=
    updateFanStates_activity EcAccess.switches calls
  exact poll.trans (writeRuntimeStatus_keepsFans cfg _).activity

/--
From its deciding bank on a running daemon's step is an activity: polls call
`set_fan_percent` with their reason, commands with the global one.
-/
theorem step_activity (running : daemon.running = true)
    (poll : ∀ forcedReason ∈ daemon.polledReason cfg event, ∀ bank i requestedPercent,
      sets bank i requestedPercent forcedReason)
    (global : SetsByGlobalReason cfg daemon.states sets) :
    FanActivity cfg (EcAccess cfg) sets (daemon.decidingBank cfg event)
      (daemon.step cfg event).toFanBank := by
  have goes : ¬ daemon.running = false := by simp [running]
  rw [Daemon.step, if_neg goes]
  by_cases polls : ∃ activity, event.action = .poll activity
  · obtain ⟨activity, isPoll⟩ := polls
    have polled : daemon.polled cfg event =
        some (((daemon.found event).beforeFans cfg activity).ec,
          ((daemon.found event).beforeFans cfg activity).host.sensors) := by
      simp only [Daemon.polled, isPoll, running, Bool.true_eq_false, if_false]
    rw [Daemon.polledReason, polled] at poll
    rw [isPoll, Daemon.decidingBank, polled]
    exact @poll_activity cfg sets (daemon.found event) activity (poll _ rfl)
  · have calm : daemon.polled cfg event = none := by
      unfold Daemon.polled
      split
      · rename_i activity isPoll
        exact absurd ⟨activity, isPoll⟩ polls
      · rfl
    rw [Daemon.decidingBank, calm]
    rcases act_cases cfg (daemon.found event) event.action with
      kept | ⟨activity, isPoll, _⟩ | ⟨request, _, fans, kept⟩
    · exact kept.activity
    · exact absurd ⟨activity, isPoll⟩ polls
    · have performed := @perform_activity cfg (EcAccess cfg) sets (daemon.found event)
        EcAccess.switches (fun _ => .initWrites) global request fans
      exact performed.trans kept.activity

end Step

end NitroSense
