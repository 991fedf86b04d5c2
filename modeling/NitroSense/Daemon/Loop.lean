import NitroSense.Lib.Run
import NitroSense.Commands.FanControl
import NitroSense.Fan.Poll

/-!
# The daemon's loop

`daemon/loop.c`.  An iteration of the loop may poll, see input and serve one
client; each of these is an event here, so a run is any interleaving of them.
What an action can do to fan control is said once, in `act_cases`.
-/

namespace NitroSense

open Lib EcDevice

/-- `handle_client`; `none` is a line `control_read_command` could not read. -/
def handleClient (cfg : AnsConfig) (daemon : Daemon) (line : Option CString) (canControl : Bool) :
    Daemon × CString :=
  match line with
  | none => (daemon, controlReply "error invalid command\n".toList)
  | some cmd => executeCommand cfg daemon cmd canControl

def maybeApplyPowerSourceProfile (cfg : AnsConfig) (daemon : Daemon) : Daemon :=
  let source := readPowerSource daemon.host.powerSupplies
  if source = .unknown ∨ source = daemon.lastPowerSource then daemon
  else
    let daemon := { daemon with lastPowerSource := source }
    if daemon.runtime.powerSourceAutoApply = false then daemon
    else
      match powerSourceProfileFor cfg source with
      | none => daemon
      | some _ => { daemon with ec := (applyPowerSourceProfile daemon.ec cfg source).1 }

def tickKeyboard (cfg : AnsConfig) (daemon : Daemon) (activity : Option InputActivity) : Daemon :=
  match activity with
  | none => daemon
  | some times =>
      let ticked := keyboardBacklightTimeoutTick daemon.ec cfg daemon.host.leds daemon.runtime
        times.nowMs times.lastActivityMs
      { daemon with ec := ticked.1, runtime := ticked.2 }

/-- The EC reads of `write_runtime_status`; the daemon never reads the files it writes again. -/
def writeRuntimeStatus (cfg : AnsConfig) (daemon : Daemon) : Daemon :=
  let fanMode := readFanMode daemon.ec cfg
  let profile := readPlatformProfile fanMode.1 cfg
  { daemon with ec := (keyboardBacklightReadAny profile.1 cfg daemon.host.leds).1 }

inductive Action where
  | poll (activity : Option InputActivity)
  | input (activity : InputActivity)
  | client (line : Option CString) (canControl : Bool)
  | signal

/-- An action, with the host it finds and the registers the EC has changed by itself. -/
structure Event where
  host : Host
  refreshed : Int → Option UInt8 := fun _ => none
  action : Action

/-- The line of a client with the permission. -/
def Event.command (host : Host) (line : CString) : Event :=
  { host := host, action := .client (some line) true }

/-- A poll without input devices. -/
def Event.poll (host : Host) : Event := { host := host, action := .poll none }

namespace Daemon

variable (cfg : AnsConfig) (daemon : Daemon)

/-- The daemon when an event begins. -/
def found (event : Event) : Daemon :=
  { daemon with host := event.host, ec := daemon.ec.refresh event.refreshed }

/-- A poll up to `update_fan_states`. -/
def beforeFans (activity : Option InputActivity) : Daemon :=
  tickKeyboard cfg (maybeApplyPowerSourceProfile cfg daemon) activity

/-- `update_fan_states` as the loop calls it. -/
def updateFans : Daemon :=
  { daemon with
    toFanBank :=
      updateFanStates daemon.toFanBank daemon.host.sensors cfg daemon.autoMode daemon.preset }

def act : Action → Daemon
  | .poll activity => writeRuntimeStatus cfg ((daemon.beforeFans cfg activity).updateFans cfg)
  | .input activity => tickKeyboard cfg daemon (some activity)
  | .client line canControl => writeRuntimeStatus cfg (handleClient cfg daemon line canControl).1
  | .signal => { daemon with running := false }

/-- One event of `run_daemon_loop`. -/
def step (event : Event) : Daemon :=
  if daemon.running = false then daemon else (daemon.found event).act cfg event.action

end Daemon

/-! ## What leaves fan control alone -/

/-- The registers outside fan control that the daemon writes. -/
def SideRegister (cfg : AnsConfig) (reg : Int) : Prop :=
  (cfg.platformProfiles.available = true ∧ reg = cfg.platformProfiles.reg) ∨
    (cfg.keyboardBacklight.available = true ∧ reg = cfg.keyboardBacklight.reg)

theorem SideRegister.mem_sideRegisters {cfg : AnsConfig} {reg : Int}
    (side : SideRegister cfg reg) : reg ∈ cfg.sideRegisters := by
  rcases side with ⟨available, rfl⟩ | ⟨available, rfl⟩
  · rw [AnsConfig.sideRegisters, if_pos available]
    exact List.mem_append_left _ (List.mem_singleton_self _)
  · rw [AnsConfig.sideRegisters, if_pos available]
    exact List.mem_append_right _ (List.mem_singleton_self _)

/-- The fans, their control and their registers are as before. -/
structure KeepsFans (cfg : AnsConfig) (before after : Daemon) : Prop where
  fanControl : after.fanControl = { before.fanControl with ec := after.ec }
  ec : WritesWithin (SideRegister cfg) before.ec after.ec

namespace KeepsFans

variable {cfg : AnsConfig} {first second third : Daemon}

@[refl] theorem refl (daemon : Daemon) : KeepsFans cfg daemon daemon :=
  ⟨rfl, WritesWithin.refl _⟩

theorem trans (left : KeepsFans cfg first second) (right : KeepsFans cfg second third) :
    KeepsFans cfg first third :=
  ⟨by rw [right.fanControl, left.fanControl], left.ec.trans right.ec⟩

end KeepsFans

section KeepsFans

variable {cfg : AnsConfig} {daemon : Daemon}

theorem OnlyInspected.keepsFans {after : Daemon} (inspected : OnlyInspected daemon after) :
    KeepsFans cfg daemon after := by
  have reads := inspected.ec.writesWithin (SideRegister cfg)
  rw [inspected.rest]
  exact ⟨rfl, reads⟩

theorem writeControlState_keepsFans (cfg : AnsConfig) (daemon : Daemon) :
    KeepsFans cfg daemon (writeControlState cfg daemon) := by
  rw [writeControlState_eq]
  exact ⟨rfl, WritesWithin.refl _⟩

theorem applyPowerSourceProfile_side (cfg : AnsConfig) (ec : EcDevice) (source : PowerSource) :
    WritesWithin (SideRegister cfg) ec (applyPowerSourceProfile ec cfg source).1 :=
  applyPowerSourceProfile_writesWithin source fun available => Or.inl ⟨available, rfl⟩

theorem maybeApplyPowerSourceProfile_keepsFans (cfg : AnsConfig) (daemon : Daemon) :
    KeepsFans cfg daemon (maybeApplyPowerSourceProfile cfg daemon) := by
  unfold maybeApplyPowerSourceProfile
  dsimp only
  split
  · exact KeepsFans.refl daemon
  · split
    · exact ⟨rfl, WritesWithin.refl _⟩
    · split
      · exact ⟨rfl, WritesWithin.refl _⟩
      · exact ⟨rfl, applyPowerSourceProfile_side cfg _ _⟩

theorem tickKeyboard_keepsFans (cfg : AnsConfig) (daemon : Daemon)
    (activity : Option InputActivity) : KeepsFans cfg daemon (tickKeyboard cfg daemon activity) := by
  unfold tickKeyboard
  split
  · exact KeepsFans.refl daemon
  · exact ⟨rfl, keyboardBacklightTimeoutTick_writesWithin _ _ _ _
      fun available => Or.inr ⟨available, rfl⟩⟩

theorem writeRuntimeStatus_keepsFans (cfg : AnsConfig) (daemon : Daemon) :
    KeepsFans cfg daemon (writeRuntimeStatus cfg daemon) := by
  have reads : OnlyRead daemon.ec (writeRuntimeStatus cfg daemon).ec :=
    ((readFanMode_onlyRead _ _).trans (readPlatformProfile_onlyRead _ _)).trans
      (keyboardBacklightReadAny_onlyRead _ _ _)
  exact ⟨rfl, reads.writesWithin _⟩

theorem beforeFans_keepsFans (cfg : AnsConfig) (daemon : Daemon)
    (activity : Option InputActivity) : KeepsFans cfg daemon (daemon.beforeFans cfg activity) :=
  (maybeApplyPowerSourceProfile_keepsFans cfg daemon).trans (tickKeyboard_keepsFans cfg _ activity)

theorem useProfile_keepsFans (name : CString) :
    KeepsFans cfg daemon (useProfile cfg daemon name).1 := by
  have profile : WritesWithin (SideRegister cfg) daemon.ec
      (applyPlatformProfile daemon.ec cfg name).1 :=
    applyPlatformProfile_writesWithin name fun available => Or.inl ⟨available, rfl⟩
  unfold useProfile
  split
  · exact KeepsFans.refl daemon
  · split
    · exact KeepsFans.refl daemon
    · dsimp only
      split
      · exact ⟨rfl, profile⟩
      · exact ⟨rfl, profile⟩

theorem usePowerSourceProfile_keepsFans :
    KeepsFans cfg daemon (usePowerSourceProfile cfg daemon).1 := by
  unfold usePowerSourceProfile
  dsimp only
  split
  · exact KeepsFans.refl daemon
  · split
    · exact ⟨rfl, applyPowerSourceProfile_side cfg _ _⟩
    · exact ⟨rfl, applyPowerSourceProfile_side cfg _ _⟩

theorem setPowerSourceAuto_keepsFans (enabled : Bool) :
    KeepsFans cfg daemon (setPowerSourceAuto cfg daemon enabled).1 := by
  have write : WritesWithin (SideRegister cfg) daemon.ec
      (powerSourceAutoWrite cfg daemon enabled).1 := by
    unfold powerSourceAutoWrite
    dsimp only
    split
    · exact applyPowerSourceProfile_side cfg _ _
    · exact WritesWithin.refl _
  unfold setPowerSourceAuto
  dsimp only
  split
  · exact ⟨rfl, write⟩
  · refine KeepsFans.trans ?_ (writeControlState_keepsFans cfg _)
    exact ⟨rfl, write⟩

theorem setKeyboardBacklight_keepsFans (percent : Int) :
    KeepsFans cfg daemon (setKeyboardBacklight cfg daemon percent).1 := by
  have set : WritesWithin (SideRegister cfg) daemon.ec
      (keyboardBacklightSetPercent daemon.ec cfg percent).1 :=
    keyboardBacklightSetPercent_writesWithin percent fun available => Or.inr ⟨available, rfl⟩
  unfold setKeyboardBacklight
  dsimp only
  split
  · exact KeepsFans.refl daemon
  · split
    · exact ⟨rfl, set⟩
    · exact ⟨rfl, set⟩

theorem Request.perform_keepsFans {request : Request} (aside : request.isAside = true) :
    KeepsFans cfg daemon (request.perform cfg daemon).1 := by
  cases request with
  | set | preset | auto | firmwareAuto | fanMode | coolboost | resume => cases aside
  | profile name => exact useProfile_keepsFans name
  | powerSourceApply => exact usePowerSourceProfile_keepsFans
  | powerSourceAuto enabled =>
      unfold Request.perform
      dsimp only
      split
      · exact KeepsFans.refl daemon
      · exact setPowerSourceAuto_keepsFans enabled
  | gpuTemp policy =>
      unfold Request.perform setGpuTempPolicy
      dsimp only
      split
      · exact ⟨rfl, WritesWithin.refl _⟩
      · exact ⟨rfl, WritesWithin.refl _⟩
  | keyboardSet percent => exact setKeyboardBacklight_keepsFans percent
  | keyboardTimeout enabled =>
      unfold Request.perform setKeyboardBacklightTimeout
      dsimp only
      split
      · exact KeepsFans.refl daemon
      · refine KeepsFans.trans ?_ (writeControlState_keepsFans cfg _)
        exact ⟨rfl, WritesWithin.refl _⟩
  | stop => exact ⟨rfl, WritesWithin.refl _⟩

end KeepsFans

/-! ## What an event can do -/

def Action.request : Action → Option Request
  | .client (some cmd) true => commandRequest cmd
  | _ => none

section Step

variable {cfg : AnsConfig} {daemon : Daemon} {event : Event}

/-- A line only inspects the daemon, or it is a request that an authorised client makes. -/
theorem handleClient_outcome (cfg : AnsConfig) (daemon : Daemon) (line : Option CString)
    (canControl : Bool) :
    OnlyInspected daemon (handleClient cfg daemon line canControl).1 ∨
      ∃ request, (Action.client line canControl).request = some request ∧
        handleClient cfg daemon line canControl = request.perform cfg daemon := by
  cases line with
  | none => exact Or.inl (OnlyInspected.refl daemon)
  | some cmd =>
      cases canControl with
      | false =>
          refine Or.inl ?_
          change OnlyInspected daemon (executeCommand cfg daemon cmd false).1
          unfold executeCommand
          split
          · exact OnlyInspected.refl daemon
          · rename_i entry found
            exact foundEntry_inspects found cfg daemon
      | true =>
          have performs : Performs cfg daemon (commandRequest cmd)
              (handleClient cfg daemon (some cmd) true) := executeCommand_performs cfg daemon cmd
          cases asked : commandRequest cmd with
          | none =>
              rw [asked] at performs
              exact Or.inl performs
          | some request =>
              rw [asked] at performs
              exact Or.inr ⟨request, asked, performs⟩

/-- The request of an authorised client is performed, and the status written. -/
theorem act_request {action : Action} {request : Request}
    (asked : action.request = some request) :
    daemon.act cfg action = writeRuntimeStatus cfg (request.perform cfg daemon).1 := by
  unfold Action.request at asked
  split at asked
  · rename_i cmd
    have performs : Performs cfg daemon (commandRequest cmd)
        (handleClient cfg daemon (some cmd) true) := executeCommand_performs cfg daemon cmd
    rw [asked] at performs
    exact congrArg (fun result : Daemon × CString => writeRuntimeStatus cfg result.1) performs
  · cases asked

/--
An action leaves the fans alone, is a poll, or is the fan request of an
authorised client.
-/
theorem act_cases (cfg : AnsConfig) (daemon : Daemon) (action : Action) :
    KeepsFans cfg daemon (daemon.act cfg action) ∨
      (∃ activity, action = .poll activity ∧
        KeepsFans cfg ((daemon.beforeFans cfg activity).updateFans cfg) (daemon.act cfg action)) ∨
      ∃ request, action.request = some request ∧ request.isAside = false ∧
        KeepsFans cfg (request.perform cfg daemon).1 (daemon.act cfg action) := by
  cases action with
  | poll activity => exact Or.inr (Or.inl ⟨activity, rfl, writeRuntimeStatus_keepsFans cfg _⟩)
  | input activity => exact Or.inl (tickKeyboard_keepsFans cfg daemon (some activity))
  | signal => exact Or.inl ⟨rfl, WritesWithin.refl _⟩
  | client line canControl =>
      have status : KeepsFans cfg (handleClient cfg daemon line canControl).1
          (daemon.act cfg (.client line canControl)) := writeRuntimeStatus_keepsFans cfg _
      rcases handleClient_outcome cfg daemon line canControl with
        inspected | ⟨request, asked, performed⟩
      · exact Or.inl ((OnlyInspected.keepsFans inspected).trans status)
      · cases fans : request.isAside with
        | true =>
            rw [performed] at status
            exact Or.inl ((Request.perform_keepsFans fans).trans status)
        | false =>
            rw [performed] at status
            exact Or.inr (Or.inr ⟨request, asked, fans, status⟩)

/--
A state property that does not look beyond the fans is kept by a step if it is
kept when the EC changes its registers, by the polls and by the fan requests.
-/
theorem step_induct {Inv : Daemon → Prop} (initial : Inv daemon)
    (frame : ∀ before after, KeepsFans cfg before after → Inv before → Inv after)
    (refreshed : Inv (daemon.found event))
    (poll : ∀ activity, event.action = .poll activity →
      Inv (((daemon.found event).beforeFans cfg activity).updateFans cfg))
    (request : ∀ request, event.action.request = some request → request.isAside = false →
      Inv (request.perform cfg (daemon.found event)).1) :
    Inv (daemon.step cfg event) := by
  unfold Daemon.step
  split
  · exact initial
  · rcases act_cases cfg (daemon.found event) event.action with
      kept | ⟨activity, isPoll, kept⟩ | ⟨asked, isRequest, fans, kept⟩
    · exact frame _ _ kept refreshed
    · exact frame _ _ kept (poll activity isPoll)
    · exact frame _ _ kept (request asked isRequest fans)

end Step

/-! ## Working EC writes -/

section Reliable

variable {cfg : AnsConfig} {daemon : Daemon} {event : Event}

/-- Working EC writes stay so over every step. -/
theorem step_reliable (reliable : daemon.ec.WritesSucceed) :
    (daemon.step cfg event).ec.WritesSucceed := by
  have found : (daemon.found event).ec.WritesSucceed := reliable
  refine @step_induct cfg daemon event (fun daemon => daemon.ec.WritesSucceed) reliable
    (fun _ _ kept => kept.ec.writesSucceed) found ?_ ?_
  · intro activity _
    have before := (beforeFans_keepsFans cfg (daemon.found event) activity).ec.writesSucceed found
    exact updateFanStates_writesSucceed before
  · intro request _ fans
    exact (perform_changes fans).writesSucceed found

end Reliable

end NitroSense
