import NitroSense.Daemon.Schedule
import NitroSense.Daemon.Shutdown
import NitroSense.Lib.Latest

/-!
# The last order counts

What the fans are left to, and whether CoolBoost is on, is what the clients have
ordered last.  Polls, input, reports and malformed lines in between change
nothing, whatever their order.  A `set` counts as an order even where its fan is
unknown: it is refused only after the mode has become manual.
-/

namespace NitroSense

open Lib

/-- What decides about the fans: the daemon's curves or a preset, by its name. -/
structure FanOrder where
  autoMode : Bool
  preset : CString
  deriving DecidableEq, Repr

namespace FanOrder

def manual : FanOrder := ⟨false, "manual".toList⟩

def curves : FanOrder := ⟨true, "auto".toList⟩

def firmware : FanOrder := ⟨false, firmwareAutoPreset⟩

end FanOrder

def Request.fanOrder (cfg : AnsConfig) : Request → Option FanOrder
  | set .. => some .manual
  | preset name _ => (configFindPreset cfg name).map fun _ => ⟨false, name⟩
  | auto => some .curves
  | firmwareAuto | fanMode .auto => if cfg.fanModes.available then some .firmware else none
  | fanMode .manual => if cfg.fanModes.available then some .manual else none
  | _ => none

/-- The CoolBoost order that a request gives: other fan orders turn it off. -/
def Request.coolboostOrder (cfg : AnsConfig) : Request → Option Bool
  | set .. | auto => some false
  | preset name _ => (configFindPreset cfg name).map fun _ => false
  | firmwareAuto => if cfg.fanModes.available then some false else none
  | fanMode mode => if cfg.fanModes.available then some (mode == .turbo) else none
  | coolboost enabled => if cfg.fanModes.available then some enabled else none
  | _ => none

def FanControl.order (control : FanControl) : FanOrder := ⟨control.autoMode, control.preset⟩

/-- An event that ends the loop. -/
def Event.halts (event : Event) : Bool :=
  match event.action with
  | .signal => true
  | action => action.request == some .stop

/-- The requests that a run hears: those of authorised clients up to its end. -/
def heardRequests (events : List Event) : List Request :=
  (events.takeWhile fun event => !event.halts).filterMap (·.action.request)

section Orders

variable {cfg : AnsConfig} {daemon : Daemon}

/-- A fan request gives its orders. -/
theorem FanControl.perform_orders (cfg : AnsConfig) (control : FanControl) (request : Request) :
    (control.perform cfg request).order = (request.fanOrder cfg).getD control.order ∧
      (control.perform cfg request).coolboostEnabled =
        (request.coolboostOrder cfg).getD control.coolboostEnabled := by
  cases request with
  | preset name accepted =>
      unfold FanControl.perform Request.fanOrder Request.coolboostOrder
      dsimp only
      cases found : configFindPreset cfg name with
      | none => exact ⟨rfl, rfl⟩
      | some preset =>
          have named : preset.id = name := by simpa using List.find?_some found
          refine ⟨?_, rfl⟩
          dsimp only [Option.map_some, Option.getD_some]
          rw [named, stringCopy_of_lt accepted]
          rfl
  | fanMode mode =>
      unfold FanControl.perform
      dsimp only
      cases available : cfg.fanModes.available with
      | false => cases mode <;> simp [Request.fanOrder, Request.coolboostOrder, available]
      | true =>
          cases mode <;>
            simp [Request.fanOrder, Request.coolboostOrder, available, FanControl.useMode,
              FanControl.order, FanOrder.firmware, FanOrder.manual]
  | firmwareAuto =>
      unfold FanControl.perform
      dsimp only
      cases available : cfg.fanModes.available with
      | false => simp [Request.fanOrder, Request.coolboostOrder, available]
      | true =>
          simp [Request.fanOrder, Request.coolboostOrder, available, FanControl.useMode,
            FanControl.order, FanOrder.firmware]
  | coolboost enabled =>
      unfold FanControl.perform
      dsimp only
      cases available : cfg.fanModes.available with
      | false => simp [Request.fanOrder, Request.coolboostOrder, available]
      | true => simp [Request.fanOrder, Request.coolboostOrder, available, FanControl.order]
  | set | auto | resume | profile | powerSourceApply | powerSourceAuto | gpuTemp | keyboardSet
    | keyboardTimeout | stop => exact ⟨rfl, rfl⟩

@[simp] theorem writeControlState_running (cfg : AnsConfig) (daemon : Daemon) :
    (writeControlState cfg daemon).running = daemon.running := by
  rw [writeControlState_eq]

theorem setFan_running (fan : CString) (percent : Int) :
    (setFan cfg daemon fan percent).1.running = daemon.running := by
  unfold setFan
  dsimp only
  rw [prepare_eq]
  split
  · rfl
  · split
    · rfl
    · exact writeControlState_running cfg _

theorem usePreset_running (name : CString) :
    (usePreset cfg daemon name).1.running = daemon.running := by
  unfold usePreset
  split
  · rfl
  · dsimp only
    rw [prepare_eq]
    split
    · rfl
    · exact writeControlState_running cfg _

theorem startAuto_running : (startAuto cfg daemon).1.running = daemon.running := by
  unfold startAuto
  dsimp only
  rw [prepare_eq]
  split
  · rfl
  · exact writeControlState_running cfg _

theorem startFirmwareAuto_running : (startFirmwareAuto cfg daemon).1.running = daemon.running := by
  unfold startFirmwareAuto
  split
  · rfl
  · dsimp only
    split
    · rfl
    · exact writeControlState_running cfg _

theorem useFanMode_running (mode : FanMode) :
    (useFanMode cfg daemon mode).1.running = daemon.running := by
  unfold useFanMode
  dsimp only
  split
  · rfl
  · split
    · rfl
    · rw [writeControlState_running]
      cases mode <;> rfl

theorem setCoolboost_running (enabled : Bool) :
    (setCoolboost cfg daemon enabled).1.running = daemon.running := by
  unfold setCoolboost
  dsimp only
  split
  · rfl
  · split
    · rfl
    · exact writeControlState_running cfg _

theorem useProfile_running (name : CString) :
    (useProfile cfg daemon name).1.running = daemon.running := by
  unfold useProfile
  split
  · rfl
  · split
    · rfl
    · dsimp only
      split
      · rfl
      · rfl

theorem usePowerSourceProfile_running :
    (usePowerSourceProfile cfg daemon).1.running = daemon.running := by
  unfold usePowerSourceProfile
  dsimp only
  split
  · rfl
  · split
    · rfl
    · rfl

theorem setPowerSourceAuto_running (enabled : Bool) :
    (setPowerSourceAuto cfg daemon enabled).1.running = daemon.running := by
  unfold setPowerSourceAuto
  dsimp only
  split
  · rfl
  · exact writeControlState_running cfg _

theorem setKeyboardBacklight_running (percent : Int) :
    (setKeyboardBacklight cfg daemon percent).1.running = daemon.running := by
  unfold setKeyboardBacklight
  dsimp only
  split
  · rfl
  · split
    · rfl
    · rfl

theorem resume_running : (resume cfg daemon).1.running = daemon.running := by
  unfold resume
  dsimp only
  split
  · rfl
  · rfl

/-- Only `stop` ends the daemon. -/
theorem Request.perform_running {request : Request} (goesOn : request ≠ .stop) :
    (request.perform cfg daemon).1.running = daemon.running := by
  cases request with
  | set fan percent _ => exact setFan_running fan percent
  | preset name _ => exact usePreset_running name
  | auto => exact startAuto_running
  | firmwareAuto => exact startFirmwareAuto_running
  | fanMode mode => exact useFanMode_running mode
  | coolboost enabled => exact setCoolboost_running enabled
  | profile name => exact useProfile_running name
  | powerSourceApply => exact usePowerSourceProfile_running
  | powerSourceAuto enabled =>
      unfold Request.perform
      dsimp only
      split
      · rfl
      · exact setPowerSourceAuto_running enabled
  | gpuTemp policy =>
      unfold Request.perform setGpuTempPolicy
      dsimp only
      split
      · rfl
      · rfl
  | keyboardSet percent => exact setKeyboardBacklight_running percent
  | keyboardTimeout enabled =>
      unfold Request.perform setKeyboardBacklightTimeout
      dsimp only
      split
      · rfl
      · exact writeControlState_running cfg _
  | resume => exact resume_running
  | stop => exact absurd rfl goesOn

/-- Requests beside the fans give no orders. -/
theorem Request.aside_orders {request : Request} (aside : request.isAside = true) :
    request.fanOrder cfg = none ∧ request.coolboostOrder cfg = none := by
  cases request with
  | set | preset | auto | firmwareAuto | fanMode | coolboost | resume => cases aside
  | profile | powerSourceApply | powerSourceAuto | gpuTemp | keyboardSet | keyboardTimeout
    | stop => exact ⟨rfl, rfl⟩

theorem KeepsFans.orders {after : Daemon} (kept : KeepsFans cfg daemon after) :
    after.fanControl.order = daemon.fanControl.order ∧
      after.coolboostEnabled = daemon.coolboostEnabled := by
  have order := congrArg FanControl.order kept.fanControl
  have coolboost := congrArg FanControl.coolboostEnabled kept.fanControl
  exact ⟨order, coolboost⟩

/-- What a request of a running daemon makes of the orders. -/
theorem perform_orders (reliable : daemon.ec.WritesSucceed) (request : Request) :
    (request.perform cfg daemon).1.fanControl.order =
        (request.fanOrder cfg).getD daemon.fanControl.order ∧
      (request.perform cfg daemon).1.coolboostEnabled =
        (request.coolboostOrder cfg).getD daemon.coolboostEnabled := by
  cases aside : request.isAside with
  | true =>
      have kept := @Request.perform_keepsFans cfg daemon request aside
      obtain ⟨noFan, noCoolboost⟩ := @Request.aside_orders cfg request aside
      rw [noFan, noCoolboost]
      exact kept.orders
  | false =>
      have performed := @perform_fanControl cfg daemon reliable request aside
      obtain ⟨fan, coolboost⟩ := daemon.fanControl.perform_orders cfg request
      rw [← performed] at fan coolboost
      exact ⟨fan, coolboost⟩

/-- An event that does not end the loop gives the orders of its request. -/
theorem step_orders (reliable : daemon.ec.WritesSucceed) (running : daemon.running = true)
    {event : Event} (goesOn : event.halts = false) :
    (daemon.step cfg event).running = true ∧
      (daemon.step cfg event).fanControl.order =
        (event.action.request.bind (Request.fanOrder cfg)).getD daemon.fanControl.order ∧
      (daemon.step cfg event).coolboostEnabled =
        (event.action.request.bind (Request.coolboostOrder cfg)).getD daemon.coolboostEnabled := by
  have found : (daemon.found event).running = true := running
  have works : (daemon.found event).ec.WritesSucceed := reliable
  rw [Daemon.step, if_neg (by simp [running])]
  unfold Event.halts at goesOn
  cases act : event.action with
  | signal =>
      rw [act] at goesOn
      cases goesOn
  | poll activity =>
      have kept := (beforeFans_keepsFans cfg (daemon.found event) activity).orders
      exact ⟨(DaemonLoop.updateFans_running cfg _).trans
        (DaemonLoop.beforeFans_running.trans found), kept⟩
  | input activity =>
      have kept := (tickKeyboard_keepsFans cfg (daemon.found event) (some activity)).orders
      exact ⟨found, kept⟩
  | client line canControl =>
      rw [act] at goesOn
      have status := (writeRuntimeStatus_keepsFans cfg
        (handleClient cfg (daemon.found event) line canControl).1).orders
      cases asked : (Action.client line canControl).request with
      | none =>
          rcases handleClient_outcome cfg (daemon.found event) line canControl with
            inspected | ⟨request, some_, _⟩
          · have kept := (@OnlyInspected.keepsFans cfg _ _ inspected).orders
            refine ⟨?_, status.1.trans kept.1, status.2.trans kept.2⟩
            exact (congrArg Daemon.running inspected.rest).trans found
          · rw [asked] at some_
            cases some_
      | some request =>
          have goes : request ≠ .stop := by
            rintro rfl
            simp [asked] at goesOn
          obtain ⟨fan, coolboost⟩ := perform_orders works request
          rw [act_request asked]
          have kept := (writeRuntimeStatus_keepsFans cfg
            (request.perform cfg (daemon.found event)).1).orders
          refine ⟨?_, kept.1.trans fan, kept.2.trans coolboost⟩
          exact (Request.perform_running goes).trans found

/-- An event that ends the loop leaves the orders, and nothing follows it. -/
theorem step_halts (running : daemon.running = true) {event : Event} (halts : event.halts = true) :
    (daemon.step cfg event).fanControl.order = daemon.fanControl.order ∧
      (daemon.step cfg event).coolboostEnabled = daemon.coolboostEnabled ∧
      (daemon.step cfg event).running = false := by
  rw [Daemon.step, if_neg (by simp [running])]
  unfold Event.halts at halts
  cases act : event.action with
  | signal => exact ⟨rfl, rfl, rfl⟩
  | poll activity =>
      rw [act] at halts
      cases halts
  | input activity =>
      rw [act] at halts
      cases halts
  | client line canControl =>
      rw [act] at halts
      have asked : (Action.client line canControl).request = some .stop := by simpa using halts
      rw [act_request asked]
      exact ⟨rfl, rfl, rfl⟩

end Orders

/-- The requests that are heard, as the events that carry them. -/
theorem filterMap_heard {α : Type} (order : Request → Option α) (events : List Event) :
    (events.takeWhile fun event => !event.halts).filterMap
        (fun event => event.action.request.bind order) =
      (heardRequests events).filterMap order := by
  rw [heardRequests, List.filterMap_filterMap]

structure KeepsOrders (cfg : AnsConfig) (boot : Boot) (events : List Event) : Prop where
  fans : (loopedDaemon cfg boot events).fanControl.order =
    ((heardRequests events).filterMap (Request.fanOrder cfg)).getLast?.getD
      (startDaemon cfg boot).fanControl.order
  coolboost : (loopedDaemon cfg boot events).coolboostEnabled =
    ((heardRequests events).filterMap (Request.coolboostOrder cfg)).getLast?.getD
      (startDaemon cfg boot).coolboostEnabled
  running : (loopedDaemon cfg boot events).running = events.all fun event => !event.halts

theorem startDaemon_running (cfg : AnsConfig) (boot : Boot) :
    (startDaemon cfg boot).running = true := by
  unfold startDaemon restoreControlState
  dsimp only
  cases (bootedDaemon cfg boot).savedState with
  | none =>
      change (applyDefaultPreset cfg (bootedDaemon cfg boot)).running = true
      rw [applyDefaultPreset_eq]
      rfl
  | some json => rfl

/-- A daemon that has ended stays as it is. -/
theorem step_ended {cfg : AnsConfig} {daemon : Daemon} (ended : daemon.running = false)
    (event : Event) : daemon.step cfg event = daemon := by
  rw [Daemon.step, if_pos ended]

/-- The daemon runs until an event ends it. -/
theorem run_running {cfg : AnsConfig} {daemon : Daemon} (reliable : daemon.ec.WritesSucceed)
    (running : daemon.running = true) (events : List Event) :
    (run (Daemon.step cfg) daemon events).running = events.all fun event => !event.halts := by
  induction events generalizing daemon with
  | nil => exact running
  | cons event events ih =>
      rw [run_cons, List.all_cons]
      cases halts : event.halts with
      | true =>
          have ended := (@step_halts cfg daemon running event halts).2.2
          refine run_preserves (fun daemon : Daemon => daemon.running = false) ended ?_ events
          intro state later stopped
          rw [step_ended stopped later]
          exact stopped
      | false =>
          have goesOn := (@step_orders cfg daemon reliable running event halts).1
          exact (ih (step_reliable reliable) goesOn).trans (Bool.true_and _).symm

/--
While EC writes work, the last fan order and the last CoolBoost order that an
authorised client has given before the end are those in force, through any run.
-/
theorem daemon_keepsOrders (cfg : AnsConfig) {boot : Boot} (reliable : boot.ec.WritesSucceed)
    (events : List Event) : KeepsOrders cfg boot events := by
  let Live (daemon : Daemon) : Prop := daemon.ec.WritesSucceed ∧ daemon.running = true
  have live : Live (startDaemon cfg boot) :=
    ⟨startDaemon_reliable reliable, startDaemon_running cfg boot⟩
  have still {daemon : Daemon} {event : Event} (here : Live daemon) (halts : event.halts = true)
      (later : Event) : (daemon.step cfg event).step cfg later = daemon.step cfg event :=
    step_ended (step_halts here.2 halts).2.2 later
  have goesOn {daemon : Daemon} {event : Event} (here : Live daemon)
      (goes : event.halts = false) : Live (daemon.step cfg event) :=
    ⟨step_reliable here.1, (step_orders here.1 here.2 goes).1⟩
  refine ⟨?_, ?_, run_running live.1 live.2 events⟩
  · have last := run_latest (fun daemon : Daemon => daemon.fanControl.order)
      (fun event : Event => event.action.request.bind (Request.fanOrder cfg)) Event.halts Live
      (fun daemon event here goes =>
        ⟨goesOn here goes, (step_orders here.1 here.2 goes).2.1⟩)
      (fun daemon event here halts => ⟨(step_halts here.2 halts).1, still here halts⟩) live events
    rw [latest_eq, filterMap_heard] at last
    exact last
  · have last := run_latest (fun daemon : Daemon => daemon.coolboostEnabled)
      (fun event : Event => event.action.request.bind (Request.coolboostOrder cfg)) Event.halts
      Live
      (fun daemon event here goes =>
        ⟨goesOn here goes, (step_orders here.1 here.2 goes).2.2⟩)
      (fun daemon event here halts => ⟨(step_halts here.2 halts).2.1, still here halts⟩) live events
    rw [latest_eq, filterMap_heard] at last
    exact last

/-- A preset that follows CoolBoost turns it off again, whatever is polled in between. -/
theorem daemon_keepsOrders_preset :
    let events :=
      [Event.command freshBoot.host "coolboost on".toList, .poll freshBoot.host,
        .command freshBoot.host "preset quiet".toList, .poll freshBoot.host]
    KeepsOrders AcerNitroAn517.config freshBoot events ∧
      ((heardRequests events).filterMap
          (Request.coolboostOrder AcerNitroAn517.config)).getLast? = some false := by
  intro events
  refine ⟨daemon_keepsOrders AcerNitroAn517.config (fun _ => rfl) events, ?_⟩
  decide +kernel

end NitroSense
