import NitroSense.Control.Socket
import NitroSense.Daemon.CacheRoundTrip
import NitroSense.Daemon.StatusJson
import NitroSense.Input.Activity
import NitroSense.Lib.Cadence

/-!
# The iterations of the loop

`run_daemon_loop` with its clock, its `select`, the input devices and the files
it writes.  An iteration is what its system calls return.  Every run of the
iterations is a run of the events, and what an event carries is said here.
-/

namespace NitroSense

open Lib

def timeoutFromMs (ms : Int) : Int × Int :=
  let ms := if ms < 0 then 0 else ms
  (ms.tdiv 1000, ms.tmod 1000 * 1000)

/-- The system that the loop meets, and the registers the EC has changed by itself. -/
structure Meeting where
  host : Host
  refreshed : Int → Option UInt8 := fun _ => none

/-- Which of the files of `write_runtime_status` can be replaced. -/
structure FileResults where
  status : Bool
  cache : Bool

/-- A client that `accept4` gives, with the bytes its command buffer starts with. -/
structure Accepted where
  meeting : Meeting
  accounts : Accounts
  cmd : Nat → Char
  client : Client
  files : FileResults

/-- What `select` returns, and what the loop finds then: the inputs, the times of their handling
and of the keyboard tick, and the client, if there is one. -/
inductive Selected where
  | failed
  | interrupted
  | timedOut
  | ready (inputs : ReadyInputs) (activeMs tickMs : Int) (tick : Meeting)
      (accepted : Option Accepted)

/-- An iteration: its readings of the clock, what it meets, and whether a signal has come. -/
structure Iteration where
  nowMs : Int
  update : Meeting
  files : FileResults
  doneMs : Int
  waitMs : Int
  selected : Selected
  signalled : Bool

/-- The variables of `run_daemon_loop`, with the files it writes. -/
structure DaemonLoop where
  daemon : Daemon
  monitor : InputActivityMonitor
  nextUpdateMs : Int := 0
  /-- The `break` behind a failed `select`. -/
  broken : Bool := false
  statusFile : Option CString := none
  cacheFile : Option CString := none

namespace Daemon

/-- The daemon in the system it meets. -/
def meet (daemon : Daemon) (meeting : Meeting) : Daemon :=
  { daemon with host := meeting.host, ec := daemon.ec.refresh meeting.refreshed }

end Daemon

namespace DaemonLoop

section Iterate

variable (cfg : AnsConfig) (backend : CString) (names : HardwareNames)

/-- `write_runtime_status`, with the file of a text that does not fit or is not written kept. -/
def saveRuntimeStatus (loop : DaemonLoop) (daemon : Daemon) (files : FileResults) : DaemonLoop :=
  { loop with
    daemon := writeRuntimeStatus cfg daemon
    statusFile :=
      if files.status then (statusFileText cfg backend names daemon).or loop.statusFile
      else loop.statusFile
    cacheFile :=
      if files.cache then (temperatureCacheText cfg daemon.states).or loop.cacheFile
      else loop.cacheFile }

/-- The times of a keyboard tick, if there is an input device. -/
def activity (loop : DaemonLoop) (nowMs : Int) : Option InputActivity :=
  if loop.monitor.fdLen > 0 then some ⟨nowMs, loop.monitor.lastActivityMs⟩ else none

/-- The update at the head of an iteration. -/
def update (loop : DaemonLoop) (iteration : Iteration) : DaemonLoop :=
  if loop.nextUpdateMs ≤ iteration.nowMs then
    let daemon := loop.daemon.meet iteration.update
    let daemon := (daemon.beforeFans cfg (loop.activity iteration.nowMs)).updateFans cfg
    { loop.saveRuntimeStatus cfg backend names daemon iteration.files with
      nextUpdateMs := iteration.doneMs + cfg.pollIntervalMs }
  else loop

def serve (loop : DaemonLoop) : Option Accepted → DaemonLoop
  | none => loop
  | some accepted =>
      let served := serveClient cfg accepted.accounts accepted.cmd
        (loop.daemon.meet accepted.meeting) accepted.client
      loop.saveRuntimeStatus cfg backend names served.1 accepted.files

/-- The input devices that are ready, and the keyboard tick behind them. -/
def wake (loop : DaemonLoop) (inputs : ReadyInputs) (activeMs tickMs : Int) (tick : Meeting) :
    DaemonLoop :=
  let loop := { loop with monitor := inputActivityHandleReady inputs activeMs loop.monitor }
  if loop.monitor.fdLen > 0 then
    { loop with daemon := tickKeyboard cfg (loop.daemon.meet tick) (loop.activity tickMs) }
  else loop

def select (loop : DaemonLoop) : Selected → DaemonLoop
  | .failed => { loop with broken := true }
  | .interrupted | .timedOut => loop
  | .ready inputs activeMs tickMs tick accepted =>
      (loop.wake cfg inputs activeMs tickMs tick).serve cfg backend names accepted

/-- The signal handlers clear `daemon_running`. -/
def signal (loop : DaemonLoop) (signalled : Bool) : DaemonLoop :=
  if signalled then { loop with daemon := { loop.daemon with running := false } } else loop

def going (loop : DaemonLoop) : Bool := loop.daemon.running && !loop.broken

/-- One iteration of `run_daemon_loop`. -/
def iterate (loop : DaemonLoop) (iteration : Iteration) : DaemonLoop :=
  if loop.going then
    ((loop.update cfg backend names iteration).select cfg backend names iteration.selected).signal
      iteration.signalled
  else loop

end Iterate

/-- `run_daemon_loop` in front of its first iteration; `dir` is `/dev/input`. -/
def start (cfg : AnsConfig) (daemon : Daemon) (dir : Option (List InputEntry))
    (initMs openMs : Int) : DaemonLoop where
  daemon := daemon
  monitor :=
    if cfg.keyboardBacklight.timeoutSupported then
      inputActivityOpen dir openMs (inputActivityInit initMs)
    else inputActivityInit initMs

def selectTimeout (loop : DaemonLoop) (iteration : Iteration) : Int × Int :=
  timeoutFromMs (loop.nextUpdateMs - iteration.waitMs)

/-! ## The events of an iteration -/

section Events

variable (cfg : AnsConfig) (backend : CString) (names : HardwareNames)

def updateEvents (loop : DaemonLoop) (iteration : Iteration) : List Event :=
  if loop.nextUpdateMs ≤ iteration.nowMs then
    [{ host := iteration.update.host
       refreshed := iteration.update.refreshed
       action := .poll (loop.activity iteration.nowMs) }]
  else []

def serveEvents : Option Accepted → List Event
  | none => []
  | some accepted =>
      [{ host := accepted.meeting.host
         refreshed := accepted.meeting.refreshed
         action := .client (clientCommand accepted.cmd accepted.client.results)
          (clientCanControl accepted.accounts accepted.client.peer) }]

def wakeEvents (loop : DaemonLoop) (inputs : ReadyInputs) (activeMs tickMs : Int)
    (tick : Meeting) : List Event :=
  let monitor := inputActivityHandleReady inputs activeMs loop.monitor
  if monitor.fdLen > 0 then
    [{ host := tick.host
       refreshed := tick.refreshed
       action := .input ⟨tickMs, monitor.lastActivityMs⟩ }]
  else []

def selectEvents (loop : DaemonLoop) : Selected → List Event
  | .failed | .interrupted | .timedOut => []
  | .ready inputs activeMs tickMs tick accepted =>
      loop.wakeEvents inputs activeMs tickMs tick ++ serveEvents accepted

def signalEvents (loop : DaemonLoop) (signalled : Bool) : List Event :=
  if signalled then [{ host := loop.daemon.host, action := .signal }] else []

/-- What happens to the daemon in an iteration. -/
def events (loop : DaemonLoop) (iteration : Iteration) : List Event :=
  if loop.going then
    let updated := loop.update cfg backend names iteration
    let selected := updated.select cfg backend names iteration.selected
    loop.updateEvents iteration ++
      (updated.selectEvents iteration.selected ++ selected.signalEvents iteration.signalled)
  else []

/-- What happens to the daemon in a run of the loop. -/
def runEvents : DaemonLoop → List Iteration → List Event
  | _, [] => []
  | loop, iteration :: iterations =>
      loop.events cfg backend names iteration ++
        runEvents (loop.iterate cfg backend names iteration) iterations

def wakes (loop : DaemonLoop) (iteration : Iteration) : List InputWake :=
  if loop.going then
    match iteration.selected with
    | .ready inputs activeMs _ _ _ => [⟨inputs, activeMs⟩]
    | .failed | .interrupted | .timedOut => []
  else []

def runWakes : DaemonLoop → List Iteration → List InputWake
  | _, [] => []
  | loop, iteration :: iterations =>
      loop.wakes iteration ++ runWakes (loop.iterate cfg backend names iteration) iterations

end Events

section Running

variable {cfg : AnsConfig} {daemon : Daemon}

/-- A keyboard tick changes the EC and the state of the keyboard. -/
theorem tickKeyboard_eq (cfg : AnsConfig) (daemon : Daemon) (activity : Option InputActivity) :
    tickKeyboard cfg daemon activity =
      { daemon with
        ec := (tickKeyboard cfg daemon activity).ec
        runtime := (tickKeyboard cfg daemon activity).runtime } := by
  cases activity with
  | none => rfl
  | some times => rfl

theorem beforeFans_running {activity : Option InputActivity} :
    (daemon.beforeFans cfg activity).running = daemon.running := by
  have source : (maybeApplyPowerSourceProfile cfg daemon).running = daemon.running := by
    unfold maybeApplyPowerSourceProfile
    dsimp only
    split
    · rfl
    · split
      · rfl
      · split
        · rfl
        · rfl
  rw [Daemon.beforeFans, tickKeyboard_eq]
  exact source

theorem updateFans_running (cfg : AnsConfig) (daemon : Daemon) :
    (daemon.updateFans cfg).running = daemon.running :=
  rfl

end Running

section Refinement

variable {cfg : AnsConfig} {backend : CString} {names : HardwareNames} {loop : DaemonLoop}

theorem update_daemon (running : loop.daemon.running = true) (iteration : Iteration) :
    (loop.update cfg backend names iteration).daemon =
        run (Daemon.step cfg) loop.daemon (loop.updateEvents iteration) ∧
      (loop.update cfg backend names iteration).daemon.running = true ∧
      (loop.update cfg backend names iteration).monitor = loop.monitor := by
  unfold update updateEvents
  split
  · refine ⟨?_, ?_, rfl⟩
    · rw [run_cons, run_nil, Daemon.step, running]
      rfl
    · exact (updateFans_running cfg _).trans (beforeFans_running.trans running)
  · exact ⟨rfl, running, rfl⟩

theorem serve_daemon (running : loop.daemon.running = true) (accepted : Option Accepted) :
    (loop.serve cfg backend names accepted).daemon =
        run (Daemon.step cfg) loop.daemon (serveEvents accepted) ∧
      (loop.serve cfg backend names accepted).monitor = loop.monitor := by
  cases accepted with
  | none => exact ⟨rfl, rfl⟩
  | some accepted =>
      refine ⟨?_, rfl⟩
      rw [serveEvents, run_cons, run_nil, Daemon.step, running]
      rfl

theorem wake_daemon (running : loop.daemon.running = true) (inputs : ReadyInputs)
    (activeMs tickMs : Int) (tick : Meeting) :
    (loop.wake cfg inputs activeMs tickMs tick).daemon =
        run (Daemon.step cfg) loop.daemon (loop.wakeEvents inputs activeMs tickMs tick) ∧
      (loop.wake cfg inputs activeMs tickMs tick).daemon.running = true := by
  unfold wake wakeEvents
  dsimp only
  split
  · rename_i devices
    refine ⟨?_, ?_⟩
    · rw [activity, if_pos devices, run_cons, run_nil, Daemon.step, running]
      rfl
    · dsimp only
      rw [tickKeyboard_eq]
      exact running
  · exact ⟨rfl, running⟩

theorem select_daemon (running : loop.daemon.running = true) (selected : Selected) :
    (loop.select cfg backend names selected).daemon =
      run (Daemon.step cfg) loop.daemon (loop.selectEvents selected) := by
  cases selected with
  | failed => rfl
  | interrupted => rfl
  | timedOut => rfl
  | ready inputs activeMs tickMs tick accepted =>
      obtain ⟨woken, still⟩ := @wake_daemon cfg loop running inputs activeMs tickMs tick
      rw [select, selectEvents, run_append, ← woken]
      exact (serve_daemon still accepted).1

theorem signal_daemon (loop : DaemonLoop) (signalled : Bool) :
    (loop.signal signalled).daemon =
      run (Daemon.step cfg) loop.daemon (loop.signalEvents signalled) := by
  cases signalled with
  | false => rfl
  | true =>
      rw [signalEvents, if_pos rfl, run_cons, run_nil, Daemon.step]
      cases running : loop.daemon.running with
      | true => rfl
      | false =>
          have stopped : { loop.daemon with running := false } = loop.daemon := by
            rw [← running]
          exact stopped

/-- An iteration is its events. -/
theorem iterate_daemon (loop : DaemonLoop) (iteration : Iteration) :
    (loop.iterate cfg backend names iteration).daemon =
      run (Daemon.step cfg) loop.daemon (loop.events cfg backend names iteration) := by
  unfold iterate events
  split
  · rename_i going
    have running : loop.daemon.running = true := (Bool.and_eq_true_iff.mp going).1
    obtain ⟨updated, still, -⟩ := @update_daemon cfg backend names loop running iteration
    rw [run_append, run_append, ← updated, ← select_daemon still]
    exact signal_daemon _ iteration.signalled
  · rfl

/-- A wake-up is seen by the daemon and by the monitor. -/
theorem wake_eq (loop : DaemonLoop) (inputs : ReadyInputs) (activeMs tickMs : Int)
    (tick : Meeting) :
    loop.wake cfg inputs activeMs tickMs tick =
      { loop with
        daemon := (loop.wake cfg inputs activeMs tickMs tick).daemon
        monitor := inputActivityHandleReady inputs activeMs loop.monitor } := by
  unfold wake
  dsimp only
  split
  · rfl
  · rfl

theorem update_monitor (loop : DaemonLoop) (iteration : Iteration) :
    (loop.update cfg backend names iteration).monitor = loop.monitor := by
  unfold update
  split
  · rfl
  · rfl

/-- The monitor of an iteration wakes up when `select` finds something ready. -/
theorem iterate_monitor (loop : DaemonLoop) (iteration : Iteration) :
    (loop.iterate cfg backend names iteration).monitor =
      run InputActivityMonitor.wake loop.monitor (loop.wakes iteration) := by
  have signal_monitor (other : DaemonLoop) : (other.signal iteration.signalled).monitor =
      other.monitor := by
    unfold signal
    split
    · rfl
    · rfl
  unfold iterate wakes
  split
  · rw [signal_monitor]
    cases iteration.selected with
    | failed => exact update_monitor loop iteration
    | interrupted => exact update_monitor loop iteration
    | timedOut => exact update_monitor loop iteration
    | ready inputs activeMs tickMs tick accepted =>
        have served (other : DaemonLoop) :
            (other.serve cfg backend names accepted).monitor = other.monitor := by
          cases accepted with
          | none => rfl
          | some accepted => rfl
        rw [select, served, wake_eq, update_monitor]
        rfl
  · rfl

/-- A run of the loop is a run of its events, and of the wake-ups of its monitor. -/
theorem run_iterate (loop : DaemonLoop) (iterations : List Iteration) :
    (run (iterate cfg backend names) loop iterations).daemon =
        run (Daemon.step cfg) loop.daemon (loop.runEvents cfg backend names iterations) ∧
      (run (iterate cfg backend names) loop iterations).monitor =
        run InputActivityMonitor.wake loop.monitor (loop.runWakes cfg backend names iterations) := by
  induction iterations generalizing loop with
  | nil => exact ⟨rfl, rfl⟩
  | cons iteration iterations ih =>
      obtain ⟨daemon, monitor⟩ := ih (loop.iterate cfg backend names iteration)
      rw [run_cons, runEvents, runWakes, run_append, run_append, ← iterate_daemon,
        ← iterate_monitor]
      exact ⟨daemon, monitor⟩

end Refinement

/-- What a run of the loop comes to: the daemon has met the events, and the time of activity is
that of the last key press on a device that is watched. -/
structure RunsEvents (cfg : AnsConfig) (backend : CString) (names : HardwareNames)
    (daemon : Daemon) (dir : Option (List InputEntry)) (initMs openMs : Int)
    (iterations : List Iteration) : Prop where
  met : (run (iterate cfg backend names) (start cfg daemon dir initMs openMs) iterations).daemon =
    run (Daemon.step cfg) daemon
      ((start cfg daemon dir initMs openMs).runEvents cfg backend names iterations)
  watched : cfg.keyboardBacklight.timeoutSupported = true →
    let monitor :=
      (run (iterate cfg backend names) (start cfg daemon dir initMs openMs) iterations).monitor
    monitor.held = watchedDevices dir ∧
      monitor.lastActivityMs =
        (lastPress (watchedDevices dir)
          ((start cfg daemon dir initMs openMs).runWakes cfg backend names iterations)).getD openMs
  unwatched : cfg.keyboardBacklight.timeoutSupported = false →
    (run (iterate cfg backend names) (start cfg daemon dir initMs openMs) iterations).monitor.held =
      []

end DaemonLoop

/--
The loop of the daemon, with its deadlines, its `select`, its clients and its
input devices, does nothing but the events: what holds of all runs of the events
holds of the loop.
-/
theorem daemonLoop_runs_events (cfg : AnsConfig) (backend : CString) (names : HardwareNames)
    (daemon : Daemon) (dir : Option (List InputEntry)) (initMs openMs : Int)
    (iterations : List Iteration) :
    DaemonLoop.RunsEvents cfg backend names daemon dir initMs openMs iterations := by
  obtain ⟨met, monitor⟩ := @DaemonLoop.run_iterate cfg backend names
    (DaemonLoop.start cfg daemon dir initMs openMs) iterations
  refine ⟨met, fun supported => ?_, fun unsupported => ?_⟩
  · obtain ⟨owns, held, last⟩ :=
      inputActivityOpen_owns (inputActivityInit_owns initMs) dir openMs
    have opened : (DaemonLoop.start cfg daemon dir initMs openMs).monitor =
        inputActivityOpen dir openMs (inputActivityInit initMs) := if_pos supported
    rw [opened, InputActivityMonitor.run_wakes owns, held, last] at monitor
    dsimp only
    rw [monitor]
    exact ⟨held, rfl⟩
  · have unopened : (DaemonLoop.start cfg daemon dir initMs openMs).monitor =
        inputActivityInit initMs := if_neg (by simp [unsupported])
    rw [unopened, InputActivityMonitor.run_wakes (inputActivityInit_owns initMs)] at monitor
    rw [monitor]
    rfl

end NitroSense
