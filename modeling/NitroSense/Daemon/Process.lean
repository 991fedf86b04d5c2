import NitroSense.Control.Listener
import NitroSense.Daemon.Args
import NitroSense.Daemon.Diagnostics
import NitroSense.Daemon.EcRegisters
import NitroSense.Daemon.Schedule
import NitroSense.Ec.Backends

/-!
# The process

`main` of `daemon.c`: the arguments, the profile and the gate of the model
decide whether the EC is opened at all, and what is opened is given back.
-/

namespace NitroSense

open Lib EcDevice

def ansFallbackConfig : CString := "models/acer-nitro-an517-51.json".toList

def ansStatusPath : CString := "/run/acer-nitro-sense/status.json".toList

def ansTempCachePath : CString := "/run/acer-nitro-sense/temperature-cache.json".toList

def ansStatePath : CString := "/var/lib/acer-nitro-sense/state.json".toList

/-- The system in which `main` runs: its files, the EC behind each backend, why a directory cannot
be made, and what the rest finds. -/
structure System where
  files : CString → Option (List Char)
  ec : EcSystem
  device : EcBackend → EcDevice
  ecErrno : Errno
  runDir : Option Errno
  stateDir : Option Errno
  lspci : Option CString
  socket : SocketCalls
  socketFile : Option SocketFile
  socketErrno : Errno
  host : Host
  inputs : Option (List InputEntry)
  initMs : Int
  openMs : Int

/-- What `main` has done so far: the status it has returned, what it has printed and opened, the EC
with the backend it was opened by, and the states of its socket. -/
structure Process where
  status : Option Nat
  output : CString := []
  errors : CString := []
  held : EcHeld := {}
  ec : Option (EcBackend × EcDevice) := none
  sockets : List Listener := []

def loadHardwareNames (system : System) : HardwareNames where
  cpu := loadCpuName (system.files "/proc/cpuinfo".toList)
  gpu := loadGpuName system.lspci

def configErrors (messages : List CString) : CString :=
  messages.flatMap fun message => "invalid config: ".toList ++ (message ++ "\n".toList)

def loadProfile (system : System) (args : DaemonArgs) : CString × Option AnsConfig :=
  match configLoad (system.files args.configPath) with
  | .ok cfg => ([], some cfg)
  | .error messages =>
      let failed := configErrors messages
      let refused := "failed to load config: ".toList ++ (args.configPath ++ "\n".toList)
      if args.configPathExplicit then (failed ++ refused, none)
      else
        match configLoad (system.files ansFallbackConfig) with
        | .ok cfg => (failed, some cfg)
        | .error messages => (failed ++ (configErrors messages ++ refused), none)

/-- A file as the string that `read_text_file` gives, before its limit. -/
def System.text (system : System) (path : CString) : Option CString :=
  (system.files path).map fun bytes => bytes.takeWhile (· ≠ nul)

/-- What the daemon finds when it starts. -/
def System.boot (system : System) (ec : EcDevice) : Boot where
  ec := ec
  host := system.host
  statusFile := system.text ansStatusPath
  cacheFile := system.text ansTempCachePath
  savedState := system.text ansStatePath

def System.startLoop (system : System) (cfg : AnsConfig) (ec : EcDevice) : DaemonLoop :=
  { DaemonLoop.start cfg (startDaemon cfg (system.boot ec)) system.inputs system.initMs
      system.openMs with
    statusFile := system.text ansStatusPath
    cacheFile := system.text ansTempCachePath }

def closeSocket (system : System) (sockets : List Listener) : List Listener :=
  match sockets.getLast? with
  | none => sockets
  | some last => sockets ++ last.giveUp system.socket.unlinkAgain

/-- `main` from the directories on, with the iterations that its loop has made. -/
def daemonServe (system : System) (cfg : AnsConfig) (errors : CString)
    (iterations : List Iteration) : Process :=
  match system.runDir, system.stateDir with
  | some errno, _ =>
      { status := some 1, errors := errors ++ perror "mkdir /run/acer-nitro-sense".toList errno }
  | none, some errno =>
      { status := some 1
        errors := errors ++ perror "mkdir /var/lib/acer-nitro-sense".toList errno }
  | none, none =>
      let opened := ecOpenRw system.ec cfg.ecPath {}
      if opened.2 = false then
        { status := some 1
          errors := errors ++ printEcOpenError system.files system.ecErrno
          held := opened.1.1 }
      else
        let ec := opened.1.2
        let device := system.device ec.backend
        let errors := errors ++ ("using EC backend: ".toList ++ (ec.name ++ "\n".toList))
        let socket := makeSocket system.socket system.socketFile
        if socket.2 = false then
          { status := some 1
            errors := errors ++ perror "control socket".toList system.socketErrno
            held := (ecClose opened.1).1
            ec := some (ec.backend, device)
            sockets := socket.1 }
        else
          let loop := run (DaemonLoop.iterate cfg ec.name (loadHardwareNames system))
            (system.startLoop cfg device) iterations
          if loop.going then
            { status := none
              errors := errors
              held := opened.1.1
              ec := some (ec.backend, loop.daemon.ec)
              sockets := socket.1 }
          else
            { status := some 0
              errors := errors
              held := (ecClose opened.1).1
              ec := some (ec.backend, (shutdownDaemon cfg loop.daemon).ec)
              sockets := closeSocket system socket.1 }

/-- `--probe` and `--validate-model`. -/
def daemonDiagnose (system : System) (cfg : AnsConfig) (args : DaemonArgs) (errors : CString) :
    Process :=
  let opened := ecOpenRw system.ec cfg.ecPath {}
  if opened.2 = false then
    { status := some 1
      errors := errors ++ printEcOpenError system.files system.ecErrno
      held := opened.1.1 }
  else
    let ec := opened.1.2
    let device := system.device ec.backend
    let diagnosis :=
      if args.validate then
        validateModel cfg ec.name system.host (loadDmiModel system.files) args.configPath
          args.forceModel device
      else probeEc cfg ec.name system.host.sensors device
    { status := some 0
      output := diagnosis.2
      errors := errors
      held := (ecClose opened.1).1
      ec := some (ec.backend, diagnosis.1) }

def daemonUsage : CString :=
  ("usage: acer-nitro-sensed [--config PATH] [--force-model] [--check-config] [--probe] " ++
    "[--validate-model]\n").toList

/-- `main`, with the iterations that the loop of the daemon has made. -/
def daemonMain (system : System) (argv : List CString) (iterations : List Iteration) : Process :=
  match daemonArgsParse argv with
  | .help => { status := some 0, output := daemonUsage }
  | .invalid => { status := some 2, errors := daemonUsage }
  | .run args =>
      match loadProfile system args with
      | (errors, none) => { status := some 1, errors := errors }
      | (errors, some cfg) =>
          if args.forceModel = false ∧ dmiAllowed cfg (loadDmiModel system.files) = false then
            { status := some 1
              errors := errors ++
                "refusing to run: DMI model is not allowed by config\n".toList }
          else if args.checkConfig then
            { status := some 0
              output :=
                ["config ok: ".toList, cfg.model, ", ".toList, decimal cfg.fanLen,
                  " fans, ".toList, decimal cfg.presets.length, " presets\n".toList].flatten
              errors := errors }
          else if args.probe ∨ args.validate then daemonDiagnose system cfg args errors
          else daemonServe system cfg errors iterations

/-! ## What `main` guards -/

/-- The registers a daemon with this profile may address: bytes, and the second bytes of the fan
speeds that are read as words. -/
def MayAddress (cfg : AnsConfig) (reg : Int) : Prop :=
  configByteValueValid reg ∨
    cfg.readWords = true ∧ ∃ i < cfg.fanLen, reg = (cfg.fan i).readRegister + 1

/-- The arguments ask for the EC with a profile that loads and that is for this machine. -/
structure MayOpen (system : System) (argv : List CString) (args : DaemonArgs) (cfg : AnsConfig) :
    Prop where
  parsed : daemonArgsParse argv = .run args
  loaded : (loadProfile system args).2 = some cfg
  allowed : args.forceModel = true ∨ dmiAllowed cfg (loadDmiModel system.files) = true
  asked : args.checkConfig = false

/-- What `main` has done with the EC: it has only read it, or lived a life of the daemon on it. -/
inductive EcUse (cfg : AnsConfig) (args : DaemonArgs) (before : EcDevice) :
    Option Nat → EcDevice → Prop
  | inspected {after : EcDevice} (status : Nat)
      (asked : status = 0 → args.probe = true ∨ args.validate = true)
      (inspects : Inspects (MayAddress cfg) before after) : EcUse cfg args before (some status) after
  | running {boot : Boot} (same : boot.ec = before) (events : List Event)
      (unasked : args.probe = false ∧ args.validate = false) :
      EcUse cfg args before none (loopedDaemon cfg boot events).ec
  | ended {boot : Boot} (same : boot.ec = before) (events : List Event)
      (unasked : args.probe = false ∧ args.validate = false) :
      EcUse cfg args before (some 0) (shutdownDaemon cfg (loopedDaemon cfg boot events)).ec

/-- What holds of a process at any time: the EC is opened behind the gates only and then used as
the profile allows, the socket lets in nobody too early, and in the end everything is given back. -/
structure Process.Guarded (system : System) (argv : List CString) (process : Process) : Prop where
  opens : ∀ backend after, process.ec = some (backend, after) →
    ∃ args cfg, MayOpen system argv args cfg ∧
      EcUse cfg args (system.device backend) process.status after ∧
      AccessesWithin (MayAddress cfg) (system.device backend) after
  sockets : ∀ state ∈ process.sockets, state.Guarded
  released : process.status ≠ none → process.held = {} ∧
    ∀ last ∈ process.sockets.getLast?, last.held = false ∧ last.listening = false

section Guards

variable {system : System} {argv : List CString} {args : DaemonArgs} {cfg : AnsConfig}
  {errors : CString}

theorem mayAddress_reaches (cfg : AnsConfig) : Reaches cfg (MayAddress cfg) :=
  ⟨fun _ byte => Or.inl byte, fun words i below => Or.inr ⟨words, i, below, rfl⟩⟩

theorem configLoad_valid {file : Option (List Char)} (loaded : configLoad file = .ok cfg) :
    cfg.Valid := by
  cases file with
  | none => cases loaded
  | some bytes => exact (configLoadText_eq_ok.mp loaded).accepted.toValid

theorem MayOpen.valid (may : MayOpen system argv args cfg) : cfg.Valid := by
  have loaded := may.loaded
  unfold loadProfile at loaded
  split at loaded
  · rename_i own found
    cases loaded
    exact configLoad_valid found
  · dsimp only at loaded
    split at loaded
    · cases loaded
    · split at loaded
      · rename_i fallback found
        cases loaded
        exact configLoad_valid found
      · cases loaded

/-- Whatever the use, the registers are those of the profile. -/
theorem EcUse.accesses {before after : EcDevice} {status : Option Nat} (valid : cfg.Valid)
    (use : EcUse cfg args before status after) :
    AccessesWithin (MayAddress cfg) before after := by
  cases use with
  | inspected _ _ inspects => exact inspects.within
  | running same events _ =>
      subst same
      exact loopedDaemon_accesses valid (mayAddress_reaches cfg) _ events
  | ended same events _ =>
      subst same
      exact shutdownDaemon_accesses valid (mayAddress_reaches cfg) _ events

/-- A process that has opened no EC and no socket. -/
theorem Process.guarded_unopened {process : Process} (none : process.ec = none)
    (held : process.held = {}) (sockets : process.sockets = []) :
    process.Guarded system argv where
  opens backend after opened := by
    rw [none] at opened
    cases opened
  sockets state member := by
    rw [sockets] at member
    cases member
  released _ := by
    refine ⟨held, fun last member => ?_⟩
    rw [sockets] at member
    cases member

theorem ecOpenRw_failed {path : CString} (failed : (ecOpenRw system.ec path {}).2 = false) :
    (ecOpenRw system.ec path {}).1.1 = {} := by
  obtain ⟨holds, opens⟩ := ecOpenRw_holds system.ec path
  have closed : (ecOpenRw system.ec path {}).1.2.backend = .none := by
    by_contra open_
    rw [opens.mpr open_] at failed
    cases failed
  rw [holds, EcHandle.holds, closed]

theorem ecOpenRw_closed (path : CString) : (ecClose (ecOpenRw system.ec path {}).1).1 = {} := by
  obtain ⟨holds, -⟩ := ecOpenRw_holds system.ec path
  have closes := (ecClose_holds (ecOpenRw system.ec path {}).1.2).1
  rw [← holds] at closes
  exact closes

theorem daemonDiagnose_guarded (may : MayOpen system argv args cfg)
    (asked : args.probe = true ∨ args.validate = true) :
    (daemonDiagnose system cfg args errors).Guarded system argv := by
  unfold daemonDiagnose
  dsimp only
  split
  · rename_i failed
    exact Process.guarded_unopened rfl (ecOpenRw_failed failed) rfl
  · refine ⟨fun backend after opened => ?_, nofun, fun _ => ⟨ecOpenRw_closed _, nofun⟩⟩
    cases opened
    have inspects : Inspects (MayAddress cfg)
        (system.device (ecOpenRw system.ec cfg.ecPath {}).1.2.backend)
        (if args.validate then
          validateModel cfg (ecOpenRw system.ec cfg.ecPath {}).1.2.name system.host
            (loadDmiModel system.files) args.configPath args.forceModel
            (system.device (ecOpenRw system.ec cfg.ecPath {}).1.2.backend)
        else probeEc cfg (ecOpenRw system.ec cfg.ecPath {}).1.2.name system.host.sensors
          (system.device (ecOpenRw system.ec cfg.ecPath {}).1.2.backend)).1 := by
      split
      · exact validateModel_inspects may.valid (mayAddress_reaches cfg) _ _ _ _ _
      · exact probeEc_inspects may.valid (mayAddress_reaches cfg) _ _
    exact ⟨args, cfg, may, .inspected 0 (fun _ => asked) inspects, inspects.within⟩

/-- A socket of a running daemon, and one that the daemon has closed. -/
theorem closeSocket_guarded (system : System) :
    (∀ state ∈ closeSocket system (makeSocket system.socket system.socketFile).1,
        state.Guarded) ∧
      ∀ last ∈ (closeSocket system (makeSocket system.socket system.socketFile).1).getLast?,
        last.held = false ∧ last.listening = false := by
  obtain ⟨guarded, last, -⟩ := makeSocket_states system.socket system.socketFile
  unfold closeSocket
  cases states : (makeSocket system.socket system.socketFile).1.getLast? with
  | none =>
      rw [states] at last
      cases last
  | some final =>
      dsimp only
      refine ⟨List.forall_mem_append.mpr ⟨guarded, fun state member =>
        (final.giveUp_guarded _ state member).1⟩, ?_⟩
      intro state member
      rw [Listener.giveUp, List.getLast?_append] at member
      cases member
      exact ⟨rfl, rfl⟩

/-- The loop that `main` runs is a life of the daemon. -/
theorem startLoop_uses (unasked : args.probe = false ∧ args.validate = false) (system : System)
    (backend : CString) (names : HardwareNames) (device : EcDevice)
    (iterations : List Iteration) :
    let loop := run (DaemonLoop.iterate cfg backend names) (system.startLoop cfg device) iterations
    EcUse cfg args device none loop.daemon.ec ∧
      EcUse cfg args device (some 0) (shutdownDaemon cfg loop.daemon).ec := by
  obtain ⟨met, -⟩ := @DaemonLoop.run_iterate cfg backend names (system.startLoop cfg device)
    iterations
  dsimp only
  rw [met]
  have same : (system.boot device).ec = device := rfl
  exact ⟨.running same _ unasked, .ended same _ unasked⟩

theorem daemonServe_guarded (may : MayOpen system argv args cfg)
    (unasked : args.probe = false ∧ args.validate = false) (iterations : List Iteration) :
    (daemonServe system cfg errors iterations).Guarded system argv := by
  obtain ⟨states, listening, held⟩ := makeSocket_states system.socket system.socketFile
  have lives (name : CString) (device : EcDevice) :=
    @startLoop_uses args cfg unasked system name (loadHardwareNames system) device iterations
  unfold daemonServe
  cases system.runDir with
  | some errno => exact Process.guarded_unopened rfl rfl rfl
  | none =>
      cases system.stateDir with
      | some errno => exact Process.guarded_unopened rfl rfl rfl
      | none =>
          dsimp only
          split
          · rename_i failed
            exact Process.guarded_unopened rfl (ecOpenRw_failed failed) rfl
          · split
            · rename_i deaf
              refine ⟨fun backend after opened => ?_, states, fun _ => ⟨ecOpenRw_closed _, ?_⟩⟩
              · cases opened
                exact ⟨args, cfg, may, .inspected 1 nofun (.refl _), .refl _⟩
              · intro last member
                rw [deaf, member] at listening held
                exact ⟨Option.some.inj held, Option.some.inj listening⟩
            · split
              · refine ⟨fun backend after opened => ?_, states, fun returned => absurd rfl returned⟩
                cases opened
                obtain ⟨runs, -⟩ := lives (ecOpenRw system.ec cfg.ecPath {}).1.2.name
                  (system.device (ecOpenRw system.ec cfg.ecPath {}).1.2.backend)
                exact ⟨args, cfg, may, runs, runs.accesses may.valid⟩
              · obtain ⟨guarded, closed⟩ := closeSocket_guarded system
                refine ⟨fun backend after opened => ?_, guarded,
                  fun _ => ⟨ecOpenRw_closed _, closed⟩⟩
                cases opened
                obtain ⟨-, ends⟩ := lives (ecOpenRw system.ec cfg.ecPath {}).1.2.name
                  (system.device (ecOpenRw system.ec cfg.ecPath {}).1.2.backend)
                exact ⟨args, cfg, may, ends, ends.accesses may.valid⟩

end Guards

/--
However the daemon is called, in whatever system and for however long, the EC is
opened only with a profile that loads and is for the machine, or forced; it is
then only read, or lives a life of the daemon; in the end nothing stays open.
-/
theorem daemonMain_guarded (system : System) (argv : List CString) (iterations : List Iteration) :
    (daemonMain system argv iterations).Guarded system argv := by
  unfold daemonMain
  split
  · exact Process.guarded_unopened rfl rfl rfl
  · exact Process.guarded_unopened rfl rfl rfl
  · rename_i args parsed
    split
    · exact Process.guarded_unopened rfl rfl rfl
    · rename_i errors cfg loaded
      split
      · exact Process.guarded_unopened rfl rfl rfl
      · rename_i allowed
        split
        · exact Process.guarded_unopened rfl rfl rfl
        · rename_i asked
          have may : MayOpen system argv args cfg := by
            refine ⟨parsed, congrArg Prod.snd loaded, ?_, Bool.eq_false_iff.mpr asked⟩
            by_contra refused
            rw [not_or, Bool.not_eq_true, Bool.not_eq_true] at refused
            exact allowed refused
          split
          · rename_i diagnose
            exact daemonDiagnose_guarded may diagnose
          · rename_i serve
            rw [not_or, Bool.not_eq_true, Bool.not_eq_true] at serve
            exact daemonServe_guarded may serve iterations

end NitroSense
