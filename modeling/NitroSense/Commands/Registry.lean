import NitroSense.Commands.Handlers

/-!
# The command registry

`commands/daemon/registry.c`: the table of all commands, the permission check
and `execute_command`.  Six commands mix a status action everyone may use with
actions that need the permission; they check it themselves.
-/

namespace NitroSense

open EcDevice

/-- The refusal of `ensure_control`, for `ANS_CONTROL_GROUP`. -/
def permissionDenied : CString :=
  controlReply ("error permission denied: add your user to the acer-nitro-sense group " ++
    "and log in again\n").toList

def ensureControl (daemon : Daemon) (canControl : Bool) (action : Daemon × CString) :
    Daemon × CString :=
  if canControl then action else (daemon, permissionDenied)

def commandActionIsStatus (parsed : Option CString) : Bool := parsed = some "status".toList

abbrev RegistryHandler := AnsConfig → Daemon → CString → Bool → Daemon × CString

/-- The four commands that only report: an exact line, and their reply. -/
def handleReportRegistryCommand (name : CString) (reply : AnsConfig → Daemon → CString) :
    RegistryHandler := fun cfg daemon cmd _ =>
  if commandIsExact cmd name then (daemon, reply cfg daemon)
  else (daemon, controlReply ["error usage: ".toList, name, "\n".toList].flatten)

def handleStatusRegistryCommand : RegistryHandler :=
  handleReportRegistryCommand "status".toList replyStatus

def handlePresetsRegistryCommand : RegistryHandler :=
  handleReportRegistryCommand "presets".toList fun cfg _ => replyPresets cfg

def handlePresetShowRegistryCommand : RegistryHandler :=
  handleReportRegistryCommand "preset-show".toList replyPresetShow

def handleCapabilitiesRegistryCommand : RegistryHandler :=
  handleReportRegistryCommand "capabilities".toList fun cfg daemon =>
    replyCapabilities cfg daemon.host daemon.runtime

/-- A command whose status action is for everyone. -/
def handleMixedRegistryCommand (isStatus : CString → Bool)
    (status : AnsConfig → Daemon → EcDevice × CString)
    (handler : AnsConfig → Daemon → CString → Daemon × CString) : RegistryHandler :=
  fun cfg daemon cmd canControl =>
    if isStatus cmd then daemon.inspected (status cfg daemon)
    else ensureControl daemon canControl (handler cfg daemon cmd)

def handleCoolboostRegistryCommand : RegistryHandler :=
  handleMixedRegistryCommand (fun cmd => commandActionIsStatus (parseCoolboostCommand cmd 16))
    (fun cfg daemon => (daemon.ec, replyCoolboostStatus cfg daemon.coolboostEnabled))
    handleCoolboostCommand

def handleFanModeRegistryCommand : RegistryHandler :=
  handleMixedRegistryCommand (fun cmd => commandActionIsStatus (parseFanModeCommand cmd 16))
    (fun cfg daemon => replyFanModeStatus daemon.ec cfg) handleFanModeCommand

def handleProfileRegistryCommand : RegistryHandler :=
  handleMixedRegistryCommand (fun cmd => commandActionIsStatus (parseProfileCommand cmd 16))
    (fun cfg daemon => replyProfileStatus daemon.ec cfg) handleProfileCommand

def handlePowerSourceRegistryCommand : RegistryHandler :=
  handleMixedRegistryCommand (fun cmd => commandActionIsStatus (parsePowerSourceCommand cmd 16))
    (fun cfg daemon => replyPowerSourceStatus daemon.ec cfg daemon.host daemon.runtime)
    handlePowerSourceCommand

def handleGpuTempRegistryCommand : RegistryHandler :=
  handleMixedRegistryCommand (fun cmd => commandActionIsStatus (parseGpuTempCommand cmd 16))
    (fun cfg daemon => replyGpuTempStatus daemon.ec cfg daemon.host.sensors)
    fun _ => handleGpuTempCommand

/-- Both `keyboard-backlight status` and `keyboard-backlight timeout status` report. -/
def handleKeyboardBacklightRegistryCommand : RegistryHandler :=
  handleMixedRegistryCommand
    (fun cmd =>
      commandActionIsStatus (parseKeyboardBacklightCommand cmd 16) ||
        commandActionIsStatus (parseKeyboardBacklightTimeoutCommand cmd 16))
    (fun cfg daemon =>
      replyKeyboardBacklightStatus daemon.ec cfg daemon.host.leds daemon.runtime)
    handleKeyboardBacklightCommand

def handleEcRegistryCommand : RegistryHandler := fun _ daemon cmd _ => handleEcCommand daemon cmd

def handleFanRegistryCommand : RegistryHandler := fun cfg daemon cmd _ =>
  handleFanControlCommand cfg daemon cmd

def handleDaemonControlRegistryCommand : RegistryHandler := fun cfg daemon cmd _ =>
  handleDaemonControlCommand cfg daemon cmd

structure DaemonRegistryCommand where
  name : CString
  requiresControl : Bool
  handler : RegistryHandler

def daemonCommands : List DaemonRegistryCommand :=
  [⟨"status".toList, false, handleStatusRegistryCommand⟩,
    ⟨"presets".toList, false, handlePresetsRegistryCommand⟩,
    ⟨"preset-show".toList, false, handlePresetShowRegistryCommand⟩,
    ⟨"capabilities".toList, false, handleCapabilitiesRegistryCommand⟩,
    ⟨"coolboost".toList, false, handleCoolboostRegistryCommand⟩,
    ⟨"fan-mode".toList, false, handleFanModeRegistryCommand⟩,
    ⟨"profile".toList, false, handleProfileRegistryCommand⟩,
    ⟨"power-source".toList, false, handlePowerSourceRegistryCommand⟩,
    ⟨"gpu-temp".toList, false, handleGpuTempRegistryCommand⟩,
    ⟨"keyboard-backlight".toList, false, handleKeyboardBacklightRegistryCommand⟩,
    ⟨"ec-read".toList, true, handleEcRegistryCommand⟩,
    ⟨"ec-dump".toList, true, handleEcRegistryCommand⟩,
    ⟨"set".toList, true, handleFanRegistryCommand⟩,
    ⟨"preset".toList, true, handleFanRegistryCommand⟩,
    ⟨"auto".toList, true, handleFanRegistryCommand⟩,
    ⟨"firmware-auto".toList, true, handleFanRegistryCommand⟩,
    ⟨"resume".toList, true, handleDaemonControlRegistryCommand⟩,
    ⟨"stop".toList, true, handleDaemonControlRegistryCommand⟩]

def findDaemonCommand (name : CString) : Option DaemonRegistryCommand :=
  daemonCommands.find? fun entry => entry.name = name

/-- `execute_command`, that is `dispatch_daemon_command`. -/
def executeCommand (cfg : AnsConfig) (daemon : Daemon) (cmd : CString) (canControl : Bool) :
    Daemon × CString :=
  match (commandFirstToken cmd 32).bind findDaemonCommand with
  | none => (daemon, controlReply "error unknown command\n".toList)
  | some entry =>
      if entry.requiresControl then
        ensureControl daemon canControl (entry.handler cfg daemon cmd canControl)
      else entry.handler cfg daemon cmd canControl

/-! ## Clients without the permission -/

/-- A command that changed nothing but the EC's log of reads. -/
structure OnlyInspected (before after : Daemon) : Prop where
  ec : OnlyRead before.ec after.ec
  rest : after = { before with ec := after.ec }

namespace OnlyInspected

@[refl] theorem refl (daemon : Daemon) : OnlyInspected daemon daemon := ⟨OnlyRead.refl _, rfl⟩

theorem trans {first second third : Daemon} (left : OnlyInspected first second)
    (right : OnlyInspected second third) : OnlyInspected first third :=
  ⟨left.ec.trans right.ec,
    right.rest.trans (congrArg (fun daemon : Daemon => { daemon with ec := third.ec }) left.rest)⟩

theorem of_inspected {daemon : Daemon} {reply : EcDevice × CString}
    (reads : OnlyRead daemon.ec reply.1) : OnlyInspected daemon (daemon.inspected reply).1 :=
  ⟨reads, rfl⟩

end OnlyInspected

/-- The handlers that check the permission themselves, or need none. -/
inductive OpenHandler : RegistryHandler → Prop where
  | report (name : CString) (reply : AnsConfig → Daemon → CString) :
      OpenHandler (handleReportRegistryCommand name reply)
  | mixed (isStatus : CString → Bool) {status : AnsConfig → Daemon → EcDevice × CString}
      (handler : AnsConfig → Daemon → CString → Daemon × CString)
      (reads : ∀ cfg daemon, OnlyRead daemon.ec (status cfg daemon).1) :
      OpenHandler (handleMixedRegistryCommand isStatus status handler)

/-- Every entry of the table requires the permission or has such a handler. -/
theorem daemonCommands_guarded :
    ∀ entry ∈ daemonCommands, entry.requiresControl = true ∨ OpenHandler entry.handler := by
  simp only [daemonCommands, List.forall_mem_cons]
  refine ⟨Or.inr (.report _ _), Or.inr (.report _ _), Or.inr (.report _ _), Or.inr (.report _ _),
    Or.inr (.mixed _ _ fun _ _ => ?_), Or.inr (.mixed _ _ fun _ _ => ?_),
    Or.inr (.mixed _ _ fun _ _ => ?_), Or.inr (.mixed _ _ fun _ _ => ?_),
    Or.inr (.mixed _ _ fun _ _ => ?_), Or.inr (.mixed _ _ fun _ _ => ?_), Or.inl trivial,
    Or.inl trivial, Or.inl trivial, Or.inl trivial, Or.inl trivial, Or.inl trivial,
    Or.inl trivial, Or.inl trivial, List.forall_mem_nil _⟩
  · exact OnlyRead.refl _
  · exact replyFanModeStatus_onlyRead _ _
  · exact replyProfileStatus_onlyRead _ _
  · exact readPlatformProfile_onlyRead _ _
  · exact replyGpuTempStatus_onlyRead _ _ _
  · exact keyboardBacklightReadAny_onlyRead _ _ _

section Permission

variable {handler : RegistryHandler}

/-- Without the permission an open handler reports or refuses. -/
theorem OpenHandler.onlyInspected (isOpen : OpenHandler handler) (cfg : AnsConfig)
    (daemon : Daemon) (cmd : CString) : OnlyInspected daemon (handler cfg daemon cmd false).1 := by
  cases isOpen with
  | report name reply =>
      unfold handleReportRegistryCommand
      split
      · exact OnlyInspected.refl daemon
      · exact OnlyInspected.refl daemon
  | mixed isStatus handler reads =>
      unfold handleMixedRegistryCommand
      split
      · exact OnlyInspected.of_inspected (reads cfg daemon)
      · exact OnlyInspected.refl daemon

/-- An open handler refuses a client, or treats it like one with the permission. -/
theorem OpenHandler.refused_or_same (isOpen : OpenHandler handler) (cfg : AnsConfig)
    (daemon : Daemon) (cmd : CString) :
    handler cfg daemon cmd false = (daemon, permissionDenied) ∨
      handler cfg daemon cmd false = handler cfg daemon cmd true := by
  cases isOpen with
  | report name reply => exact Or.inr rfl
  | mixed isStatus handler reads =>
      unfold handleMixedRegistryCommand
      split
      · exact Or.inr rfl
      · exact Or.inl rfl

/-- How an entry is found, and what the table says about it. -/
theorem findDaemonCommand_guarded {cmd : CString} {entry : DaemonRegistryCommand}
    (found : (commandFirstToken cmd 32).bind findDaemonCommand = some entry) :
    entry.requiresControl = true ∨ OpenHandler entry.handler := by
  obtain ⟨_, _, known⟩ := Option.bind_eq_some_iff.mp found
  exact daemonCommands_guarded entry (List.mem_of_find?_eq_some known)

/-- The permission only ever turns a refusal into an action. -/
theorem executeCommand_refused_or_same (cfg : AnsConfig) (daemon : Daemon) (cmd : CString) :
    executeCommand cfg daemon cmd false = (daemon, permissionDenied) ∨
      executeCommand cfg daemon cmd false = executeCommand cfg daemon cmd true := by
  unfold executeCommand
  split
  · exact Or.inr rfl
  · rename_i entry found
    cases guarded : entry.requiresControl with
    | true => exact Or.inl rfl
    | false =>
        rcases findDaemonCommand_guarded found with required | isOpen
        · rw [guarded] at required
          cases required
        · exact isOpen.refused_or_same cfg daemon cmd

/-- Without the permission an entry that is found refuses or only inspects. -/
theorem foundEntry_inspects {cmd : CString} {entry : DaemonRegistryCommand}
    (found : (commandFirstToken cmd 32).bind findDaemonCommand = some entry) (cfg : AnsConfig)
    (daemon : Daemon) :
    OnlyInspected daemon
      (if entry.requiresControl then ensureControl daemon false (entry.handler cfg daemon cmd false)
        else entry.handler cfg daemon cmd false).1 := by
  rcases findDaemonCommand_guarded found with required | isOpen
  · rw [if_pos required]
    exact OnlyInspected.refl daemon
  · split
    · exact OnlyInspected.refl daemon
    · exact isOpen.onlyInspected cfg daemon cmd

/-- No command line of a client without the permission changes anything. -/
theorem executeCommand_unprivileged (cfg : AnsConfig) (daemon : Daemon) (cmd : CString) :
    OnlyInspected daemon (executeCommand cfg daemon cmd false).1 := by
  unfold executeCommand
  split
  · exact OnlyInspected.refl daemon
  · rename_i entry found
    exact foundEntry_inspects found cfg daemon

end Permission

end NitroSense
