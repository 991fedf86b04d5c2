import NitroSense.Commands.Registry

/-!
# What a command line asks for

A line of an authorised client either asks for one of fourteen actions or only
gets a report or an error.  Everything about what commands change is stated in
terms of these requests; `executeCommand_request` connects them with the
registry and its handlers.
-/

namespace NitroSense

open EcDevice

/-- The actions of the handlers, with what they were asked for and what the parsers check of it. -/
inductive Request where
  | set (fan : CString) (percent : Int) (accepted : fan.length < 32 ∧ 1 ≤ percent ∧ percent ≤ 100)
  | preset (name : CString) (accepted : name.length < 32)
  | auto
  | firmwareAuto
  | fanMode (mode : FanMode)
  | coolboost (enabled : Bool)
  | profile (name : CString)
  | powerSourceApply
  | powerSourceAuto (enabled : Bool)
  | gpuTemp (policy : CString)
  | keyboardSet (percent : Int)
  | keyboardTimeout (enabled : Bool)
  | resume
  | stop
  deriving DecidableEq, Repr

def Request.perform (cfg : AnsConfig) (daemon : Daemon) : Request → Daemon × CString
  | set fan percent _ => setFan cfg daemon fan percent
  | preset name _ => usePreset cfg daemon name
  | auto => startAuto cfg daemon
  | firmwareAuto => startFirmwareAuto cfg daemon
  | fanMode mode => useFanMode cfg daemon mode
  | coolboost enabled => setCoolboost cfg daemon enabled
  | profile name => useProfile cfg daemon name
  | powerSourceApply => usePowerSourceProfile cfg daemon
  | powerSourceAuto enabled =>
      if powerSourceProfilePolicyAvailable cfg = false then
        (daemon, powerSourcePolicyUnavailable (readPowerSource daemon.host.powerSupplies))
      else setPowerSourceAuto cfg daemon enabled
  | gpuTemp policy => setGpuTempPolicy daemon policy
  | keyboardSet percent => setKeyboardBacklight cfg daemon percent
  | keyboardTimeout enabled =>
      if cfg.keyboardBacklight.timeoutSupported = false then
        (daemon,
          controlReply "error keyboard-backlight timeout unavailable for this model\n".toList)
      else setKeyboardBacklightTimeout cfg daemon enabled
  | resume => NitroSense.resume cfg daemon
  | stop => NitroSense.stop daemon

def exactRequest (cmd name : CString) (request : Request) : Option Request :=
  if commandIsExact cmd name then some request else none

def setRequest (cmd : CString) : Option Request :=
  (parseSetCommand cmd 32).pmap (fun parsed accepted => .set parsed.1 parsed.2 accepted)
    fun _ parsed => ⟨parseSetCommand_fan parsed, parseSetCommand_percent parsed⟩

def presetRequest (cmd : CString) : Option Request :=
  (parsePresetCommand cmd 32).pmap .preset fun _ parsed => commandParseAction_length parsed

def powerSourceRequest (cmd : CString) : Option Request :=
  (commandSecondToken cmd 16).bind fun action =>
    if action = "apply".toList then
      (commandParseEnumAction cmd "power-source".toList ["apply".toList] 16).map fun _ =>
        .powerSourceApply
    else if action = "auto".toList then
      ((parsePowerSourceAutoCommand cmd 16).bind findPowerSourceAutoValue).map .powerSourceAuto
    else none

def keyboardRequest (cmd : CString) : Option Request :=
  (commandSecondToken cmd 16).bind fun action =>
    if action = "set".toList then
      ((parseKeyboardBacklightSetCommand cmd).filter fun percent =>
        [0, 25, 50, 75, 100].contains percent).map .keyboardSet
    else if action = "timeout".toList then
      ((parseKeyboardBacklightTimeoutCommand cmd 16).bind
        findKeyboardBacklightTimeoutValue).map .keyboardTimeout
    else none

/-- The request of a line whose first token is `name`. -/
def requestNamed (name cmd : CString) : Option Request :=
  if name = "set".toList then setRequest cmd
  else if name = "preset".toList then presetRequest cmd
  else if name = "auto".toList then exactRequest cmd "auto".toList .auto
  else if name = firmwareAutoPreset then exactRequest cmd firmwareAutoPreset .firmwareAuto
  else if name = "fan-mode".toList then
    ((parseFanModeCommand cmd 16).bind findFanModeAction).map .fanMode
  else if name = "coolboost".toList then
    ((parseCoolboostCommand cmd 16).bind findCoolboostAction).map .coolboost
  else if name = "profile".toList then
    if commandActionIsStatus (parseProfileCommand cmd 16) then none
    else (parseProfileCommand cmd 32).map .profile
  else if name = "power-source".toList then powerSourceRequest cmd
  else if name = "gpu-temp".toList then
    ((parseGpuTempCommand cmd 16).bind findGpuTempAction).map .gpuTemp
  else if name = "keyboard-backlight".toList then keyboardRequest cmd
  else if name = "resume".toList then exactRequest cmd "resume".toList .resume
  else if name = "stop".toList then exactRequest cmd "stop".toList .stop
  else none

def commandRequest (cmd : CString) : Option Request :=
  (commandFirstToken cmd 32).bind fun name => requestNamed name cmd

/-- A result that carries out the request, if there is one, and else only inspects. -/
def Performs (cfg : AnsConfig) (daemon : Daemon) (request : Option Request)
    (result : Daemon × CString) : Prop :=
  match request with
  | some request => result = request.perform cfg daemon
  | none => OnlyInspected daemon result.1

section Performs

variable {cfg : AnsConfig} {daemon : Daemon} {cmd : CString}

theorem performs_exact {name : CString} {request : Request} {usage : CString} :
    Performs cfg daemon (exactRequest cmd name request)
      (if commandIsExact cmd name then request.perform cfg daemon else (daemon, usage)) := by
  unfold exactRequest
  split
  · exact rfl
  · exact OnlyInspected.refl daemon

/-- A mixed command of a client with the permission, whose status line asks for nothing. -/
theorem performs_mixed {request : Option Request} {isStatus : CString → Bool}
    {status : AnsConfig → Daemon → EcDevice × CString}
    {handler : AnsConfig → Daemon → CString → Daemon × CString}
    (reads : OnlyRead daemon.ec (status cfg daemon).1)
    (reports : isStatus cmd = true → request = none)
    (performs : isStatus cmd = false → Performs cfg daemon request (handler cfg daemon cmd)) :
    Performs cfg daemon request
      (handleMixedRegistryCommand isStatus status handler cfg daemon cmd true) := by
  unfold handleMixedRegistryCommand
  cases isReport : isStatus cmd with
  | true =>
      rw [reports isReport]
      exact OnlyInspected.of_inspected reads
  | false => exact performs isReport

theorem commandActionIsStatus_iff {parsed : Option CString} :
    commandActionIsStatus parsed = true ↔ parsed = some "status".toList := by
  simp [commandActionIsStatus]

/-- A parser whose value the request keeps with a proof of what it accepts. -/
theorem performs_pmap {α : Type} {accepted : α → Prop} {parsed : Option α}
    {toRequest : ∀ value, accepted value → Request}
    {checks : ∀ value, parsed = some value → accepted value}
    {usage : CString} {act : α → Daemon × CString}
    (acts : ∀ value ok, act value = (toRequest value ok).perform cfg daemon) :
    Performs cfg daemon (parsed.pmap toRequest checks) (parsed.elim (daemon, usage) act) := by
  cases parsed with
  | none => exact OnlyInspected.refl daemon
  | some value => exact acts value _

theorem handleSet_performs :
    Performs cfg daemon (setRequest cmd) (handleSetCommand cfg daemon cmd) := by
  have parsed : handleSetCommand cfg daemon cmd = (parseSetCommand cmd 32).elim
      (daemon, controlReply "error usage: set cpu|gpu|all 1-100\n".toList)
      fun parsed => setFan cfg daemon parsed.1 parsed.2 := by
    unfold handleSetCommand
    cases parseSetCommand cmd 32 <;> rfl
  rw [parsed]
  exact performs_pmap fun _ _ => rfl

theorem handlePreset_performs :
    Performs cfg daemon (presetRequest cmd) (handlePresetCommand cfg daemon cmd) := by
  have parsed : handlePresetCommand cfg daemon cmd = (parsePresetCommand cmd 32).elim
      (daemon, controlReply "error usage: preset NAME\n".toList) (usePreset cfg daemon) := by
    unfold handlePresetCommand
    cases parsePresetCommand cmd 32 <;> rfl
  rw [parsed]
  exact performs_pmap fun _ _ => rfl

theorem handleCoolboost_performs :
    Performs cfg daemon (((parseCoolboostCommand cmd 16).bind findCoolboostAction).map .coolboost)
      (handleCoolboostRegistryCommand cfg daemon cmd true) := by
  refine performs_mixed (OnlyRead.refl _) (fun status => ?_) fun _ => ?_
  · rw [commandActionIsStatus_iff.mp status]
    rfl
  · unfold handleCoolboostCommand
    cases (parseCoolboostCommand cmd 16).bind findCoolboostAction with
    | none => exact OnlyInspected.refl daemon
    | some enabled => exact rfl

theorem handleFanMode_performs :
    Performs cfg daemon (((parseFanModeCommand cmd 16).bind findFanModeAction).map .fanMode)
      (handleFanModeRegistryCommand cfg daemon cmd true) := by
  refine performs_mixed (replyFanModeStatus_onlyRead _ _) (fun status => ?_) fun _ => ?_
  · rw [commandActionIsStatus_iff.mp status]
    rfl
  · unfold handleFanModeCommand
    cases (parseFanModeCommand cmd 16).bind findFanModeAction with
    | none => exact OnlyInspected.refl daemon
    | some mode => exact rfl

theorem handleGpuTemp_performs :
    Performs cfg daemon (((parseGpuTempCommand cmd 16).bind findGpuTempAction).map .gpuTemp)
      (handleGpuTempRegistryCommand cfg daemon cmd true) := by
  refine performs_mixed (replyGpuTempStatus_onlyRead _ _ _) (fun status => ?_) fun _ => ?_
  · rw [commandActionIsStatus_iff.mp status]
    rfl
  · unfold handleGpuTempCommand
    cases (parseGpuTempCommand cmd 16).bind findGpuTempAction with
    | none => exact OnlyInspected.refl daemon
    | some policy => exact rfl

/-- A profile cannot be called `status`, since that line only reports. -/
theorem handleProfile_performs :
    Performs cfg daemon
      (if commandActionIsStatus (parseProfileCommand cmd 16) then none
        else (parseProfileCommand cmd 32).map .profile)
      (handleProfileRegistryCommand cfg daemon cmd true) := by
  refine performs_mixed (replyProfileStatus_onlyRead _ _) (fun status => if_pos status)
    fun other => ?_
  rw [other, if_neg Bool.false_ne_true]
  unfold handleProfileCommand
  cases parseProfileCommand cmd 32 with
  | none => exact OnlyInspected.refl daemon
  | some profile => exact rfl

theorem handlePowerSourceAuto_performs :
    Performs cfg daemon
      (((parsePowerSourceAutoCommand cmd 16).bind findPowerSourceAutoValue).map .powerSourceAuto)
      (handlePowerSourceAutoCommand cfg daemon cmd) := by
  unfold handlePowerSourceAutoCommand
  cases parsePowerSourceAutoCommand cmd 16 with
  | none => exact OnlyInspected.refl daemon
  | some value =>
      dsimp only [Option.bind_some]
      cases findPowerSourceAutoValue value with
      | none =>
          split
          · exact OnlyInspected.refl daemon
          · exact OnlyInspected.refl daemon
      | some enabled => exact rfl

theorem handlePowerSource_performs :
    Performs cfg daemon (powerSourceRequest cmd)
      (handlePowerSourceRegistryCommand cfg daemon cmd true) := by
  refine performs_mixed (readPlatformProfile_onlyRead _ _) (fun status => ?_) fun _ => ?_
  · have second := commandSecondToken_of_parseAction (commandActionIsStatus_iff.mp status)
    rw [powerSourceRequest, second]
    rfl
  · unfold handlePowerSourceCommand powerSourceRequest
    cases commandSecondToken cmd 16 with
    | none => exact OnlyInspected.refl daemon
    | some action =>
        dsimp only [Option.bind_some]
        split
        · unfold handlePowerSourceApplyCommand
          cases commandParseEnumAction cmd "power-source".toList ["apply".toList] 16 with
          | none => exact OnlyInspected.refl daemon
          | some _ => exact rfl
        · split
          · exact handlePowerSourceAuto_performs
          · exact OnlyInspected.refl daemon

theorem handleKeyboardSet_performs :
    Performs cfg daemon
      (((parseKeyboardBacklightSetCommand cmd).filter fun percent =>
        [0, 25, 50, 75, 100].contains percent).map .keyboardSet)
      (handleKeyboardBacklightSetCommand cfg daemon cmd) := by
  unfold handleKeyboardBacklightSetCommand
  cases parseKeyboardBacklightSetCommand cmd with
  | none => exact OnlyInspected.refl daemon
  | some percent =>
      dsimp only
      cases step : [(0 : Int), 25, 50, 75, 100].contains percent with
      | false =>
          rw [Option.filter_some, step]
          exact OnlyInspected.refl daemon
      | true =>
          rw [Option.filter_some, step]
          exact rfl

theorem handleKeyboardTimeout_performs :
    Performs cfg daemon
      (((parseKeyboardBacklightTimeoutCommand cmd 16).bind
        findKeyboardBacklightTimeoutValue).map .keyboardTimeout)
      (handleKeyboardBacklightTimeoutCommand cfg daemon cmd) := by
  unfold handleKeyboardBacklightTimeoutCommand
  cases parseKeyboardBacklightTimeoutCommand cmd 16 with
  | none => exact OnlyInspected.refl daemon
  | some value =>
      dsimp only [Option.bind_some]
      cases findKeyboardBacklightTimeoutValue value with
      | none =>
          split
          · exact OnlyInspected.refl daemon
          · exact OnlyInspected.refl daemon
      | some enabled => exact rfl

theorem handleKeyboard_performs :
    Performs cfg daemon (keyboardRequest cmd)
      (handleKeyboardBacklightRegistryCommand cfg daemon cmd true) := by
  refine performs_mixed (keyboardBacklightReadAny_onlyRead _ _ _) (fun status => ?_) fun _ => ?_
  · rcases (Bool.or_eq_true _ _).mp status with plain | timeout
    · have second := commandSecondToken_of_parseAction (commandActionIsStatus_iff.mp plain)
      rw [keyboardRequest, second]
      rfl
    · have value := commandActionIsStatus_iff.mp timeout
      have second := commandSecondToken_of_parseSubAction value
      rw [keyboardRequest, second, value]
      rfl
  · unfold handleKeyboardBacklightCommand keyboardRequest
    cases commandSecondToken cmd 16 with
    | none => exact OnlyInspected.refl daemon
    | some action =>
        dsimp only [Option.bind_some]
        split
        · exact handleKeyboardSet_performs
        · split
          · exact handleKeyboardTimeout_performs
          · exact OnlyInspected.refl daemon

end Performs

/-! ## The registry performs the requests -/

section Registry

variable {cfg : AnsConfig} {daemon : Daemon} {cmd : CString}

theorem handleReport_inspects {name : CString} {reply : AnsConfig → Daemon → CString} :
    OnlyInspected daemon (handleReportRegistryCommand name reply cfg daemon cmd true).1 := by
  unfold handleReportRegistryCommand
  split
  · exact OnlyInspected.refl daemon
  · exact OnlyInspected.refl daemon

/-- The fan handlers look their command up again and find the same one. -/
theorem handleFan_performs {name : CString} (first : commandFirstToken cmd 32 = some name)
    (fan : name ∈ ["set".toList, "preset".toList, "auto".toList, firmwareAutoPreset]) :
    Performs cfg daemon (requestNamed name cmd) (handleFanRegistryCommand cfg daemon cmd true) := by
  unfold handleFanRegistryCommand handleFanControlCommand
  rw [first]
  simp only [List.mem_cons, List.not_mem_nil, or_false] at fan
  rcases fan with rfl | rfl | rfl | rfl
  · exact handleSet_performs
  · exact handlePreset_performs
  · exact performs_exact
  · exact performs_exact

theorem handleDaemonControl_performs {name : CString}
    (first : commandFirstToken cmd 32 = some name)
    (lifecycle : name ∈ ["resume".toList, "stop".toList]) :
    Performs cfg daemon (requestNamed name cmd)
      (handleDaemonControlRegistryCommand cfg daemon cmd true) := by
  unfold handleDaemonControlRegistryCommand handleDaemonControlCommand
  rw [first]
  simp only [List.mem_cons, List.not_mem_nil, or_false] at lifecycle
  rcases lifecycle with rfl | rfl
  · exact performs_exact
  · exact performs_exact

theorem handleEc_inspects : OnlyInspected daemon (handleEcCommand daemon cmd).1 := by
  unfold handleEcCommand
  dsimp only
  split
  · exact OnlyInspected.refl daemon
  · split
    · unfold handleEcReadCommand
      split
      · exact OnlyInspected.refl daemon
      · exact OnlyInspected.of_inspected (replyEcRead_onlyRead _ _)
    · split
      · unfold handleEcDumpCommand
        split
        · exact OnlyInspected.refl daemon
        · exact OnlyInspected.of_inspected (replyEcDump_onlyRead _ _ _)
      · exact OnlyInspected.refl daemon

/-- Every entry of the table performs the request of its name. -/
theorem entry_performs : ∀ entry ∈ daemonCommands, commandFirstToken cmd 32 = some entry.name →
    Performs cfg daemon (requestNamed entry.name cmd) (entry.handler cfg daemon cmd true) := by
  simp only [daemonCommands, List.forall_mem_cons]
  refine ⟨fun _ => ?_, fun _ => ?_, fun _ => ?_, fun _ => ?_, fun _ => ?_, fun _ => ?_, fun _ => ?_,
    fun _ => ?_, fun _ => ?_, fun _ => ?_, fun _ => ?_, fun _ => ?_, fun first => ?_,
    fun first => ?_, fun first => ?_, fun first => ?_, fun first => ?_, fun first => ?_,
    List.forall_mem_nil _⟩
  · exact handleReport_inspects
  · exact handleReport_inspects
  · exact handleReport_inspects
  · exact handleReport_inspects
  · exact handleCoolboost_performs
  · exact handleFanMode_performs
  · exact handleProfile_performs
  · exact handlePowerSource_performs
  · exact handleGpuTemp_performs
  · exact handleKeyboard_performs
  · exact handleEc_inspects
  · exact handleEc_inspects
  · exact handleFan_performs first (by decide)
  · exact handleFan_performs first (by decide)
  · exact handleFan_performs first (by decide)
  · exact handleFan_performs first (by decide)
  · exact handleDaemonControl_performs first (by decide)
  · exact handleDaemonControl_performs first (by decide)

/-- A name outside the table asks for nothing. -/
theorem requestNamed_unknown {name : CString} (unknown : findDaemonCommand name = none) :
    requestNamed name cmd = none := by
  have other := List.find?_eq_none.mp unknown
  simp only [daemonCommands, List.forall_mem_cons, decide_eq_true_eq] at other
  obtain ⟨_, _, _, _, coolboost, fanMode, profile, powerSource, gpuTemp, keyboard, _, _, set,
    preset, auto, firmwareAuto, resume, stop, _⟩ := other
  have firmware : name ≠ firmwareAutoPreset := Ne.symm firmwareAuto
  rw [requestNamed, if_neg (Ne.symm set), if_neg (Ne.symm preset), if_neg (Ne.symm auto),
    if_neg firmware, if_neg (Ne.symm fanMode), if_neg (Ne.symm coolboost),
    if_neg (Ne.symm profile), if_neg (Ne.symm powerSource), if_neg (Ne.symm gpuTemp),
    if_neg (Ne.symm keyboard), if_neg (Ne.symm resume), if_neg (Ne.symm stop)]

/-- A line of a client with the permission does what it asks for, or only inspects. -/
theorem executeCommand_performs (cfg : AnsConfig) (daemon : Daemon) (cmd : CString) :
    Performs cfg daemon (commandRequest cmd) (executeCommand cfg daemon cmd true) := by
  unfold executeCommand commandRequest
  cases first : commandFirstToken cmd 32 with
  | none => exact OnlyInspected.refl daemon
  | some name =>
      dsimp only [Option.bind_some]
      cases found : findDaemonCommand name with
      | none =>
          rw [requestNamed_unknown found]
          exact OnlyInspected.refl daemon
      | some entry =>
          have same : entry.name = name := by simpa using List.find?_some found
          have performs : Performs cfg daemon (requestNamed entry.name cmd)
              (entry.handler cfg daemon cmd true) :=
            entry_performs entry (List.mem_of_find?_eq_some found) (same ▸ first)
          rw [same] at performs
          dsimp only
          split
          · exact performs
          · exact performs

end Registry

/-! ## The lines that set the brightness -/

/-- A choice that gives a value gives it in one of its branches. -/
theorem ite_eq_some {α : Type} {c : Prop} [Decidable c] {first second : Option α} {value : α}
    (chosen : (if c then first else second) = some value) :
    first = some value ∨ second = some value := by
  split at chosen
  · exact Or.inl chosen
  · exact Or.inr chosen

section KeyboardSet

variable {cmd : CString} {percent : Int}

theorem exactRequest_eq {name : CString} {request asked : Request}
    (named : exactRequest cmd name request = some asked) : asked = request := by
  unfold exactRequest at named
  split at named
  · exact (Option.some.inj named).symm
  · cases named

theorem map_ne_keyboardSet {α : Type} {parsed : Option α} {request : α → Request}
    (other : ∀ value, request value ≠ .keyboardSet percent) :
    parsed.map request ≠ some (.keyboardSet percent) := by
  intro asked
  obtain ⟨value, _, same⟩ := Option.map_eq_some_iff.mp asked
  exact other value same

theorem powerSourceRequest_ne_keyboardSet :
    powerSourceRequest cmd ≠ some (.keyboardSet percent) := by
  intro asked
  obtain ⟨action, _, chosen⟩ := Option.bind_eq_some_iff.mp asked
  rcases ite_eq_some chosen with apply | chosen
  · exact map_ne_keyboardSet (fun _ => by simp) apply
  · rcases ite_eq_some chosen with auto | none
    · exact map_ne_keyboardSet (fun _ => by simp) auto
    · cases none

/-- Only a `keyboard-backlight set` line asks for a brightness. -/
theorem commandRequest_keyboardSet (asked : commandRequest cmd = some (.keyboardSet percent)) :
    keyboardRequest cmd = some (.keyboardSet percent) := by
  obtain ⟨name, _, named⟩ := Option.bind_eq_some_iff.mp asked
  unfold requestNamed at named
  rcases ite_eq_some named with set | named
  · obtain ⟨_, _, _, same⟩ := Option.pmap_eq_some_iff.mp set
    cases same
  rcases ite_eq_some named with preset | named
  · obtain ⟨_, _, _, same⟩ := Option.pmap_eq_some_iff.mp preset
    cases same
  rcases ite_eq_some named with auto | named
  · cases exactRequest_eq auto
  rcases ite_eq_some named with firmware | named
  · cases exactRequest_eq firmware
  rcases ite_eq_some named with fanMode | named
  · exact absurd fanMode (map_ne_keyboardSet fun _ => by simp)
  rcases ite_eq_some named with coolboost | named
  · exact absurd coolboost (map_ne_keyboardSet fun _ => by simp)
  rcases ite_eq_some named with profile | named
  · rcases ite_eq_some profile with none | profile
    · cases none
    · exact absurd profile (map_ne_keyboardSet fun _ => by simp)
  rcases ite_eq_some named with power | named
  · exact absurd power powerSourceRequest_ne_keyboardSet
  rcases ite_eq_some named with gpuTemp | named
  · exact absurd gpuTemp (map_ne_keyboardSet fun _ => by simp)
  rcases ite_eq_some named with keyboard | named
  · exact keyboard
  rcases ite_eq_some named with resume | named
  · cases exactRequest_eq resume
  rcases ite_eq_some named with stop | none
  · cases exactRequest_eq stop
  · cases none

/-- A line that sets the brightness asks for one of the accepted percents. -/
theorem commandRequest_keyboardSet_percent
    (asked : commandRequest cmd = some (.keyboardSet percent)) :
    0 ≤ percent ∧ percent ≤ 100 := by
  obtain ⟨action, _, chosen⟩ := Option.bind_eq_some_iff.mp (commandRequest_keyboardSet asked)
  rcases ite_eq_some chosen with set | chosen
  · obtain ⟨value, accepted, same⟩ := Option.map_eq_some_iff.mp set
    cases same
    have member : percent ∈ [(0 : Int), 25, 50, 75, 100] := by
      simpa using (Option.filter_eq_some_iff.mp accepted).2
    simp only [List.mem_cons, List.not_mem_nil, or_false] at member
    omega
  · rcases ite_eq_some chosen with timeout | none
    · exact absurd timeout (map_ne_keyboardSet fun _ => by simp)
    · cases none

end KeyboardSet

end NitroSense
