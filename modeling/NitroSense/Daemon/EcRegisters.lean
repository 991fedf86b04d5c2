import NitroSense.Commands.Grammar
import NitroSense.Daemon.EcAccess
import NitroSense.Daemon.Shutdown

/-!
# The EC is addressed inside its registers

The profile's registers and those of the parsers are bytes.  A fan speed that
is read as a word also addresses the register behind the fan's own, which is
outside the EC when the fan's is the last one.
-/

namespace NitroSense

open Lib EcDevice

/-! ## The replies -/

section Replies

variable {cfg : AnsConfig} {allowed : Int → Prop} {ec : EcDevice}

theorem replyFanModeStatus_accesses (valid : cfg.Valid) (reaches : Reaches cfg allowed) :
    AccessesWithin allowed ec (replyFanModeStatus ec cfg).1 := by
  have read : AccessesWithin allowed ec (readFanMode ec cfg).1 := readFanMode_accesses valid reaches
  unfold replyFanModeStatus
  dsimp only
  split
  · exact read
  · exact read

theorem replyProfileStatus_accesses (valid : cfg.Valid) (reaches : Reaches cfg allowed) :
    AccessesWithin allowed ec (replyProfileStatus ec cfg).1 := by
  have read : AccessesWithin allowed ec (readPlatformProfile ec cfg).1 :=
    readPlatformProfile_accesses valid reaches
  unfold replyProfileStatus
  dsimp only
  split
  · exact read
  · exact read

theorem readGpuEcTemperatureC_accesses (valid : cfg.Valid) (reaches : Reaches cfg allowed) :
    AccessesWithin allowed ec (readGpuEcTemperatureC ec cfg).1 := by
  have optional : ((configFindFan cfg "gpu".toList).map FanConfig.temperatureRegister).getD (-1) = -1 ∨
      allowed (((configFindFan cfg "gpu".toList).map FanConfig.temperatureRegister).getD (-1)) := by
    cases found : configFindFan cfg "gpu".toList with
    | none => exact Or.inl rfl
    | some fan =>
        have configured := valid.fans fan (List.mem_of_find?_eq_some found)
        exact configured.temperatureRegister.imp_right (reaches.byte _)
  unfold readGpuEcTemperatureC
  dsimp only
  generalize ((configFindFan cfg "gpu".toList).map FanConfig.temperatureRegister).getD (-1) = reg at *
  split
  · exact .refl ec
  · rename_i present
    have inside : allowed reg := optional.resolve_left (by omega)
    split
    · exact ecReadByte_accesses inside
    · exact ecReadByte_accesses inside

theorem replyGpuTempStatus_accesses (valid : cfg.Valid) (reaches : Reaches cfg allowed)
    (sensors : Sensors) : AccessesWithin allowed ec (replyGpuTempStatus ec cfg sensors).1 := by
  have read : AccessesWithin allowed ec (readGpuEcTemperatureC ec cfg).1 :=
    readGpuEcTemperatureC_accesses valid reaches
  unfold replyGpuTempStatus
  dsimp only
  split
  · exact read
  · split
    · exact read
    · exact read

theorem replyEcRead_accesses {reg : Int} (inside : allowed reg) :
    AccessesWithin allowed ec (replyEcRead ec reg).1 := by
  unfold replyEcRead
  dsimp only
  split
  · exact ecReadByte_accesses inside
  · exact ecReadByte_accesses inside

/-- A dump reads from its first register to its last. -/
theorem replyEcDump_accesses {start last : Int} (ordered : start ≤ last)
    (inside : ∀ reg, start ≤ reg → reg ≤ last → allowed reg) :
    AccessesWithin allowed ec (replyEcDump ec start last).1 := by
  refine loop_preserves (fun dump : EcDevice × CString => AccessesWithin allowed ec dump.1)
    (.refl ec) ?_
  intro offset dump below before
  exact before.trans (ecReadByte_accesses (inside _ (by omega) (by omega)))

end Replies

/-! ## The writes of the profile -/

section Writes

variable {cfg : AnsConfig} {allowed : Int → Prop} {ec : EcDevice}

theorem applyInitWrites_accesses (valid : cfg.Valid) (reaches : Reaches cfg allowed) :
    AccessesWithin allowed ec (applyInitWrites ec cfg) := by
  rw [applyInitWrites_eq]
  refine ecWriteAll_accesses fun update member => ?_
  obtain ⟨write, configured, rfl⟩ := List.mem_map.mp member
  exact reaches.byte _ (valid.initWrites write configured).1

theorem applyResetWrites_accesses (valid : cfg.Valid) (reaches : Reaches cfg allowed) :
    AccessesWithin allowed ec (applyResetWrites ec cfg) := by
  rw [applyResetWrites_eq]
  refine ecWriteAll_accesses fun update member => ?_
  rcases List.mem_append.mp member with speed | init
  · rw [resetSpeedUpdates_eq valid] at speed
    obtain ⟨fan, configured, rfl⟩ := List.mem_map.mp (List.mem_reverse.mp speed)
    exact reaches.byte _ (valid.fans fan configured).writeRegister
  · obtain ⟨write, configured, rfl⟩ := List.mem_map.mp (List.mem_reverse.mp init)
    exact reaches.byte _ (valid.initWrites write configured).1

end Writes

/-! ## The requests -/

section Requests

variable {cfg : AnsConfig} {allowed : Int → Prop} {daemon : Daemon}

theorem useProfile_accesses (valid : cfg.Valid) (reaches : Reaches cfg allowed) (name : CString) :
    AccessesWithin allowed daemon.ec (useProfile cfg daemon name).1.ec := by
  have profile : AccessesWithin allowed daemon.ec (applyPlatformProfile daemon.ec cfg name).1 :=
    applyPlatformProfile_accesses valid reaches name
  unfold useProfile
  split
  · exact .refl _
  · split
    · exact .refl _
    · dsimp only
      split
      · exact profile
      · exact profile

theorem usePowerSourceProfile_accesses (valid : cfg.Valid) (reaches : Reaches cfg allowed) :
    AccessesWithin allowed daemon.ec (usePowerSourceProfile cfg daemon).1.ec := by
  have profile := @applyPowerSourceProfile_accesses cfg allowed daemon.ec valid reaches
    (readPowerSource daemon.host.powerSupplies)
  unfold usePowerSourceProfile
  dsimp only
  split
  · exact .refl _
  · split
    · exact profile
    · exact profile

theorem setPowerSourceAuto_accesses (valid : cfg.Valid) (reaches : Reaches cfg allowed)
    (enabled : Bool) :
    AccessesWithin allowed daemon.ec (setPowerSourceAuto cfg daemon enabled).1.ec := by
  have write : AccessesWithin allowed daemon.ec (powerSourceAutoWrite cfg daemon enabled).1 := by
    unfold powerSourceAutoWrite
    dsimp only
    split
    · exact applyPowerSourceProfile_accesses valid reaches _
    · exact .refl _
  unfold setPowerSourceAuto
  dsimp only
  split
  · exact write
  · rw [writeControlState_toFanBank]
    exact write

theorem setKeyboardBacklight_accesses (valid : cfg.Valid) (reaches : Reaches cfg allowed)
    (percent : Int) :
    AccessesWithin allowed daemon.ec (setKeyboardBacklight cfg daemon percent).1.ec := by
  have set := @keyboardBacklightSetPercent_accesses cfg allowed daemon.ec valid reaches percent
  unfold setKeyboardBacklight
  dsimp only
  split
  · exact .refl _
  · split
    · exact set
    · exact set

/-- Whatever a client asks for, it addresses the registers of the profile. -/
theorem Request.perform_accesses (valid : cfg.Valid) (reaches : Reaches cfg allowed)
    (request : Request) :
    AccessesWithin allowed daemon.ec (request.perform cfg daemon).1.ec := by
  cases fans : request.isAside with
  | false =>
      have activity : FanActivity cfg (AccessesWithin allowed) (fun _ _ _ _ => True)
          daemon.toFanBank (request.perform cfg daemon).1.toFanBank :=
        perform_activity (fun _ mode => applyFanMode_accesses valid reaches mode)
          (fun _ => applyInitWrites_accesses valid reaches) (fun _ _ _ _ _ => trivial) fans
      exact activity.accesses valid reaches fun _ _ made => made
  | true =>
      cases request with
      | set | preset | auto | firmwareAuto | fanMode | coolboost | resume => cases fans
      | profile name => exact useProfile_accesses valid reaches name
      | powerSourceApply => exact usePowerSourceProfile_accesses valid reaches
      | powerSourceAuto enabled =>
          unfold Request.perform
          dsimp only
          split
          · exact .refl _
          · exact setPowerSourceAuto_accesses valid reaches enabled
      | gpuTemp policy =>
          unfold Request.perform setGpuTempPolicy
          dsimp only
          split
          · exact .refl _
          · exact .refl _
      | keyboardSet percent => exact setKeyboardBacklight_accesses valid reaches percent
      | keyboardTimeout enabled =>
          unfold Request.perform setKeyboardBacklightTimeout
          dsimp only
          split
          · exact .refl _
          · rw [writeControlState_toFanBank]
      | stop => exact .refl _

end Requests

/-! ## The command lines -/

section Lines

variable {cfg : AnsConfig} {allowed : Int → Prop} {daemon : Daemon} {cmd : CString}

theorem handleFanControlCommand_accesses (valid : cfg.Valid) (reaches : Reaches cfg allowed) :
    AccessesWithin allowed daemon.ec (handleFanControlCommand cfg daemon cmd).1.ec := by
  have performed (request : Request) :
      AccessesWithin allowed daemon.ec (request.perform cfg daemon).1.ec :=
    request.perform_accesses valid reaches
  unfold handleFanControlCommand
  dsimp only
  split
  · exact .refl _
  · split
    · unfold handleSetCommand
      split
      · exact .refl _
      · rename_i fan percent parsed
        exact performed (.set fan percent
          ⟨parseSetCommand_fan parsed, parseSetCommand_percent parsed⟩)
    · split
      · unfold handlePresetCommand
        split
        · exact .refl _
        · rename_i name parsed
          exact performed (.preset name (commandParseAction_length parsed))
      · split
        · unfold handleAutoCommand
          split
          · exact performed .auto
          · exact .refl _
        · split
          · unfold handleFirmwareAutoCommand
            split
            · exact performed .firmwareAuto
            · exact .refl _
          · exact .refl _

theorem handleDaemonControlCommand_accesses (valid : cfg.Valid) (reaches : Reaches cfg allowed) :
    AccessesWithin allowed daemon.ec (handleDaemonControlCommand cfg daemon cmd).1.ec := by
  have performed (request : Request) :
      AccessesWithin allowed daemon.ec (request.perform cfg daemon).1.ec :=
    request.perform_accesses valid reaches
  unfold handleDaemonControlCommand
  dsimp only
  split
  · exact .refl _
  · split
    · unfold handleResumeCommand
      split
      · exact performed .resume
      · exact .refl _
    · split
      · unfold handleStopCommand
        split
        · exact performed .stop
        · exact .refl _
      · exact .refl _

theorem handlePowerSourceCommand_accesses (valid : cfg.Valid) (reaches : Reaches cfg allowed) :
    AccessesWithin allowed daemon.ec (handlePowerSourceCommand cfg daemon cmd).1.ec := by
  unfold handlePowerSourceCommand
  split
  · exact .refl _
  · split
    · unfold handlePowerSourceApplyCommand
      split
      · exact .refl _
      · exact usePowerSourceProfile_accesses valid reaches
    · split
      · unfold handlePowerSourceAutoCommand
        split
        · exact .refl _
        · split
          · exact .refl _
          · split
            · exact .refl _
            · exact setPowerSourceAuto_accesses valid reaches _
      · exact .refl _

theorem handleKeyboardBacklightCommand_accesses (valid : cfg.Valid)
    (reaches : Reaches cfg allowed) :
    AccessesWithin allowed daemon.ec (handleKeyboardBacklightCommand cfg daemon cmd).1.ec := by
  unfold handleKeyboardBacklightCommand
  dsimp only
  split
  · exact .refl _
  · split
    · unfold handleKeyboardBacklightSetCommand
      split
      · exact .refl _
      · split
        · exact .refl _
        · exact setKeyboardBacklight_accesses valid reaches _
    · split
      · unfold handleKeyboardBacklightTimeoutCommand
        split
        · exact .refl _
        · split
          · exact .refl _
          · split
            · exact .refl _
            · unfold setKeyboardBacklightTimeout
              dsimp only
              rw [writeControlState_toFanBank]
      · exact .refl _

/-- The registers of `ec-read` and `ec-dump` are bytes. -/
theorem handleEcCommand_accesses (bytes : ∀ reg, configByteValueValid reg → allowed reg) :
    AccessesWithin allowed daemon.ec (handleEcCommand daemon cmd).1.ec := by
  unfold handleEcCommand
  dsimp only
  split
  · exact .refl _
  · split
    · unfold handleEcReadCommand
      split
      · exact .refl _
      · rename_i reg parsed
        obtain ⟨_, _, numeral⟩ := Option.bind_eq_some_iff.mp parsed
        exact replyEcRead_accesses (bytes reg (parseIntRange_bounds numeral))
    · split
      · unfold handleEcDumpCommand
        split
        · exact .refl _
        · rename_i start last parsed
          obtain ⟨_, _, _, _, _, _, _, low, ordered, high, _⟩ := parseEcDumpCommand_iff.mp parsed
          exact replyEcDump_accesses ordered fun reg lower upper =>
            bytes reg ⟨by omega, by omega⟩
      · exact .refl _

/-- A mixed command reports or does what its handler does. -/
theorem handleMixed_accesses {isStatus : CString → Bool}
    {status : AnsConfig → Daemon → EcDevice × CString}
    {handler : AnsConfig → Daemon → CString → Daemon × CString}
    (reports : AccessesWithin allowed daemon.ec (status cfg daemon).1)
    (handles : AccessesWithin allowed daemon.ec (handler cfg daemon cmd).1.ec) (canControl : Bool) :
    AccessesWithin allowed daemon.ec
      (handleMixedRegistryCommand isStatus status handler cfg daemon cmd canControl).1.ec := by
  unfold handleMixedRegistryCommand
  split
  · exact reports
  · unfold ensureControl
    split
    · exact handles
    · exact .refl _

theorem handleReport_accesses {name : CString} {reply : AnsConfig → Daemon → CString}
    (canControl : Bool) :
    AccessesWithin allowed daemon.ec
      (handleReportRegistryCommand name reply cfg daemon cmd canControl).1.ec := by
  unfold handleReportRegistryCommand
  split
  · exact .refl _
  · exact .refl _

theorem handleFanModeCommand_accesses (valid : cfg.Valid) (reaches : Reaches cfg allowed) :
    AccessesWithin allowed daemon.ec (handleFanModeCommand cfg daemon cmd).1.ec := by
  unfold handleFanModeCommand
  split
  · exact .refl _
  · rename_i mode _
    exact Request.perform_accesses valid reaches (.fanMode mode)

theorem handleCoolboostCommand_accesses (valid : cfg.Valid) (reaches : Reaches cfg allowed) :
    AccessesWithin allowed daemon.ec (handleCoolboostCommand cfg daemon cmd).1.ec := by
  unfold handleCoolboostCommand
  split
  · exact .refl _
  · rename_i enabled _
    exact Request.perform_accesses valid reaches (.coolboost enabled)

theorem handleProfileCommand_accesses (valid : cfg.Valid) (reaches : Reaches cfg allowed) :
    AccessesWithin allowed daemon.ec (handleProfileCommand cfg daemon cmd).1.ec := by
  unfold handleProfileCommand
  split
  · exact .refl _
  · exact useProfile_accesses valid reaches _

theorem handleGpuTempCommand_accesses :
    AccessesWithin allowed daemon.ec (handleGpuTempCommand daemon cmd).1.ec := by
  unfold handleGpuTempCommand
  split
  · exact .refl _
  · unfold setGpuTempPolicy
    dsimp only
    split
    · exact .refl _
    · exact .refl _

/-- Every entry of the table addresses the registers of the profile, and bytes. -/
theorem entry_accesses (valid : cfg.Valid) (reaches : Reaches cfg allowed) (canControl : Bool) :
    ∀ entry ∈ daemonCommands,
      AccessesWithin allowed daemon.ec (entry.handler cfg daemon cmd canControl).1.ec := by
  simp only [daemonCommands, List.forall_mem_cons]
  refine ⟨?_, ?_, ?_, ?_, ?_, ?_, ?_, ?_, ?_, ?_, ?_, ?_, ?_, ?_, ?_, ?_, ?_, ?_,
    List.forall_mem_nil _⟩
  · exact handleReport_accesses canControl
  · exact handleReport_accesses canControl
  · exact handleReport_accesses canControl
  · exact handleReport_accesses canControl
  · exact handleMixed_accesses (.refl _) (handleCoolboostCommand_accesses valid reaches) canControl
  · exact handleMixed_accesses (replyFanModeStatus_accesses valid reaches)
      (handleFanModeCommand_accesses valid reaches) canControl
  · exact handleMixed_accesses (replyProfileStatus_accesses valid reaches)
      (handleProfileCommand_accesses valid reaches) canControl
  · exact handleMixed_accesses (readPlatformProfile_accesses valid reaches)
      (handlePowerSourceCommand_accesses valid reaches) canControl
  · exact handleMixed_accesses (replyGpuTempStatus_accesses valid reaches _)
      handleGpuTempCommand_accesses canControl
  · exact handleMixed_accesses (keyboardBacklightReadAny_accesses valid reaches _)
      (handleKeyboardBacklightCommand_accesses valid reaches) canControl
  · exact handleEcCommand_accesses reaches.byte
  · exact handleEcCommand_accesses reaches.byte
  · exact handleFanControlCommand_accesses valid reaches
  · exact handleFanControlCommand_accesses valid reaches
  · exact handleFanControlCommand_accesses valid reaches
  · exact handleFanControlCommand_accesses valid reaches
  · exact handleDaemonControlCommand_accesses valid reaches
  · exact handleDaemonControlCommand_accesses valid reaches

theorem executeCommand_accesses (valid : cfg.Valid) (reaches : Reaches cfg allowed)
    (canControl : Bool) :
    AccessesWithin allowed daemon.ec (executeCommand cfg daemon cmd canControl).1.ec := by
  unfold executeCommand
  split
  · exact .refl _
  · rename_i entry found
    obtain ⟨_, _, known⟩ := Option.bind_eq_some_iff.mp found
    have handled := @entry_accesses cfg allowed daemon cmd valid reaches canControl entry
      (List.mem_of_find?_eq_some known)
    split
    · unfold ensureControl
      split
      · exact handled
      · exact .refl _
    · exact handled

end Lines

/-! ## The runs -/

section Runs

variable {cfg : AnsConfig} {allowed : Int → Prop} {daemon : Daemon}

theorem startDaemon_accesses (valid : cfg.Valid) (reaches : Reaches cfg allowed) (boot : Boot) :
    AccessesWithin allowed boot.ec (startDaemon cfg boot).ec := by
  have booted : AccessesWithin allowed boot.ec (bootedDaemon cfg boot).ec :=
    applyInitWrites_accesses valid reaches
  have activity := @startDaemon_activity cfg (AccessesWithin allowed) (fun _ _ _ _ => True)
    (fun _ mode => applyFanMode_accesses valid reaches mode) boot fun _ _ _ _ _ => trivial
  have started := activity.accesses valid reaches fun _ _ made => made
  exact booted.trans started

theorem tickKeyboard_accesses (valid : cfg.Valid) (reaches : Reaches cfg allowed)
    (activity : Option InputActivity) :
    AccessesWithin allowed daemon.ec (tickKeyboard cfg daemon activity).ec := by
  unfold tickKeyboard
  split
  · exact .refl _
  · exact keyboardBacklightTimeoutTick_accesses valid reaches _ _ _ _

theorem writeRuntimeStatus_accesses (valid : cfg.Valid) (reaches : Reaches cfg allowed) :
    AccessesWithin allowed daemon.ec (writeRuntimeStatus cfg daemon).ec :=
  ((readFanMode_accesses valid reaches).trans (readPlatformProfile_accesses valid reaches)).trans
    (keyboardBacklightReadAny_accesses valid reaches _)

theorem beforeFans_accesses (valid : cfg.Valid) (reaches : Reaches cfg allowed)
    (activity : Option InputActivity) :
    AccessesWithin allowed daemon.ec (daemon.beforeFans cfg activity).ec := by
  have profile : AccessesWithin allowed daemon.ec (maybeApplyPowerSourceProfile cfg daemon).ec := by
    unfold maybeApplyPowerSourceProfile
    dsimp only
    split
    · exact .refl _
    · split
      · exact .refl _
      · split
        · exact .refl _
        · exact applyPowerSourceProfile_accesses valid reaches _
  exact profile.trans (tickKeyboard_accesses valid reaches activity)

/-- Every step addresses the registers of the profile, and bytes. -/
theorem step_accesses (valid : cfg.Valid) (reaches : Reaches cfg allowed) (event : Event) :
    AccessesWithin allowed daemon.ec (daemon.step cfg event).ec := by
  have found : AccessesWithin allowed daemon.ec (daemon.found event).ec :=
    ⟨rfl, ⟨[], rfl, List.forall_mem_nil _⟩, [], rfl, List.forall_mem_nil _⟩
  unfold Daemon.step
  split
  · exact .refl _
  · refine found.trans ?_
    cases event.action with
    | poll activity =>
        have fans : AccessesWithin allowed ((daemon.found event).beforeFans cfg activity).ec
            (((daemon.found event).beforeFans cfg activity).updateFans cfg).ec :=
          updateFanStates_accesses valid reaches _ _ _
        have status : AccessesWithin allowed
            (((daemon.found event).beforeFans cfg activity).updateFans cfg).ec
            ((daemon.found event).act cfg (.poll activity)).ec :=
          writeRuntimeStatus_accesses valid reaches
        exact ((beforeFans_accesses valid reaches activity).trans fans).trans status
    | input activity => exact tickKeyboard_accesses valid reaches (some activity)
    | client line canControl =>
        refine AccessesWithin.trans ?_ (writeRuntimeStatus_accesses valid reaches)
        cases line with
        | none => exact .refl _
        | some cmd => exact executeCommand_accesses valid reaches canControl
    | signal => exact .refl _

/-- So does a daemon that runs. -/
theorem loopedDaemon_accesses (valid : cfg.Valid) (reaches : Reaches cfg allowed) (boot : Boot)
    (events : List Event) : AccessesWithin allowed boot.ec (loopedDaemon cfg boot events).ec := by
  refine run_preserves (fun daemon : Daemon => AccessesWithin allowed boot.ec daemon.ec)
    (startDaemon_accesses valid reaches boot) ?_ events
  intro daemon event before
  exact before.trans (step_accesses valid reaches event)

/-- A whole life of the daemon addresses the registers of the profile, and bytes. -/
theorem shutdownDaemon_accesses (valid : cfg.Valid) (reaches : Reaches cfg allowed) (boot : Boot)
    (events : List Event) :
    AccessesWithin allowed boot.ec (shutdownDaemon cfg (loopedDaemon cfg boot events)).ec :=
  (loopedDaemon_accesses valid reaches boot events).trans (applyResetWrites_accesses valid reaches)

end Runs

/-! ## Exactly the profiles that stay inside -/

/-- Over a whole life of the daemon only byte registers are addressed, and only bytes written. -/
def StaysInEc (cfg : AnsConfig) : Prop :=
  ∀ (boot : Boot) (events : List Event),
    AccessesWithin configByteValueValid boot.ec
      (shutdownDaemon cfg (loopedDaemon cfg boot events)).ec

/-- No fan speed is a word that starts in the last register. -/
def WordsInEc (cfg : AnsConfig) : Prop :=
  cfg.readWords = true → ∀ fan ∈ cfg.fans, fan.readRegister ≠ 255

instance (cfg : AnsConfig) : Decidable (WordsInEc cfg) := inferInstanceAs (Decidable (_ → _))

section LastRegister

variable {cfg : AnsConfig}

theorem WordsInEc.reaches (valid : cfg.Valid) (words : WordsInEc cfg) :
    Reaches cfg configByteValueValid := by
  refine ⟨fun _ byte => byte, fun reads i below => ?_⟩
  obtain ⟨lower, upper⟩ := (valid.fan below).readRegister
  have notLast := words reads _ (cfg.fan_mem below)
  exact ⟨by omega, by omega⟩

theorem applyDefaultPreset_running (daemon : Daemon) :
    (applyDefaultPreset cfg daemon).running = daemon.running := by
  rw [applyDefaultPreset_eq]

/-- A fresh daemon that reads words addresses the second byte of a fan's speed in its first poll. -/
theorem freshPoll_reads (valid : cfg.Valid) (words : cfg.readWords = true) {i : Nat}
    (below : i < cfg.fanLen) :
    (cfg.fan i).readRegister + 1 ∈
      (shutdownDaemon cfg (loopedDaemon cfg freshBoot [.poll freshBoot.host])).ec.reads := by
  have reaches := reaches_all cfg
  have running : (startDaemon cfg freshBoot).running = true :=
    applyDefaultPreset_running (bootedDaemon cfg freshBoot)
  let found := (startDaemon cfg freshBoot).found (.poll freshBoot.host)
  have works : ∀ index, (found.beforeFans cfg none).ec.readFails index = false := by
    have started := (startDaemon_accesses valid reaches freshBoot).readFails
    have before := (@beforeFans_accesses cfg _ found valid reaches none).readFails
    intro index
    rw [before]
    exact congrFun started index
  have read := refreshFanObservations_reads valid works words
    (found.beforeFans cfg none).host.sensors (found.beforeFans cfg none).states below
  have updated : (cfg.fan i).readRegister + 1 ∈
      ((found.beforeFans cfg none).updateFans cfg).ec.reads :=
    (observedFans_accesses valid reaches _ _ _).mem_reads read
  have polled : loopedDaemon cfg freshBoot [.poll freshBoot.host] =
      writeRuntimeStatus cfg ((found.beforeFans cfg none).updateFans cfg) := by
    have step : loopedDaemon cfg freshBoot [.poll freshBoot.host] =
        (startDaemon cfg freshBoot).step cfg (.poll freshBoot.host) := rfl
    rw [step, Daemon.step, if_neg (by rw [running]; decide)]
    rfl
  rw [polled]
  have status := (@writeRuntimeStatus_accesses cfg _ ((found.beforeFans cfg none).updateFans cfg)
    valid reaches).mem_reads updated
  exact (applyResetWrites_accesses valid reaches).mem_reads status

/-- A fan speed that starts in the last register takes the daemon out of the EC. -/
theorem not_staysInEc (valid : cfg.Valid) (words : cfg.readWords = true) {i : Nat}
    (below : i < cfg.fanLen) (last : (cfg.fan i).readRegister = 255) :
    ¬ AccessesWithin configByteValueValid freshBoot.ec
      (shutdownDaemon cfg (loopedDaemon cfg freshBoot [.poll freshBoot.host])).ec := by
  intro within
  obtain ⟨newer, log, inside⟩ := within.reads
  have read := freshPoll_reads valid words below
  rw [log, last] at read
  rcases List.mem_append.mp read with new | old
  · exact absurd (inside _ new) (by unfold configByteValueValid; decide)
  · cases old

/--
The daemon stays inside the EC, however it runs, exactly when no fan speed is a
word that starts in the last register.
-/
theorem staysInEc_iff (valid : cfg.Valid) : StaysInEc cfg ↔ WordsInEc cfg := by
  constructor
  · intro stays words fan configured last
    obtain ⟨i, below, here⟩ := List.mem_iff_getElem.mp configured
    have same : cfg.fan i = fan := (List.getD_eq_getElem _ _ below).trans here
    exact not_staysInEc valid words below (same ▸ last) (stays _ _)
  · intro words boot events
    exact shutdownDaemon_accesses valid (words.reaches valid) boot events

/-- The shipped profile reads its fan speeds at 0x13 and 0x15. -/
theorem staysInEc_shipped : StaysInEc AcerNitroAn517.config :=
  (staysInEc_iff AcerNitroAn517.config_valid).mpr (by decide)

end LastRegister

/-- The shipped profile with the speed of the CPU fan in the last register. -/
def lastRegisterConfig : AnsConfig :=
  { AcerNitroAn517.config with
    fans := [{ AcerNitroAn517.cpuFan with readRegister := 255 }, AcerNitroAn517.gpuFan] }

theorem lastRegisterConfig_valid : lastRegisterConfig.Valid :=
  { AcerNitroAn517.config_valid with
    fans := List.forall_mem_cons.mpr
      ⟨{ AcerNitroAn517.cpuFan_valid with readRegister := by decide },
        List.forall_mem_singleton.mpr AcerNitroAn517.gpuFan_valid⟩
    fanLen := by decide }

/-- The profile is accepted, and its first poll reads register 256. -/
theorem staysInEc_fails :
    ¬ ∀ (cfg : AnsConfig) (boot : Boot) (events : List Event), cfg.Valid →
      AccessesWithin configByteValueValid boot.ec
        (shutdownDaemon cfg (loopedDaemon cfg boot events)).ec := by
  intro claim
  have within := claim lastRegisterConfig freshBoot [.poll freshBoot.host] lastRegisterConfig_valid
  exact not_staysInEc lastRegisterConfig_valid rfl (by decide : 0 < lastRegisterConfig.fanLen) rfl
    within

end NitroSense
