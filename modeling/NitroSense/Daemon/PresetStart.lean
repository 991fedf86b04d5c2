import NitroSense.Commands.Grammar
import NitroSense.Daemon.Shutdown

/-!
# Starting in a preset

Without a saved state the start applies the default preset of the profile.
`preset` and the restored presets switch the fan modes to manual before they
write speeds, and so does the start in auto; this start only writes the speeds.
-/

namespace NitroSense

open Lib EcDevice

/-! ## `set_one` while writes work -/

section SetOne

variable (cfg : AnsConfig) (states : FanStates) (id : CString) (percent : Int)

def setOneDecision (i : Nat) : Int × SafetyReason :=
  fanSafetyAdjustPercent cfg (cfg.fan i) (states i) percent (globalSafetyReason cfg states)

def setOneUpdate (i : Nat) : Int × Int :=
  ((cfg.fan i).writeRegister,
    clampInt (setOneDecision cfg states percent i).1 (cfg.fan i).writeMin (cfg.fan i).writeMax)

/-- The writes of `set_one` after `count` fans. -/
def setOneUpdates (count : Nat) : List (Int × Int) :=
  ((List.range count).filter fun i => SelectsFan cfg id i).map (setOneUpdate cfg states percent)

/-- The states of the fans after `count` rounds of `set_one`. -/
def setOneStates (count : Nat) : FanStates := fun i =>
  if i < count ∧ SelectsFan cfg id i then
    recordFanWrite cfg (states i) percent (setOneDecision cfg states percent i) true
  else states i

end SetOne

section Working

variable {cfg : AnsConfig} {bank : FanBank}

theorem setOneStates_later (cfg : AnsConfig) (states : FanStates) (id : CString) (percent : Int)
    {count i : Nat} (later : count ≤ i) :
    setOneStates cfg states id percent count i = states i :=
  if_neg fun both => absurd both.1 (Nat.not_lt.mpr later)

/-- One more round changes its own fan. -/
theorem setOneStates_succ (cfg : AnsConfig) (states : FanStates) (id : CString) (percent : Int)
    (count : Nat) :
    setOneStates cfg states id percent (count + 1) =
      if SelectsFan cfg id count then
        Function.update (setOneStates cfg states id percent count) count
          (recordFanWrite cfg (states count) percent (setOneDecision cfg states percent count) true)
      else setOneStates cfg states id percent count := by
  funext i
  by_cases here : i = count
  · rw [here, setOneStates]
    by_cases selects : SelectsFan cfg id count
    · rw [if_pos ⟨Nat.lt_succ_self count, selects⟩, if_pos selects, Function.update_self]
    · rw [if_neg fun both => selects both.2, if_neg selects,
        setOneStates_later cfg states id percent (le_refl count)]
  · have same : i < count + 1 ↔ i < count := by omega
    have kept : setOneStates cfg states id percent (count + 1) i =
        setOneStates cfg states id percent count i := by
      simp only [setOneStates, same]
    rw [kept]
    split
    · rw [Function.update_of_ne here]
    · rfl

theorem setOneUpdates_succ (cfg : AnsConfig) (states : FanStates) (id : CString) (percent : Int)
    (count : Nat) :
    setOneUpdates cfg states id percent (count + 1) =
      setOneUpdates cfg states id percent count ++
        if SelectsFan cfg id count then [setOneUpdate cfg states percent count] else [] := by
  rw [setOneUpdates, List.range_succ, List.filter_append, List.map_append]
  by_cases selects : SelectsFan cfg id count
  · have one : [count].filter (fun i => decide (SelectsFan cfg id i)) = [count] := by
      simp [selects]
    rw [one, if_pos selects]
    rfl
  · have none : [count].filter (fun i => decide (SelectsFan cfg id i)) = [] := by simp [selects]
    rw [none, if_neg selects]
    rfl

/-- While writes work, `set_one` is a function of the states that ends in writes of its own. -/
theorem setOne_working (reliable : bank.ec.WritesSucceed) (id : CString) (percent : Int) :
    (setOne cfg bank id percent).1 =
      ⟨ecWriteAll bank.ec (setOneUpdates cfg bank.states id percent cfg.fanLen),
        setOneStates cfg bank.states id percent cfg.fanLen⟩ := by
  rw [setOne_bank]
  refine loop_invariant (fun count (after : FanBank) => after =
    ⟨ecWriteAll bank.ec (setOneUpdates cfg bank.states id percent count),
      setOneStates cfg bank.states id percent count⟩) rfl ?_
  rintro i after below rfl
  rw [setOneStates_succ, setOneUpdates_succ, ecWriteAll_append]
  by_cases selects : SelectsFan cfg id i
  · have works : (ecWriteAll bank.ec (setOneUpdates cfg bank.states id percent i)).nextWriteOk =
        true := by
      rw [(ecWriteAll_makesWrites bank.ec _).nextWriteOk, reliable]
      rfl
    rw [if_pos (decide_eq_true selects), if_pos selects, if_pos selects]
    unfold setFanPercent fanWritePercentRaw
    dsimp only
    rw [setOneStates_later cfg bank.states id percent (le_refl i), ecWriteByte_ok, works]
    rfl
  · rw [if_neg (by simp [selects]), if_neg selects, if_neg selects]
    rfl

theorem setOneUpdates_isSome {states : FanStates} {id : CString} {percent reg : Int} :
    (lastUpdate (setOneUpdates cfg states id percent cfg.fanLen) reg).isSome = true ↔
      ∃ i < cfg.fanLen, SelectsFan cfg id i ∧ (cfg.fan i).writeRegister = reg := by
  rw [lastUpdate_isSome, setOneUpdates]
  simp [setOneUpdate, and_assoc]

theorem setOneUpdates_bytes (valid : cfg.Valid) (states : FanStates) (id : CString)
    (percent : Int) :
    ∀ update ∈ setOneUpdates cfg states id percent cfg.fanLen,
      clampInt update.2 0 255 = update.2 := by
  intro update member
  obtain ⟨i, selected, rfl⟩ := List.mem_map.mp member
  exact writtenSpeed_byte valid (List.mem_range.mp (List.mem_filter.mp selected).1) _

end Working

/-! ## Presets while writes work -/

section Presets

variable {cfg : AnsConfig} {bank : FanBank} {states : FanStates} {preset : PresetConfig} {reg : Int}

/-- The states of the fans after the first half of `apply_preset`. -/
def cpuPresetStates (cfg : AnsConfig) (states : FanStates) (preset : PresetConfig) : FanStates :=
  setOneStates cfg states "cpu".toList preset.cpu cfg.fanLen

def presetUpdates (cfg : AnsConfig) (states : FanStates) (preset : PresetConfig) :
    List (Int × Int) :=
  setOneUpdates cfg states "cpu".toList preset.cpu cfg.fanLen ++
    setOneUpdates cfg (cpuPresetStates cfg states preset) "gpu".toList preset.gpu cfg.fanLen

def PresetRegister (cfg : AnsConfig) (reg : Int) : Prop :=
  ∃ i < cfg.fanLen, (SelectsFan cfg "cpu".toList i ∨ SelectsFan cfg "gpu".toList i) ∧
    (cfg.fan i).writeRegister = reg

instance (cfg : AnsConfig) (reg : Int) : Decidable (PresetRegister cfg reg) :=
  inferInstanceAs (Decidable (∃ i < cfg.fanLen, _))

theorem applyPreset_working (reliable : bank.ec.WritesSucceed) {id : CString}
    (found : configFindPreset cfg id = some preset) :
    (applyPreset cfg bank id).1 =
        ⟨ecWriteAll bank.ec (presetUpdates cfg bank.states preset),
          setOneStates cfg (cpuPresetStates cfg bank.states preset) "gpu".toList preset.gpu
            cfg.fanLen⟩ ∧
      (applyPreset cfg bank id).2 = true := by
  unfold applyPreset
  rw [found]
  refine ⟨?_, rfl⟩
  dsimp only
  have later : (ecWriteAll bank.ec
      (setOneUpdates cfg bank.states "cpu".toList preset.cpu cfg.fanLen)).WritesSucceed :=
    (ecWriteAll_makesWrites bank.ec _).writesSucceed reliable
  rw [setOne_working reliable, presetUpdates, ecWriteAll_append]
  exact setOne_working later _ _

theorem presetUpdates_isSome :
    (lastUpdate (presetUpdates cfg states preset) reg).isSome = true ↔ PresetRegister cfg reg := by
  rw [presetUpdates, lastUpdate_append, Option.isSome_or, Bool.or_eq_true, setOneUpdates_isSome,
    setOneUpdates_isSome]
  constructor
  · rintro (⟨i, below, gpu, at_reg⟩ | ⟨i, below, cpu, at_reg⟩)
    · exact ⟨i, below, Or.inr gpu, at_reg⟩
    · exact ⟨i, below, Or.inl cpu, at_reg⟩
  · rintro ⟨i, below, cpu | gpu, at_reg⟩
    · exact Or.inr ⟨i, below, cpu, at_reg⟩
    · exact Or.inl ⟨i, below, gpu, at_reg⟩

theorem presetUpdates_bytes (valid : cfg.Valid) (states : FanStates) (preset : PresetConfig) :
    ∀ update ∈ presetUpdates cfg states preset, clampInt update.2 0 255 = update.2 := by
  intro update member
  rcases List.mem_append.mp member with cpu | gpu
  · exact setOneUpdates_bytes valid _ _ _ update cpu
  · exact setOneUpdates_bytes valid _ _ _ update gpu

/-- After the same writes two devices agree where something was written or they agreed before. -/
theorem ecWriteAll_agree_iff {first second : EcDevice} {updates : List (Int × Int)}
    (firstReliable : first.WritesSucceed) (secondReliable : second.WritesSucceed)
    (bytes : ∀ update ∈ updates, clampInt update.2 0 255 = update.2) :
    (ecWriteAll first updates).byte reg = (ecWriteAll second updates).byte reg ↔
      (lastUpdate updates reg).isSome = true ∨ first.byte reg = second.byte reg := by
  rw [ecWriteAll_byte (fun _ _ => firstReliable _) bytes,
    ecWriteAll_byte (fun _ _ => secondReliable _) bytes]
  cases lastUpdate updates reg with
  | none => simp
  | some value => simp

theorem modeUpdates_isSome {mode : FanMode} (available : cfg.fanModes.available = true) :
    (lastUpdate (cfg.modeUpdates mode) reg).isSome = true ↔ reg ∈ cfg.modeRegisters := by
  rw [lastUpdate_isSome, AnsConfig.modeRegisters, if_pos available]
  simp [AnsConfig.modeUpdates, eq_comm]

/-- Taking over the fans leaves a register alone that already holds what manual mode writes. -/
theorem applyDaemonControlFanMode_byte_iff {ec : EcDevice} (valid : cfg.Valid)
    (reliable : ec.WritesSucceed) :
    ec.byte reg = (applyDaemonControlFanMode ec cfg).1.byte reg ↔
      (reg ∈ cfg.modeRegisters → lastUpdate (cfg.modeUpdates .manual) reg = some (ec.byte reg)) := by
  cases available : cfg.fanModes.available with
  | false => simp [applyDaemonControlFanMode, AnsConfig.modeRegisters, available]
  | true =>
      rw [applyDaemonControlFanMode_eq available,
        applyFanMode_eq_writeAll available (reliable.worked _),
        ecWriteAll_byte (fun _ _ => reliable _) (modeUpdates_bytes valid .manual),
        ← @modeUpdates_isSome cfg reg .manual available]
      cases lastUpdate (cfg.modeUpdates .manual) reg with
      | none => simp
      | some value => simp [eq_comm]

end Presets

/-! ## The command line -/

def presetLine (name : CString) : CString := "preset ".toList ++ name

section Line

variable {cfg : AnsConfig} {daemon : Daemon} {name : CString}

theorem presetLine_tokens (name : CString) :
    commandTokens (presetLine name) = "preset".toList :: commandTokens name := by
  have first : presetLine name = "preset".toList ++ ' ' :: name := rfl
  have solid : ∀ c ∈ "preset".toList, isBlank c = false := List.all_iff_forall_prop.mp (by decide)
  rw [first, commandTokens, tokens_run (by decide) solid fun c head => ?_]
  · rw [tokens_sep_cons rfl]
    rfl
  · rw [← Option.some.inj head]
    rfl

theorem presetLine_request (name : CString) :
    commandRequest (presetLine name) = presetRequest (presetLine name) := by
  have first : commandFirstToken (presetLine name) 32 = some "preset".toList := by
    unfold commandFirstToken
    rcases commandReadToken_cases (presetLine name) 32 with ⟨none, -⟩ | ⟨token, rest, all, read⟩
    · rw [presetLine_tokens] at none
      cases none
    · rw [presetLine_tokens] at all
      rw [read, ← (List.cons.inj all).1]
      rfl
  rw [commandRequest, first]
  rfl

/-- A preset whose name holds no blank can be asked for. -/
theorem presetLine_fanControl (reliable : daemon.ec.WritesSucceed) (text : RequiredText 32 name)
    (solid : ∀ c ∈ name, isBlank c = false) (known : (configFindPreset cfg name).isSome = true) :
    (executeCommand cfg daemon (presetLine name) true).1.fanControl =
      ⟨(applyPreset cfg (daemon.fanControl.preparedBank cfg) name).1, false, name, false⟩ := by
  obtain ⟨preset, found⟩ := Option.isSome_iff_exists.mp known
  have alone : commandTokens name = [name] := by
    have run := @tokens_run _ isBlank name [] text.2.1 solid fun c head => by cases head
    rw [List.append_nil] at run
    exact run
  have parsed : parsePresetCommand (presetLine name) 32 = some name :=
    commandParseAction_iff.mpr ⟨by rw [presetLine_tokens, alone], by decide, text.2.2⟩
  have asked : commandRequest (presetLine name) = some (.preset name text.2.2) := by
    rw [presetLine_request, presetRequest, Option.pmap_eq_some_iff]
    exact ⟨name, text.2.2, parsed, rfl⟩
  have performs := executeCommand_performs cfg daemon (presetLine name)
  rw [asked] at performs
  have result : executeCommand cfg daemon (presetLine name) true =
      (Request.preset name text.2.2).perform cfg daemon := performs
  rw [result, perform_fanControl reliable rfl]
  unfold FanControl.perform
  dsimp only
  rw [found]
  dsimp only
  rw [(configFindPreset_id found).2, stringCopy_of_lt text.2.2]

/-- A preset with a blank in its name cannot: the line means another preset or nothing. -/
theorem presetLine_blank (reliable : daemon.ec.WritesSucceed) (auto : daemon.autoMode = true)
    (blank : ¬ ∀ c ∈ name, isBlank c = false) :
    (executeCommand cfg daemon (presetLine name) true).1.fanControl.autoMode = true ∨
      (executeCommand cfg daemon (presetLine name) true).1.fanControl.preset ≠ name := by
  have performs := executeCommand_performs cfg daemon (presetLine name)
  rw [presetLine_request, presetRequest] at performs
  cases parsed : parsePresetCommand (presetLine name) 32 with
  | none =>
      simp only [parsed] at performs
      have inspects : OnlyInspected daemon (executeCommand cfg daemon (presetLine name) true).1 :=
        performs
      rw [inspects.rest]
      exact Or.inl auto
  | some other =>
      have short : other.length < 32 := commandParseAction_length parsed
      have differs : other ≠ name := fun same => blank (same ▸ commandParseAction_solid parsed)
      simp only [parsed, Option.pmap_some] at performs
      have result : executeCommand cfg daemon (presetLine name) true =
          (Request.preset other short).perform cfg daemon := performs
      rw [result, perform_fanControl reliable rfl]
      unfold FanControl.perform
      dsimp only
      cases found : configFindPreset cfg other with
      | none => exact Or.inl auto
      | some preset =>
          dsimp only
          rw [(configFindPreset_id found).2, stringCopy_of_lt short]
          exact Or.inr differs

end Line

/-! ## The start beside the command -/

/-- The two agree in their mode, in the states of the fans and in the registers of fan control. -/
structure SameFanControl (cfg : AnsConfig) (first second : FanControl) : Prop where
  autoMode : first.autoMode = second.autoMode
  preset : first.preset = second.preset
  states : ∀ i < cfg.fanLen, first.states i = second.states i
  registers : ∀ reg ∈ cfg.modeRegisters ++ cfg.fans.map FanConfig.writeRegister,
    first.ec.byte reg = second.ec.byte reg

/-- Starting in the default preset leaves what asking the booted daemon for it leaves. -/
def StartsLikePreset (cfg : AnsConfig) (boot : Boot) : Prop :=
  SameFanControl cfg (startDaemon cfg boot).fanControl
    (executeCommand cfg (bootedDaemon cfg boot) (presetLine cfg.defaultPreset) true).1.fanControl

/--
The name of the default preset holds no blank.  After the initial writes each
fan-mode register holds what a switch to manual leaves there, unless the speeds
of a preset overwrite it.
-/
structure PresetStartFits (cfg : AnsConfig) (boot : Boot) : Prop where
  solid : ∀ c ∈ cfg.defaultPreset, isBlank c = false
  modes : ∀ reg ∈ cfg.modeRegisters, PresetRegister cfg reg ∨
    lastUpdate (cfg.modeUpdates .manual) reg = some ((bootedDaemon cfg boot).ec.byte reg)

/-- The start has no saved state and a default preset of the profile other than the built-in ones. -/
structure NamedPresetStart (cfg : AnsConfig) (boot : Boot) : Prop where
  unsaved : boot.savedState = none
  known : (configFindPreset cfg cfg.defaultPreset).isSome = true
  notAuto : cfg.defaultPreset ≠ "auto".toList
  notFirmware : cfg.defaultPreset ≠ firmwareAutoPreset

section Start

variable {cfg : AnsConfig} {boot : Boot}

/-- The start applies the preset to the booted daemon as it is. -/
theorem NamedPresetStart.fanControl (valid : cfg.Valid) (named : NamedPresetStart cfg boot)
    (reliable : (bootedDaemon cfg boot).ec.WritesSucceed) :
    (startDaemon cfg boot).fanControl =
      ⟨(applyPreset cfg (bootedDaemon cfg boot).toFanBank cfg.defaultPreset).1, false,
        cfg.defaultPreset, cfg.coolboostDefaultEnabled⟩ := by
  obtain ⟨preset, found⟩ := Option.isSome_iff_exists.mp named.known
  have unsaved : restoreControlState cfg (bootedDaemon cfg boot) = none := by
    rw [restoreControlState]
    exact congrArg (Option.map _) named.unsaved
  have applied := (@applyPreset_working cfg (bootedDaemon cfg boot).toFanBank preset reliable _
    found).2
  unfold startDaemon
  dsimp only
  rw [unsaved, Option.getD_none, applyDefaultPreset]
  dsimp only
  rw [if_neg named.notAuto, if_neg fun firmware => named.notFirmware firmware.1,
    if_neg named.notFirmware, if_pos ⟨valid.defaultPreset.2.1, applied⟩,
    writeControlState_fanControl, stringCopy_of_lt valid.defaultPreset.2.2]
  rfl

/-- Without CoolBoost a fan command takes over the fans and does nothing else before. -/
theorem preparedBank_calm {control : FanControl} (calm : control.coolboostEnabled = false) :
    control.preparedBank cfg =
      { control.toFanBank with ec := (applyDaemonControlFanMode control.ec cfg).1 } := by
  rw [FanControl.preparedBank, FanControl.calmedBank, if_pos calm]

/--
While EC writes work, starting in a default preset equals asking for it exactly
when the name can be typed and the initial writes have taken over the fans.
-/
theorem startsLikePreset_iff (valid : cfg.Valid) (reliable : boot.ec.WritesSucceed)
    (named : NamedPresetStart cfg boot) :
    StartsLikePreset cfg boot ↔ PresetStartFits cfg boot := by
  have booted : (bootedDaemon cfg boot).ec.WritesSucceed := bootedDaemon_reliable reliable
  have started := named.fanControl valid booted
  obtain ⟨preset, found⟩ := Option.isSome_iff_exists.mp named.known
  by_cases solid : ∀ c ∈ cfg.defaultPreset, isBlank c = false
  · have asked := presetLine_fanControl booted valid.defaultPreset solid named.known
    rw [preparedBank_calm valid.coolboostDefaultEnabled] at asked
    have taken : (applyDaemonControlFanMode (bootedDaemon cfg boot).ec cfg).1.WritesSucceed :=
      (applyDaemonControlFanMode_changes cfg (bootedDaemon cfg boot).toFanBank).writesSucceed booted
    rw [(applyPreset_working booted found).1] at started
    rw [(applyPreset_working taken found).1] at asked
    have bytes := presetUpdates_bytes valid (bootedDaemon cfg boot).states preset
    have agree (reg : Int) := @ecWriteAll_agree_iff reg _ _ _ booted taken bytes
    have kept (reg : Int) := @applyDaemonControlFanMode_byte_iff cfg reg _ valid booted
    rw [StartsLikePreset, started, asked]
    constructor
    · intro same
      refine ⟨solid, fun reg isMode => ?_⟩
      have both := (agree reg).mp (same.registers reg (List.mem_append_left _ isMode))
      rw [presetUpdates_isSome, kept] at both
      exact both.imp_right fun holds => holds isMode
    · intro fits
      refine ⟨rfl, rfl, fun _ _ => rfl, fun reg _ => (agree reg).mpr ?_⟩
      rw [presetUpdates_isSome, kept]
      by_cases isMode : reg ∈ cfg.modeRegisters
      · exact (fits.modes reg isMode).imp_right fun holds _ => holds
      · exact Or.inr fun mode => absurd mode isMode
  · refine ⟨fun same => ?_, fun fits => absurd fits.solid solid⟩
    rw [StartsLikePreset, started] at same
    rcases presetLine_blank booted rfl solid with auto | other
    · rw [← same.autoMode] at auto
      cases auto
    · exact absurd same.preset.symm other

end Start

def quietConfig : AnsConfig := { AcerNitroAn517.config with defaultPreset := "quiet".toList }

theorem quietConfig_valid : quietConfig.Valid :=
  { AcerNitroAn517.config_valid with defaultPreset := by decide }

/-- Without initial writes the start leaves the fans with the firmware. -/
theorem startsLikePreset_fails :
    ¬ ∀ (cfg : AnsConfig) (boot : Boot), cfg.Valid → boot.ec.WritesSucceed →
      NamedPresetStart cfg boot → StartsLikePreset cfg boot := by
  intro claim
  have valid : AnsConfig.Valid { quietConfig with initWrites := [] } :=
    { quietConfig_valid with
      initWrites := List.forall_mem_nil _
      initWriteLen := by decide }
  have same := claim _ freshBoot valid (fun _ => rfl) ⟨rfl, by decide, by decide, by decide⟩
  exact absurd (same.registers 34 (by decide)) (by decide +kernel)

/-- With them the shipped profile starts in a preset as the command would. -/
theorem startsLikePreset_shipped : StartsLikePreset quietConfig freshBoot :=
  (startsLikePreset_iff quietConfig_valid (fun _ => rfl)
    ⟨rfl, by decide, by decide, by decide⟩).mpr
      ⟨List.all_iff_forall_prop.mp (by decide), by decide⟩

end NitroSense
