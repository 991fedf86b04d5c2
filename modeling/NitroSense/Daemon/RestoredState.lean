import NitroSense.Daemon.FanInvariant

/-!
# What any saved state restores

The state file may hold any text, and the EC may fail at any write.  Each key
falls back on its own, so the branch that restores the fans is chosen by what
can be read of the mode; the preset that is reported comes from that branch.
-/

namespace NitroSense

open EcDevice

/-- A percent after the restore: one that can be asked for, the reset speed, or the one before. -/
def RestoredPercent (fan : FanConfig) (before after : Int) : Prop :=
  configPercentValueValid after ∨ after = fan.resetSpeed ∨ after = before

def TargetsRestored (cfg : AnsConfig) (before after : FanStates) : Prop :=
  ∀ i < cfg.fanLen,
    RestoredPercent (cfg.fan i) (before i).percent (after i).percent ∧
      RestoredPercent (cfg.fan i) (before i).requestedPercent (after i).requestedPercent

/-- Firmware-auto is reported after a switch that wrote both registers, and nothing later. -/
def FirmwareAutoWritten (cfg : AnsConfig) (before after : EcDevice) : Prop :=
  writesSince before after =
    [⟨cfg.fanModes.gpuReg, cfg.fanModes.gpuAutoValue, true⟩,
      ⟨cfg.fanModes.cpuReg, cfg.fanModes.cpuAutoValue, true⟩]

/-- A well-formed control state after a restore from `before`. -/
structure RestoredState (cfg : AnsConfig) (before after : Daemon) : Prop where
  auto : after.autoMode = true → after.preset = "auto".toList
  named : after.preset = "auto".toList →
    after.autoMode = true ∨ (configFindPreset cfg "auto".toList).isSome = true
  preset : after.autoMode = false →
    after.preset = firmwareAutoPreset ∨ after.preset = "manual".toList ∨
      (configFindPreset cfg after.preset).isSome = true
  coolboost : after.coolboostEnabled = false
  timeout : after.runtime.keyboardBacklightTimeoutEnabled = true →
    cfg.keyboardBacklight.timeoutSupported = true
  targets : TargetsRestored cfg before.states after.states
  firmwareAuto : after.preset = firmwareAutoPreset → FirmwareAutoWritten cfg before.ec after.ec

/-! ## The percents -/

section Targets

variable {cfg : AnsConfig} {before states : FanStates}

theorem TargetsRestored.refl (cfg : AnsConfig) (states : FanStates) :
    TargetsRestored cfg states states := fun _ _ => ⟨Or.inr (Or.inr rfl), Or.inr (Or.inr rfl)⟩

/-- A fan whose percents stay or become percents that can be asked for keeps its targets restored. -/
theorem TargetsRestored.update (restored : TargetsRestored cfg before states) (i : Nat)
    {state : FanState}
    (percent : configPercentValueValid state.percent ∨ state.percent = (states i).percent)
    (requested : configPercentValueValid state.requestedPercent ∨
      state.requestedPercent = (states i).requestedPercent) :
    TargetsRestored cfg before (Function.update states i state) := by
  intro j below
  by_cases here : j = i
  · obtain ⟨oldPercent, oldRequested⟩ := restored j below
    rw [here, Function.update_self]
    rw [here] at oldPercent oldRequested
    constructor
    · rcases percent with valid | same
      · exact Or.inl valid
      · rw [same]
        exact oldPercent
    · rcases requested with valid | same
      · exact Or.inl valid
      · rw [same]
        exact oldRequested
  · rw [Function.update_of_ne here]
    exact restored j below

theorem recordFanWrite_percents (cfg : AnsConfig) (state : FanState) (requestedPercent : Int)
    {adjusted : Int × SafetyReason} (percent : configPercentValueValid adjusted.1) (ok : Bool) :
    (configPercentValueValid
        (recordFanWrite cfg state requestedPercent adjusted ok).percent ∨
      (recordFanWrite cfg state requestedPercent adjusted ok).percent = state.percent) ∧
    (configPercentValueValid
        (recordFanWrite cfg state requestedPercent adjusted ok).requestedPercent ∨
      (recordFanWrite cfg state requestedPercent adjusted ok).requestedPercent =
        state.requestedPercent) := by
  cases ok with
  | true => exact ⟨Or.inl percent, Or.inl (clampInt_percent_bounds requestedPercent)⟩
  | false => exact ⟨Or.inr rfl, Or.inr rfl⟩

/-- Fan control only sets percents that can be asked for. -/
theorem FanActivity.targetsRestored {access : EcDevice → EcDevice → Prop}
    {sets : FanBank → Nat → Int → SafetyReason → Prop} {first second : FanBank}
    (valid : cfg.Valid) (activity : FanActivity cfg access sets first second)
    (restored : TargetsRestored cfg before first.states) :
    TargetsRestored cfg before second.states := by
  refine activity.preserves (fun bank => TargetsRestored cfg before bank.states) restored
    ?_ ?_ ?_ ?_
  · intro bank ec kept _
    exact kept
  · intro bank i requestedPercent forcedReason kept below _
    have decided := fanSafetyAdjustPercent_percent valid.safety (valid.fan below)
      (bank.states i) requestedPercent forcedReason
    obtain ⟨percent, requested⟩ :=
      recordFanWrite_percents cfg (bank.states i) requestedPercent decided bank.ec.nextWriteOk
    exact kept.update i percent requested
  · intro bank i reason kept
    exact kept.update i (Or.inr rfl) (Or.inr rfl)
  · intro bank i percent kept
    have bounds := clampInt_percent_bounds percent
    exact kept.update i (Or.inl bounds) (Or.inl bounds)

/-- A saved percent is one that can be asked for, or the reset speed. -/
theorem savedPercent_restored (cfg : AnsConfig) (json : CString) (i : Nat) (before : Int) :
    RestoredPercent (cfg.fan i) before (savedPercent cfg json i) := by
  unfold savedPercent jsonSavedPercentForFan
  split
  · exact Or.inr (Or.inl rfl)
  · dsimp only
    split
    · exact Or.inr (Or.inl rfl)
    · rename_i accepted
      exact Or.inl ⟨by omega, by omega⟩

theorem restoredTargets_restored (cfg : AnsConfig) (states : FanStates) (autoMode : Bool)
    (preset json : CString) :
    TargetsRestored cfg states (restoredTargets cfg states autoMode preset json) := by
  unfold restoredTargets
  split
  · intro i below
    rw [restoreSavedFanTargets, if_pos below]
    exact ⟨savedPercent_restored cfg json i _, savedPercent_restored cfg json i _⟩
  · exact TargetsRestored.refl cfg states

theorem restoreControlState_targets (valid : cfg.Valid) (daemon : Daemon) (json : CString) :
    TargetsRestored cfg daemon.states (restoreControlStateFromJson cfg daemon json).states := by
  have activity := @restoreControlState_activity cfg (ModeAccess cfg) (fun _ _ _ _ => True) daemon
    json ModeAccess.switches (fun _ _ _ _ _ => trivial)
  exact activity.targetsRestored valid (restoredTargets_restored cfg _ _ _ _)

end Targets

/-! ## The mode -/

section Mode

variable {cfg : AnsConfig} {bank : FanBank} {preset json : CString}

/-- In auto mode the branch reports auto. -/
theorem restoreFans_auto : (restoreFans cfg bank true preset json).2 = "auto".toList := rfl

/-- Outside auto mode it reports firmware-auto, manual or the configured preset it applied. -/
theorem restoreFans_preset :
    (restoreFans cfg bank false preset json).2 = firmwareAutoPreset ∨
      (restoreFans cfg bank false preset json).2 = "manual".toList ∨
      (configFindPreset cfg (restoreFans cfg bank false preset json).2).isSome = true := by
  unfold restoreFans
  rw [if_neg Bool.false_ne_true]
  split
  · unfold restoreFirmwareAutoControlState
    dsimp only
    split
    · exact Or.inl rfl
    · exact Or.inr (Or.inl rfl)
  · split
    · rename_i restored applied
      unfold restoreNamedPresetControlState at applied
      split at applied
      · cases applied
      · rename_i known
        exact Or.inr (Or.inr (Option.isSome_iff_ne_none.mpr (not_or.mp known).2))
    · exact Or.inr (Or.inl rfl)

/-- Firmware-auto is reported by its own branch, after a successful switch. -/
theorem restoreFans_firmwareAuto {autoMode : Bool}
    (firmware : (restoreFans cfg bank autoMode preset json).2 = firmwareAutoPreset) :
    autoMode = false ∧ (applyFirmwareAutoFanMode bank.ec cfg).2 = true ∧
      (restoreFans cfg bank autoMode preset json).1.ec = (applyFirmwareAutoFanMode bank.ec cfg).1 := by
  cases autoMode with
  | true =>
      rw [restoreFans_auto] at firmware
      exact absurd firmware (by decide)
  | false =>
      unfold restoreFans at firmware ⊢
      rw [if_neg Bool.false_ne_true] at firmware ⊢
      by_cases saved : preset = firmwareAutoPreset
      · rw [if_pos saved] at firmware ⊢
        cases applied : (applyFirmwareAutoFanMode bank.ec cfg).2 with
        | true => exact ⟨rfl, rfl, rfl⟩
        | false =>
            simp only [restoreFirmwareAutoControlState, applied] at firmware
            exact absurd firmware (by decide)
      · rw [if_neg saved] at firmware
        split at firmware
        · exact absurd firmware saved
        · have manual : "manual".toList = firmwareAutoPreset := firmware
          exact absurd manual (by decide)

/-- The branch of firmware-auto is not followed by the reset of CoolBoost. -/
theorem restoreControlState_firmwareAuto (valid : cfg.Valid) (daemon : Daemon) (json : CString)
    (firmware : (restoreControlStateFromJson cfg daemon json).preset = firmwareAutoPreset) :
    FirmwareAutoWritten cfg daemon.ec (restoreControlStateFromJson cfg daemon json).ec := by
  obtain ⟨manual, applied, device⟩ := restoreFans_firmwareAuto firmware
  generalize fans : restoreFans cfg daemon.toFanBank (jsonBoolKey json "auto".toList true)
    (jsonStringKey json "preset".toList "auto".toList 32) json = restored at device
  have reported : restored.2 = firmwareAutoPreset := by
    rw [← fans]
    exact firmware
  have mode : firmwareAutoMode false restored.2 = true := firmwareAutoMode_iff.mpr ⟨rfl, reported⟩
  rw [manual] at fans
  rw [FirmwareAutoWritten, restoreControlState_of_restoreFans manual fans]
  dsimp only
  rw [mode, Bool.not_true, Bool.and_false, if_neg Bool.false_ne_true, device]
  rw [applyFirmwareAutoFanMode_eq] at applied ⊢
  exact applyFanMode_log valid.fanModes applied

end Mode

/-- Whatever the state file holds and the EC answers, the control state is well-formed. -/
theorem restoredState {cfg : AnsConfig} (valid : cfg.Valid) (daemon : Daemon) (json : CString) :
    RestoredState cfg daemon (restoreControlStateFromJson cfg daemon json) := by
  have targets := restoreControlState_targets valid daemon json
  have firmware := restoreControlState_firmwareAuto valid daemon json
  generalize auto : jsonBoolKey json "auto".toList true = autoMode
  generalize fans : restoreFans cfg daemon.toFanBank autoMode
    (jsonStringKey json "preset".toList "auto".toList 32) json = restored
  have after := restoreControlState_of_restoreFans auto fans
  have reported : (restoreControlStateFromJson cfg daemon json).autoMode = autoMode ∧
      (restoreControlStateFromJson cfg daemon json).preset = restored.2 := by
    rw [after]
    exact ⟨rfl, rfl⟩
  have coolboost : (restoreControlStateFromJson cfg daemon json).coolboostEnabled = false := rfl
  have timeout : (restoreControlStateFromJson cfg daemon json).runtime =
      restoreRuntimeStateFromJson cfg daemon.runtime json := rfl
  refine ⟨?_, ?_, ?_, coolboost, fun enabled => ?_, targets, firmware⟩
  · rw [reported.1, reported.2, ← fans]
    rintro rfl
    exact restoreFans_auto
  · rw [reported.1, reported.2, ← fans]
    cases autoMode with
    | true => exact fun _ => Or.inl rfl
    | false =>
        intro named
        have known := @restoreFans_preset cfg daemon.toFanBank
          (jsonStringKey json "preset".toList "auto".toList 32) json
        rw [named] at known
        exact Or.inr ((known.resolve_left (by decide)).resolve_left (by decide))
  · rw [reported.1, reported.2, ← fans]
    rintro rfl
    exact restoreFans_preset
  · rw [timeout, restoreRuntimeStateFromJson, Bool.and_eq_true] at enabled
    exact enabled.1

/-- A truncated state file: auto mode is off, the preset is cut and the EC fails throughout. -/
theorem restoredState_truncated :
    RestoredState AcerNitroAn517.config
      { heldDaemon true "auto".toList with
        ec := { regs := fun _ => 0, writeFails := fun _ => true } }
      (restoreControlStateFromJson AcerNitroAn517.config
        { heldDaemon true "auto".toList with
          ec := { regs := fun _ => 0, writeFails := fun _ => true } }
        "\x7b\"auto\":false,\"preset\":\"firmware-au".toList) :=
  restoredState AcerNitroAn517.config_valid _ _

end NitroSense
