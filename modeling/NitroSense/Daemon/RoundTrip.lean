import NitroSense.Daemon.SavedState
import NitroSense.Models

/-!
# Saving and restoring

Restoring a saved control state gives it back, except that the name of the
mode `preset` hides the preset itself from the reader.
-/

namespace NitroSense

open Lib EcDevice

/-! ## Requested percents survive -/

section Requested

variable {cfg : AnsConfig}

theorem recordFanWrite_requested (cfg : AnsConfig) (state : FanState) (requestedPercent : Int)
    (adjusted : Int × SafetyReason) :
    (recordFanWrite cfg state requestedPercent adjusted true).requestedPercent =
      clampInt requestedPercent 1 100 := rfl

/-- A successful fan write records the request. -/
theorem setFanPercent_requested {bank : FanBank} (reliable : bank.ec.WritesSucceed) (i : Nat)
    (percent : Int) (forced : SafetyReason) :
    ((setFanPercent cfg bank i percent forced).1.states i).requestedPercent =
      clampInt percent 1 100 := by
  rw [setFanPercent_state_self, reliable.nextWriteOk, recordFanWrite_requested]

theorem setFanPercent_writesSucceed {bank : FanBank} (reliable : bank.ec.WritesSucceed) (i : Nat)
    (percent : Int) (forced : SafetyReason) :
    (setFanPercent cfg bank i percent forced).1.ec.WritesSucceed := reliable

/-- Setting every fan records every request. -/
theorem setFans_requested {bank : FanBank} (reliable : bank.ec.WritesSucceed)
    (percent : Nat → Int) (forced : FanBank → SafetyReason) :
    (setFans cfg (fun _ => true) (fun _ i => percent i) forced bank).ec.WritesSucceed ∧
      ∀ i < cfg.fanLen,
        ((setFans cfg (fun _ => true) (fun _ i => percent i) forced bank).states i).requestedPercent =
          clampInt (percent i) 1 100 := by
  refine loop_invariant
    (fun count (bank : FanBank) => bank.ec.WritesSucceed ∧
      ∀ i < count, (bank.states i).requestedPercent = clampInt (percent i) 1 100)
    ⟨reliable, fun i below => absurd below (Nat.not_lt_zero i)⟩ ?_
  rintro i bank below ⟨working, before⟩
  refine ⟨setFanPercent_writesSucceed working i _ _, fun j upTo => ?_⟩
  by_cases here : j = i
  · rw [here]
    exact setFanPercent_requested working i _ _
  · change ((setFanPercent cfg bank i (percent i) (forced bank)).1.states j).requestedPercent = _
    rw [setFanPercent_state_ne cfg bank i _ _ here]
    exact before j (by omega)

/-- Writing every fan's own request again keeps the requests. -/
theorem applyCurrentControlState_requested {bank : FanBank} (reliable : bank.ec.WritesSucceed)
    {requested : Nat → Int} (range : ∀ i < cfg.fanLen, 1 ≤ requested i ∧ requested i ≤ 100)
    (same : ∀ i < cfg.fanLen, (bank.states i).requestedPercent = requested i) :
    ∀ i < cfg.fanLen,
      ((applyCurrentControlState cfg bank).states i).requestedPercent = requested i := by
  suffices both : (applyCurrentControlState cfg bank).ec.WritesSucceed ∧ ∀ i < cfg.fanLen,
      ((applyCurrentControlState cfg bank).states i).requestedPercent = requested i from both.2
  refine setFans_rel (fun bank => bank.ec.WritesSucceed ∧
    ∀ i < cfg.fanLen, (bank.states i).requestedPercent = requested i) ⟨reliable, same⟩ ?_
  rintro i bank below _ ⟨working, before⟩
  refine ⟨setFanPercent_writesSucceed working i _ _, fun j inside => ?_⟩
  by_cases here : j = i
  · obtain ⟨lower, upper⟩ := range i below
    have request : (bank.states i).statusRequestedPercent = requested i := by
      rw [FanState.statusRequestedPercent, before i below, if_pos (by omega)]
    rw [here, setFanPercent_requested working, request]
    exact clamp_of_mem lower upper
  · rw [setFanPercent_state_ne cfg bank i _ _ here]
    exact before j inside

end Requested

/-! ## Saved states -/

/-- A state the daemon saves: a mode it can be in, and a request for every fan. -/
structure ControlState (cfg : AnsConfig) (daemon : Daemon) : Prop where
  mode : (daemon.autoMode = true ∧ daemon.preset = "auto".toList) ∨
    (daemon.autoMode = false ∧ (daemon.preset = "manual".toList ∨
      (daemon.preset = firmwareAutoPreset ∧ cfg.fanModes.available = true) ∨
      (configFindPreset cfg daemon.preset).isSome))
  requested : ∀ i < cfg.fanLen,
    1 ≤ (daemon.states i).requestedPercent ∧ (daemon.states i).requestedPercent ≤ 100

/-- What a restored state keeps of the saved one; a preset brings its own percents. -/
structure Restored (cfg : AnsConfig) (saved restored : Daemon) : Prop where
  autoMode : restored.autoMode = saved.autoMode
  preset : restored.preset = saved.preset
  powerSourceAutoApply :
    restored.runtime.powerSourceAutoApply = saved.runtime.powerSourceAutoApply
  keyboardBacklightTimeout : cfg.keyboardBacklight.timeoutSupported = true →
    restored.runtime.keyboardBacklightTimeoutEnabled =
      saved.runtime.keyboardBacklightTimeoutEnabled
  requested : controlMode saved.autoMode saved.preset ≠ "preset".toList →
    ∀ i < cfg.fanLen, (restored.states i).requestedPercent = (saved.states i).requestedPercent

/-- The modes whose name in the text is not `preset`, or which restoring ends in anyway. -/
def PresetKept (cfg : AnsConfig) (daemon : Daemon) : Prop :=
  daemon.autoMode = true ∨ daemon.preset = "manual".toList ∨ daemon.preset = "auto".toList ∨
    (daemon.preset = firmwareAutoPreset ∧ cfg.fanModes.available = true)

section RoundTrip

variable {cfg : AnsConfig} {saved fresh : Daemon}

/-- The preset of a saved state is one of the mode names or the id of a preset. -/
theorem ControlState.preset_text (valid : cfg.Valid) (state : ControlState cfg saved) :
    PlainText saved.preset ∧ saved.preset.length < 32 := by
  rcases state.mode with ⟨_, name⟩ | ⟨_, name | ⟨name, _⟩ | known⟩
  · rw [name]
    decide
  · rw [name]
    decide
  · rw [name]
    decide
  · obtain ⟨preset, found⟩ := Option.isSome_iff_exists.mp known
    obtain ⟨plain, _, short⟩ := (valid.preset found).1
    rw [(configFindPreset_id found).2] at plain short
    exact ⟨plain, short⟩

theorem ControlState.statusRequested (state : ControlState cfg saved) {i : Nat}
    (below : i < cfg.fanLen) :
    (saved.states i).statusRequestedPercent = (saved.states i).requestedPercent := by
  have positive := (state.requested i below).1
  rw [FanState.statusRequestedPercent, if_pos (by omega)]

theorem savedFans_mem {cfg : AnsConfig} {states : FanStates} {i : Nat} (below : i < cfg.fanLen) :
    ((cfg.fan i).id, (states i).statusRequestedPercent) ∈ savedFans cfg states :=
  List.mem_map_of_mem (List.mem_range.mpr below)

theorem savedFans_ids (cfg : AnsConfig) (states : FanStates) :
    (savedFans cfg states).map Prod.fst = cfg.fans.map FanConfig.id := by
  refine List.ext_getElem (by simp [savedFans]) fun i below other => ?_
  have inside : i < cfg.fans.length := by simpa using other
  have same : cfg.fan i = cfg.fans[i] := List.getD_eq_getElem _ _ inside
  simp only [savedFans, List.getElem_map, List.getElem_range, same]

/-- Everything an accepted profile saves can be saved. -/
theorem ControlState.savable (valid : cfg.Valid) (state : ControlState cfg saved) :
    Savable saved (savedFans cfg saved.states) := by
  obtain ⟨plain, short⟩ := state.preset_text valid
  refine ⟨plain, short, fun fan member => ?_, ?_⟩
  · obtain ⟨i, inside, rfl⟩ := List.mem_map.mp member
    have below := List.mem_range.mp inside
    obtain ⟨idPlain, _, idShort⟩ := (valid.fan below).id
    refine ⟨idPlain, idShort, ?_⟩
    rw [state.statusRequested below]
    exact state.requested i below
  · have count : (savedFans cfg saved.states).length = cfg.fanLen := by simp [savedFans]
    rw [count]
    exact valid.fanLen

/-- The percent restored for a fan is the one it was saved with. -/
theorem savedPercent_savedJson (valid : cfg.Valid) (distinct : (cfg.fans.map FanConfig.id).Nodup)
    (state : ControlState cfg saved) (other : saved.preset ≠ "id".toList) {i : Nat}
    (below : i < cfg.fanLen) :
    savedPercent cfg (savedJson saved (savedFans cfg saved.states)) i =
      (saved.states i).requestedPercent := by
  rw [← state.statusRequested below]
  exact saved_percent (state.savable valid) (by rw [savedFans_ids]; exact distinct) other
    (savedFans_mem below)

/-- A mode that writes its percents restores every request, through disabling CoolBoost too. -/
theorem restoreSavedMode_requested (reliable : fresh.ec.WritesSucceed) {json preset : CString}
    {requested : Nat → Int} (range : ∀ i < cfg.fanLen, 1 ≤ requested i ∧ requested i ≤ 100)
    (percents : ∀ i < cfg.fanLen, savedPercent cfg json i = requested i) :
    (restoreSavedMode cfg fresh.toFanBank json preset).1.ec.WritesSucceed ∧
      ∀ i < cfg.fanLen,
        ((restoreSavedMode cfg fresh.toFanBank json preset).1.states i).requestedPercent =
          requested i := by
  have within : WritesWithin (FanModeRegister cfg) fresh.ec
      (applyDaemonControlFanMode fresh.ec cfg).1 :=
    applyDaemonControlFanMode_writesWithin fun _ _ mode => mode
  obtain ⟨working, written⟩ := @setFans_requested cfg
    { fresh.toFanBank with ec := (applyDaemonControlFanMode fresh.ec cfg).1 }
    (within.writesSucceed reliable) (savedPercent cfg json)
    (fun bank => globalSafetyReason cfg bank.states)
  refine ⟨working, fun i below => ?_⟩
  obtain ⟨lower, upper⟩ := range i below
  refine (written i below).trans ?_
  rw [percents i below]
  exact clamp_of_mem lower upper

/-- Disabling CoolBoost keeps the requests. -/
theorem disableCoolboost_requested {bank : FanBank} (reliable : bank.ec.WritesSucceed)
    {requested : Nat → Int} (range : ∀ i < cfg.fanLen, 1 ≤ requested i ∧ requested i ≤ 100)
    (same : ∀ i < cfg.fanLen, (bank.states i).requestedPercent = requested i) :
    ∀ i < cfg.fanLen,
      ((applyCoolboost cfg bank false).1.states i).requestedPercent = requested i := by
  have within : WritesWithin (FanModeRegister cfg) bank.ec (applyFanMode bank.ec cfg .manual).1 :=
    applyFanMode_writesWithin fun _ _ mode => mode
  unfold applyCoolboost
  split
  · exact same
  · split
    · rename_i enabled
      cases enabled
    · dsimp only
      split
      · exact same
      · exact applyCurrentControlState_requested (within.writesSucceed reliable) range same

def savedText (cfg : AnsConfig) (saved : Daemon) : CString :=
  savedJson saved (savedFans cfg saved.states)

theorem ControlState.read_auto (valid : cfg.Valid) (state : ControlState cfg saved) :
    jsonBoolKey (savedText cfg saved) "auto".toList true = saved.autoMode :=
  saved_auto (state.savable valid)

/-- A preset called like none of the keys leaves the runtime flags readable. -/
theorem restored_of_flags (valid : cfg.Valid) (state : ControlState cfg saved) {restored : Daemon}
    (named : saved.preset = "auto".toList ∨ saved.preset = "manual".toList ∨
      saved.preset = firmwareAutoPreset)
    (runtime : restored.runtime = restoreRuntimeStateFromJson cfg fresh.runtime (savedText cfg saved))
    (autoMode : restored.autoMode = saved.autoMode) (preset : restored.preset = saved.preset)
    (requested : controlMode saved.autoMode saved.preset ≠ "preset".toList →
      ∀ i < cfg.fanLen,
        (restored.states i).requestedPercent = (saved.states i).requestedPercent) :
    Restored cfg saved restored := by
  have savable := state.savable valid
  have power : saved.preset ≠ "power_source_auto_apply".toList := by
    rcases named with name | name | name <;> rw [name] <;> decide
  have timeout : saved.preset ≠ "keyboard_backlight_timeout_enabled".toList := by
    rcases named with name | name | name <;> rw [name] <;> decide
  refine ⟨autoMode, preset, ?_, fun supported => ?_, requested⟩
  · rw [runtime]
    exact saved_powerSource savable power
  · rw [runtime]
    simp only [restoreRuntimeStateFromJson, supported, Bool.true_and]
    exact saved_timeout savable timeout

/-- A mode that writes the saved percents gives the saved state back. -/
theorem restored_of_savedMode (valid : cfg.Valid)
    (distinct : (cfg.fans.map FanConfig.id).Nodup) (state : ControlState cfg saved)
    (reliable : fresh.ec.WritesSucceed)
    (named : saved.preset = "auto".toList ∨ saved.preset = "manual".toList)
    (fans : restoreFans cfg fresh.toFanBank saved.autoMode
        (jsonStringKey (savedText cfg saved) "preset".toList "auto".toList 32)
        (savedText cfg saved) =
      restoreSavedMode cfg fresh.toFanBank (savedText cfg saved) saved.preset) :
    Restored cfg saved (restoreControlStateFromJson cfg fresh (savedText cfg saved)) := by
  have idFree : saved.preset ≠ "id".toList := by
    rcases named with name | name <;> rw [name] <;> decide
  have percents : ∀ i < cfg.fanLen, savedPercent cfg (savedText cfg saved) i =
      (saved.states i).requestedPercent :=
    fun i below => savedPercent_savedJson valid distinct state idFree below
  obtain ⟨working, same⟩ := @restoreSavedMode_requested cfg fresh reliable
    (savedText cfg saved) saved.preset _ state.requested percents
  rw [restoreControlState_of_restoreFans (state.read_auto valid) fans]
  refine restored_of_flags valid state (named.imp_right Or.inl) rfl rfl rfl fun _ i below => ?_
  dsimp only
  split
  · exact disableCoolboost_requested working state.requested same i below
  · exact same i below

/-- A saved firmware-auto state is restored without writing a fan. -/
theorem restored_of_firmwareAuto (valid : cfg.Valid)
    (distinct : (cfg.fans.map FanConfig.id).Nodup) (state : ControlState cfg saved)
    (reliable : fresh.ec.WritesSucceed) (daemonMode : saved.autoMode = false)
    (name : saved.preset = firmwareAutoPreset) (available : cfg.fanModes.available = true) :
    Restored cfg saved (restoreControlStateFromJson cfg fresh (savedText cfg saved)) := by
  have savable := state.savable valid
  have idFree : saved.preset ≠ "id".toList := by
    rw [name]
    decide
  have mode : controlMode saved.autoMode saved.preset ≠ "preset".toList := by
    rw [daemonMode, name]
    decide
  have switched : (applyFirmwareAutoFanMode fresh.ec cfg).2 = true := by
    rw [applyFirmwareAutoFanMode_eq]
    exact applyFanMode_ok available reliable
  have fans : restoreFans cfg fresh.toFanBank saved.autoMode
      (jsonStringKey (savedText cfg saved) "preset".toList "auto".toList 32) (savedText cfg saved) =
      (⟨(applyFirmwareAutoFanMode fresh.ec cfg).1,
        restoreSavedFanTargets cfg fresh.states (savedText cfg saved)⟩, firmwareAutoPreset) := by
    have read : jsonStringKey (savedText cfg saved) "preset".toList "auto".toList 32 =
      firmwareAutoPreset := (saved_preset savable mode).trans name
    rw [read, daemonMode, restoreFans, if_neg Bool.false_ne_true, if_pos rfl,
      restoreFirmwareAutoControlState, switched]
    rfl
  rw [restoreControlState_of_restoreFans (state.read_auto valid) fans]
  refine restored_of_flags valid state (Or.inr (Or.inr name)) rfl rfl name.symm
    fun _ i below => ?_
  have firmware : firmwareAutoMode saved.autoMode firmwareAutoPreset = true := by
    rw [daemonMode]
    rfl
  simp only [firmware, Bool.not_true, Bool.and_false, Bool.false_eq_true, if_false,
    restoreSavedFanTargets, if_pos below]
  exact savedPercent_savedJson valid distinct state idFree below

/-- A preset behind the mode `preset` is read as `auto`, and restored as that or as manual. -/
theorem restored_preset_shadowed (valid : cfg.Valid) (state : ControlState cfg saved)
    (mode : controlMode saved.autoMode saved.preset = "preset".toList)
    (daemonMode : saved.autoMode = false) (fresh : Daemon) :
    (restoreControlStateFromJson cfg fresh (savedText cfg saved)).preset =
      if (configFindPreset cfg "auto".toList).isSome then "auto".toList else "manual".toList := by
  have savable := state.savable valid
  have read : jsonStringKey (savedText cfg saved) "preset".toList "auto".toList 32 =
    "auto".toList := saved_preset_shadowed savable mode
  have auto : jsonBoolKey (savedText cfg saved) "auto".toList true = false :=
    (state.read_auto valid).trans daemonMode
  have other : "auto".toList ≠ firmwareAutoPreset := by decide
  have named : "auto".toList ≠ "manual".toList := by decide
  simp only [restoreControlStateFromJson, auto, read, restoreFans, Bool.false_eq_true, if_false,
    if_neg other, restoreNamedPresetControlState, named, false_or]
  cases configFindPreset cfg "auto".toList with
  | none => rfl
  | some preset => rfl

/-- A preset that is not kept comes back under another name. -/
theorem presetKept_of_restored (valid : cfg.Valid) (state : ControlState cfg saved)
    (restored : Restored cfg saved (restoreControlStateFromJson cfg fresh (savedText cfg saved))) :
    PresetKept cfg saved := by
  by_contra lost
  simp only [PresetKept, not_or, not_and] at lost
  obtain ⟨manualMode, notManual, notAuto, notFirmware⟩ := lost
  have daemonMode : saved.autoMode = false := Bool.eq_false_of_not_eq_true manualMode
  by_cases firmware : saved.preset = firmwareAutoPreset
  · have unavailable : cfg.fanModes.available = false :=
      Bool.eq_false_of_not_eq_true (notFirmware firmware)
    have mode : controlMode saved.autoMode saved.preset ≠ "preset".toList := by
      rw [daemonMode, firmware]
      decide
    have read : jsonStringKey (savedText cfg saved) "preset".toList "auto".toList 32 =
      firmwareAutoPreset := (saved_preset (state.savable valid) mode).trans firmware
    have manual : (restoreControlStateFromJson cfg fresh (savedText cfg saved)).preset =
        "manual".toList := by
      simp only [restoreControlStateFromJson, read, state.read_auto valid, daemonMode, restoreFans,
        Bool.false_eq_true, if_false, if_true, restoreFirmwareAutoControlState,
        applyFirmwareAutoFanMode, if_pos unavailable]
    exact notManual (restored.preset.symm.trans manual)
  · have mode : controlMode saved.autoMode saved.preset = "preset".toList := by
      rw [controlMode, daemonMode, if_neg Bool.false_ne_true,
        if_neg (fun firmwareMode => firmware (firmwareAutoMode_iff.mp firmwareMode).2),
        if_neg notManual]
    have shadowed := restored_preset_shadowed valid state mode daemonMode fresh
    rw [restored.preset] at shadowed
    split at shadowed
    · exact notAuto shadowed
    · exact notManual shadowed

/-- The other states come back as they were saved. -/
theorem restored_of_presetKept (valid : cfg.Valid)
    (distinct : (cfg.fans.map FanConfig.id).Nodup) (state : ControlState cfg saved)
    (reliable : fresh.ec.WritesSucceed) (kept : PresetKept cfg saved) :
    Restored cfg saved (restoreControlStateFromJson cfg fresh (savedText cfg saved)) := by
  have savable := state.savable valid
  have otherName : "auto".toList ≠ firmwareAutoPreset ∧ "manual".toList ≠ firmwareAutoPreset ∧
    "auto".toList ≠ "manual".toList := by decide
  obtain ⟨autoFirmware, manualFirmware, autoManual⟩ := otherName
  rcases state.mode with ⟨autoMode, name⟩ | ⟨daemonMode, named⟩
  · refine restored_of_savedMode valid distinct state reliable (Or.inl name) ?_
    rw [restoreFans, if_pos autoMode, name]
    rfl
  · rcases kept with autoMode | name | name | ⟨name, available⟩
    · rw [daemonMode] at autoMode
      cases autoMode
    · have mode : controlMode saved.autoMode saved.preset ≠ "preset".toList := by
        rw [daemonMode, name]
        decide
      have read : jsonStringKey (savedText cfg saved) "preset".toList "auto".toList 32 =
        "manual".toList := (saved_preset savable mode).trans name
      refine restored_of_savedMode valid distinct state reliable (Or.inr name) ?_
      rw [read, daemonMode, restoreFans, if_neg Bool.false_ne_true, if_neg manualFirmware,
        restoreNamedPresetControlState, if_pos (Or.inl rfl), name]
      rfl
    · -- a profile may have a preset of that name, and reading nothing gives it
      have mode : controlMode saved.autoMode saved.preset = "preset".toList := by
        rw [daemonMode, name]
        decide
      have found : (configFindPreset cfg "auto".toList).isSome := by
        rcases named with other | ⟨other, _⟩ | found
        · exact absurd (name.symm.trans other) autoManual
        · exact absurd (name.symm.trans other) autoFirmware
        · rwa [name] at found
      have shadowed := restored_preset_shadowed valid state mode daemonMode fresh
      rw [if_pos found, ← name] at shadowed
      exact restored_of_flags valid state (Or.inl name) rfl (state.read_auto valid) shadowed
        fun other => absurd mode other
    · exact restored_of_firmwareAuto valid distinct state reliable daemonMode name available

/-- Saving and restoring gives a state back exactly when its mode shows the preset. -/
theorem restoreUndoesSave_iff (valid : cfg.Valid)
    (distinct : (cfg.fans.map FanConfig.id).Nodup) (state : ControlState cfg saved)
    (reliable : fresh.ec.WritesSucceed) :
    ∃ text, controlStateText cfg saved = some text ∧
      (Restored cfg saved (restoreControlStateFromJson cfg fresh text) ↔ PresetKept cfg saved) :=
  ⟨savedText cfg saved, controlStateText_eq (state.savable valid),
    presetKept_of_restored valid state,
    restored_of_presetKept valid distinct state reliable⟩

end RoundTrip

/-! ## On the shipped profile -/

theorem heldDaemon_requested {cfg : AnsConfig} (autoMode : Bool) (preset : CString) :
    ∀ i < cfg.fanLen, 1 ≤ ((heldDaemon autoMode preset).states i).requestedPercent ∧
      ((heldDaemon autoMode preset).states i).requestedPercent ≤ 100 := by
  intro i _
  change (1 : Int) ≤ 50 ∧ (50 : Int) ≤ 100
  decide

theorem restoreUndoesSave_manual :
    ∃ text, controlStateText AcerNitroAn517.config (heldDaemon false "manual".toList) = some text ∧
      (Restored AcerNitroAn517.config (heldDaemon false "manual".toList)
          (restoreControlStateFromJson AcerNitroAn517.config (heldDaemon true "auto".toList) text) ↔
        PresetKept AcerNitroAn517.config (heldDaemon false "manual".toList)) :=
  restoreUndoesSave_iff AcerNitroAn517.config_valid (by decide)
    ⟨Or.inr ⟨rfl, Or.inl rfl⟩, heldDaemon_requested _ _⟩ fun _ => rfl

/-- The preset `cool` comes back as manual mode. -/
theorem restoreUndoesSave_fails :
    ¬ ∀ (cfg : AnsConfig) (saved fresh : Daemon), cfg.Valid →
      (cfg.fans.map FanConfig.id).Nodup → ControlState cfg saved → fresh.ec.WritesSucceed →
      ∀ text, controlStateText cfg saved = some text →
        Restored cfg saved (restoreControlStateFromJson cfg fresh text) := by
  intro undoes
  have state : ControlState AcerNitroAn517.config (heldDaemon false "cool".toList) :=
    ⟨Or.inr ⟨rfl, Or.inr (Or.inr rfl)⟩, heldDaemon_requested _ _⟩
  have restored := undoes AcerNitroAn517.config (heldDaemon false "cool".toList)
    (heldDaemon true "auto".toList) AcerNitroAn517.config_valid (by decide) state (fun _ => rfl)
    _ (controlStateText_eq (state.savable AcerNitroAn517.config_valid))
  have manual := restored_preset_shadowed AcerNitroAn517.config_valid state rfl rfl
    (heldDaemon true "auto".toList)
  exact absurd (manual.symm.trans restored.preset) (by decide)

end NitroSense
