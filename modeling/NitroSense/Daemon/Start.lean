import NitroSense.Commands.FanControl

/-!
# What starting the daemon touches

After the initial writes of the profile the start observes nothing, and it is
an activity of fan control: it begins with the seeded states, or with the saved
targets when it restores firmware-auto.
-/

namespace NitroSense

open EcDevice

/-- The fan states from which a mode is restored: firmware-auto takes over the saved targets. -/
def restoredTargets (cfg : AnsConfig) (states : FanStates) (autoMode : Bool)
    (preset json : CString) : FanStates :=
  if firmwareAutoMode autoMode preset then restoreSavedFanTargets cfg states json else states

/-- The fan states from which the start goes on, by the state file it reads. -/
def startStates (cfg : AnsConfig) (daemon : Daemon) : FanStates :=
  match daemon.savedState with
  | none => daemon.states
  | some text =>
      let json := text.take (64 * 1024)
      restoredTargets cfg daemon.states (jsonBoolKey json "auto".toList true)
        (jsonStringKey json "preset".toList "auto".toList 32) json

section Activity

variable {cfg : AnsConfig} {access : EcDevice → EcDevice → Prop}
  {sets : FanBank → Nat → Int → SafetyReason → Prop} {bank : FanBank} {daemon : Daemon}
  {json : CString}

theorem restoreSavedFanTargets_sameObservations (cfg : AnsConfig) (states : FanStates)
    (json : CString) : SameObservations states (restoreSavedFanTargets cfg states json) := by
  intro i
  unfold restoreSavedFanTargets
  split
  · exact ⟨rfl, rfl, rfl, rfl, rfl, rfl, rfl⟩
  · exact FanState.SameObservation.refl _

theorem restoredTargets_sameObservations (cfg : AnsConfig) (states : FanStates)
    (autoMode : Bool) (preset json : CString) :
    SameObservations states (restoredTargets cfg states autoMode preset json) := by
  unfold restoredTargets
  split
  · exact restoreSavedFanTargets_sameObservations cfg states json
  · exact SameObservations.refl _

theorem startStates_sameObservations (cfg : AnsConfig) (daemon : Daemon) :
    SameObservations daemon.states (startStates cfg daemon) := by
  unfold startStates
  split
  · exact SameObservations.refl _
  · exact restoredTargets_sameObservations cfg _ _ _ _

theorem restoreSavedMode_activity (switches : SwitchesModes cfg access)
    (global : SetsByGlobalReason cfg bank.states sets) (preset : CString) :
    FanActivity cfg access sets bank (restoreSavedMode cfg bank json preset).1 :=
  (applyDaemonControlFanMode_activity switches bank).trans
    (setFans_activity fun _ _ same => global _ _ _ _ same)

theorem restoreFirmwareAuto_activity (switches : SwitchesModes cfg access) :
    FanActivity cfg access sets
      { bank with states := restoreSavedFanTargets cfg bank.states json }
      (restoreFirmwareAutoControlState cfg bank json).1 :=
  applyFirmwareAutoFanMode_activity switches
    { bank with states := restoreSavedFanTargets cfg bank.states json }

theorem restoreNamedPreset_activity (switches : SwitchesModes cfg access)
    (global : SetsByGlobalReason cfg bank.states sets) {preset : CString} {restored : FanBank}
    (named : restoreNamedPresetControlState cfg bank preset = some restored) :
    FanActivity cfg access sets bank restored := by
  unfold restoreNamedPresetControlState at named
  split at named
  · cases named
  · cases named
    have owned : FanActivity cfg access sets bank _ :=
      applyDaemonControlFanMode_activity switches bank
    exact owned.trans (applyPreset_activity (global.later owned.sameObservations) preset)

theorem restoreFans_activity (switches : SwitchesModes cfg access)
    (global : SetsByGlobalReason cfg bank.states sets) (autoMode : Bool) (preset : CString) :
    FanActivity cfg access sets
      { bank with states := restoredTargets cfg bank.states autoMode preset json }
      (restoreFans cfg bank autoMode preset json).1 := by
  unfold restoreFans
  cases autoMode with
  | true => exact restoreSavedMode_activity switches global _
  | false =>
      rw [if_neg Bool.false_ne_true]
      by_cases firmware : preset = firmwareAutoPreset
      · have kept : firmwareAutoMode false preset = true := by simp [firmwareAutoMode, firmware]
        rw [if_pos firmware, restoredTargets, if_pos kept]
        exact restoreFirmwareAuto_activity switches
      · have owned : ¬ firmwareAutoMode false preset = true := by
          simp [firmwareAutoMode, firmware]
        rw [if_neg firmware, restoredTargets, if_neg owned]
        split
        · rename_i restored named
          exact restoreNamedPreset_activity switches global named
        · exact restoreSavedMode_activity switches global _

theorem restoreControlState_activity (switches : SwitchesModes cfg access)
    (global : SetsByGlobalReason cfg daemon.states sets) :
    FanActivity cfg access sets
      { daemon.toFanBank with
        states := restoredTargets cfg daemon.states (jsonBoolKey json "auto".toList true)
          (jsonStringKey json "preset".toList "auto".toList 32) json }
      (restoreControlStateFromJson cfg daemon json).toFanBank := by
  let autoMode := jsonBoolKey json "auto".toList true
  let preset := jsonStringKey json "preset".toList "auto".toList 32
  have fans := @restoreFans_activity cfg access sets daemon.toFanBank json switches global
    autoMode preset
  have restored := restoredTargets_sameObservations cfg daemon.states autoMode preset json
  unfold restoreControlStateFromJson
  dsimp only
  split
  · exact fans.trans (applyCoolboost_activity switches
      (global.later (restored.trans fans.sameObservations)) false)
  · exact fans

theorem applyDefaultPreset_activity (switches : SwitchesModes cfg access)
    (global : SetsByGlobalReason cfg daemon.states sets) :
    FanActivity cfg access sets daemon.toFanBank (applyDefaultPreset cfg daemon).toFanBank := by
  have owned : FanActivity cfg access sets daemon.toFanBank _ :=
    applyDaemonControlFanMode_activity switches daemon.toFanBank
  have firmware : FanActivity cfg access sets daemon.toFanBank _ :=
    applyFirmwareAutoFanMode_activity switches daemon.toFanBank
  unfold applyDefaultPreset
  dsimp only
  split
  · rw [writeControlState_toFanBank]
    exact owned
  · split
    · rw [writeControlState_toFanBank]
      exact firmware
    · split
      · split
        · rw [writeControlState_toFanBank]
          exact firmware.trans
            (applyPreset_activity (global.later firmware.sameObservations) _)
        · exact firmware
      · split
        · rw [writeControlState_toFanBank]
          exact applyPreset_activity global _
        · exact .start

/-- From the booted daemon on, the start is an activity of fan control. -/
theorem startDaemon_activity (switches : SwitchesModes cfg access) (boot : Boot)
    (global : SetsByGlobalReason cfg (bootedDaemon cfg boot).states sets) :
    FanActivity cfg access sets
      { (bootedDaemon cfg boot).toFanBank with states := startStates cfg (bootedDaemon cfg boot) }
      (startDaemon cfg boot).toFanBank := by
  unfold startDaemon restoreControlState startStates
  dsimp only
  cases (bootedDaemon cfg boot).savedState with
  | none => exact applyDefaultPreset_activity switches global
  | some text => exact restoreControlState_activity switches global

end Activity

section Changes

variable {cfg : AnsConfig} {bank : FanBank}

def ModeAccess (cfg : AnsConfig) (before after : EcDevice) : Prop :=
  ∃ mode, after = (applyFanMode before cfg mode).1

theorem ModeAccess.writesWithin {before after : EcDevice} (access : ModeAccess cfg before after) :
    WritesWithin (FanControlRegister cfg) before after := by
  obtain ⟨mode, rfl⟩ := access
  exact applyFanMode_writesWithin fun available => FanControlRegister.of_mode available

theorem ModeAccess.switches : SwitchesModes cfg (ModeAccess cfg) := fun _ mode => ⟨mode, rfl⟩

/-- Restoring the mode of the fans writes registers of fan control only. -/
theorem restoreFans_writesWithin (autoMode : Bool) (preset json : CString) :
    WritesWithin (FanControlRegister cfg) bank.ec
      (restoreFans cfg bank autoMode preset json).1.ec :=
  ((@restoreFans_activity cfg (ModeAccess cfg) (fun _ _ _ _ => True) bank json
    ModeAccess.switches (fun _ _ _ _ _ => trivial) autoMode preset).changes
      (fun _ _ access => access.writesWithin) FanControlRegister.of_write).ec

/-- The start only writes registers of fan control, and it observes nothing. -/
theorem startDaemon_changes (cfg : AnsConfig) (boot : Boot) :
    FanChanges (FanControlRegister cfg) (bootedDaemon cfg boot).toFanBank
      (startDaemon cfg boot).toFanBank := by
  have changes := (@startDaemon_activity cfg (ModeAccess cfg) (fun _ _ _ _ => True)
    ModeAccess.switches boot (fun _ _ _ _ _ => trivial)).changes
      (fun _ _ access => access.writesWithin) FanControlRegister.of_write
  exact ⟨(startStates_sameObservations cfg _).trans changes.states, changes.ec⟩

theorem bootedDaemon_reliable {boot : Boot} (reliable : boot.ec.WritesSucceed) :
    (bootedDaemon cfg boot).ec.WritesSucceed :=
  (applyInitWrites_writesWithin boot.ec cfg).writesSucceed reliable

/-- The start keeps EC writes working. -/
theorem startDaemon_reliable {boot : Boot} (reliable : boot.ec.WritesSucceed) :
    (startDaemon cfg boot).ec.WritesSucceed :=
  (startDaemon_changes cfg boot).writesSucceed (bootedDaemon_reliable reliable)

end Changes

end NitroSense
