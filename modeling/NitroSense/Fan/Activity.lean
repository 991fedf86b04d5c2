import NitroSense.Fan.Poll

/-!
# The activity of fan control

Everything fan control does after observing is a chain of a few kinds of acts:
EC accesses that are not speeds, calls of `set_fan_percent`, and changes of a
fan's state without a write.  `FanActivity` is that chain, with a predicate
that every call of `set_fan_percent` satisfies; the functions of
`fan/control.c` are such activities whatever the EC answers.
-/

namespace NitroSense

open Lib EcDevice

/-- The fan state `update_fan_states` leaves when firmware-auto keeps the target of a calm fan. -/
def keepTarget (state : FanState) (percent : Int) : FanState :=
  fanUpdateSafetyState
    { state with percent := percent, writeValue := percent, requestedPercent := percent } .none

/--
What fan control makes of a bank: `access` relates the EC before and after an
act that writes no speed, and `sets` holds of every call of `set_fan_percent`.
-/
inductive FanActivity (cfg : AnsConfig) (access : EcDevice → EcDevice → Prop)
    (sets : FanBank → Nat → Int → SafetyReason → Prop) (start : FanBank) : FanBank → Prop where
  | start : FanActivity cfg access sets start start
  | access {bank : FanBank} {ec : EcDevice} (before : FanActivity cfg access sets start bank)
      (made : access bank.ec ec) : FanActivity cfg access sets start { bank with ec := ec }
  | set {bank : FanBank} {i : Nat} {requestedPercent : Int} {forcedReason : SafetyReason}
      (before : FanActivity cfg access sets start bank) (below : i < cfg.fanLen)
      (called : sets bank i requestedPercent forcedReason) :
      FanActivity cfg access sets start (setFanPercent cfg bank i requestedPercent forcedReason).1
  | reason {bank : FanBank} (before : FanActivity cfg access sets start bank) (i : Nat)
      (reason : SafetyReason) :
      FanActivity cfg access sets start
        { bank with
          states := Function.update bank.states i (fanUpdateSafetyState (bank.states i) reason) }
  | target {bank : FanBank} (before : FanActivity cfg access sets start bank) (i : Nat)
      (percent : Int) :
      FanActivity cfg access sets start
        { bank with
          states := Function.update bank.states i
            (keepTarget (bank.states i) (clampInt percent 1 100)) }

namespace FanActivity

variable {cfg : AnsConfig} {access : EcDevice → EcDevice → Prop}
  {sets wider : FanBank → Nat → Int → SafetyReason → Prop} {first second third : FanBank}

theorem trans (left : FanActivity cfg access sets first second)
    (right : FanActivity cfg access sets second third) :
    FanActivity cfg access sets first third := by
  induction right with
  | start => exact left
  | access _ made ih => exact ih.access made
  | set _ below called ih => exact ih.set below called
  | reason _ i reason ih => exact ih.reason i reason
  | target _ i percent ih => exact ih.target i percent

theorem mono (activity : FanActivity cfg access sets first second)
    (weaken : ∀ bank i requestedPercent forcedReason, i < cfg.fanLen →
      sets bank i requestedPercent forcedReason → wider bank i requestedPercent forcedReason) :
    FanActivity cfg access wider first second := by
  induction activity with
  | start => exact .start
  | access _ made ih => exact ih.access made
  | set _ below called ih => exact ih.set below (weaken _ _ _ _ below called)
  | reason _ i reason ih => exact ih.reason i reason
  | target _ i percent ih => exact ih.target i percent

/-- A property of banks that every act keeps is kept by an activity. -/
theorem preserves (activity : FanActivity cfg access sets first second) (Inv : FanBank → Prop)
    (initial : Inv first)
    (accessed : ∀ bank ec, Inv bank → access bank.ec ec → Inv { bank with ec := ec })
    (set : ∀ bank i requestedPercent forcedReason, Inv bank → i < cfg.fanLen →
      sets bank i requestedPercent forcedReason →
        Inv (setFanPercent cfg bank i requestedPercent forcedReason).1)
    (reason : ∀ (bank : FanBank) i reason, Inv bank →
      Inv { bank with
        states := Function.update bank.states i (fanUpdateSafetyState (bank.states i) reason) })
    (target : ∀ (bank : FanBank) i percent, Inv bank →
      Inv { bank with
        states := Function.update bank.states i
          (keepTarget (bank.states i) (clampInt percent 1 100)) }) :
    Inv second := by
  induction activity with
  | start => exact initial
  | access _ made ih => exact accessed _ _ ih made
  | set _ below called ih => exact set _ _ _ _ ih below called
  | reason _ i given ih => exact reason _ i given ih
  | target _ i percent ih => exact target _ i percent ih

/-- An activity observes nothing. -/
theorem sameObservations (activity : FanActivity cfg access sets first second) :
    SameObservations first.states second.states := by
  refine activity.preserves (fun bank => SameObservations first.states bank.states)
    (SameObservations.refl _) ?_ ?_ ?_ ?_
  · intro bank ec before _
    exact before
  · intro bank i requestedPercent forcedReason before _ _
    exact before.trans
      (update_sameObservations (recordFanWrite_sameObservation cfg _ _ _ _))
  · intro bank i reason before
    exact before.trans (update_sameObservations ⟨rfl, rfl, rfl, rfl, rfl, rfl, rfl⟩)
  · intro bank i percent before
    exact before.trans (update_sameObservations ⟨rfl, rfl, rfl, rfl, rfl, rfl, rfl⟩)

/-- Only the registers of the accesses and the speeds are written. -/
theorem changes {allowed : Int → Prop} (activity : FanActivity cfg access sets first second)
    (accesses : ∀ before after, access before after → WritesWithin allowed before after)
    (speeds : ∀ reg, FanWriteRegister cfg reg → allowed reg) :
    FanChanges allowed first second := by
  refine ⟨activity.sameObservations, ?_⟩
  refine activity.preserves (fun bank => WritesWithin allowed first.ec bank.ec)
    (WritesWithin.refl _) ?_ ?_ ?_ ?_
  · intro bank ec before made
    exact before.trans (accesses _ _ made)
  · intro bank i requestedPercent forcedReason before below _
    exact before.trans (setFanPercent_writesWithin cfg bank i _ _ (speeds _ ⟨i, below, rfl⟩))
  · intro bank i reason before
    exact before
  · intro bank i percent before
    exact before

end FanActivity

/-! ## The functions of fan control are activities -/

/-- Each function of fan control switches the fan modes by `apply_fan_mode` alone. -/
def SwitchesModes (cfg : AnsConfig) (access : EcDevice → EcDevice → Prop) : Prop :=
  ∀ ec mode, access ec (applyFanMode ec cfg mode).1

/-- The calls of `set_fan_percent` with the global reason of states observed like `start`. -/
def SetsByGlobalReason (cfg : AnsConfig) (start : FanStates)
    (sets : FanBank → Nat → Int → SafetyReason → Prop) : Prop :=
  ∀ bank i requestedPercent states, SameObservations start states →
    sets bank i requestedPercent (globalSafetyReason cfg states)

section Functions

variable {cfg : AnsConfig} {access : EcDevice → EcDevice → Prop}
  {sets : FanBank → Nat → Int → SafetyReason → Prop} {start bank : FanBank}

theorem SetsByGlobalReason.later {before after : FanStates}
    (global : SetsByGlobalReason cfg before sets) (same : SameObservations before after) :
    SetsByGlobalReason cfg after sets :=
  fun bank i requestedPercent states later =>
    global bank i requestedPercent states (same.trans later)

theorem applyFanMode_activity (switches : SwitchesModes cfg access) (bank : FanBank)
    (mode : FanMode) :
    FanActivity cfg access sets bank { bank with ec := (applyFanMode bank.ec cfg mode).1 } :=
  FanActivity.start.access (switches bank.ec mode)

theorem applyFirmwareAutoFanMode_activity (switches : SwitchesModes cfg access) (bank : FanBank) :
    FanActivity cfg access sets bank
      { bank with ec := (applyFirmwareAutoFanMode bank.ec cfg).1 } := by
  rw [applyFirmwareAutoFanMode_eq]
  exact applyFanMode_activity switches bank .auto

theorem applyDaemonControlFanMode_activity (switches : SwitchesModes cfg access)
    (bank : FanBank) :
    FanActivity cfg access sets bank
      { bank with ec := (applyDaemonControlFanMode bank.ec cfg).1 } := by
  cases available : cfg.fanModes.available with
  | false =>
      rw [applyDaemonControlFanMode, if_pos available]
      exact .start
  | true =>
      rw [applyDaemonControlFanMode_eq available]
      exact applyFanMode_activity switches bank .manual

/-- A loop of fan writes is an activity of the calls its rounds make. -/
theorem setFans_activity {selected : Nat → Bool} {percent : FanBank → Nat → Int}
    {forced : FanBank → SafetyReason}
    (calls : ∀ bank i, SameObservations start.states bank.states →
      sets bank i (percent bank i) (forced bank)) :
    FanActivity cfg access sets start (setFans cfg selected percent forced start) := by
  refine (setFans_rel (fun bank => FanActivity cfg access sets start bank ∧
    SameObservations start.states bank.states) ⟨.start, SameObservations.refl _⟩ ?_).1
  intro i bank below _ ⟨before, same⟩
  have written : FanChanges (FanWriteRegister cfg) bank
      (setFanPercent cfg bank i (percent bank i) (forced bank)).1 :=
    setFanPercent_changes cfg bank i _ _ ⟨i, below, rfl⟩
  exact ⟨before.set below (calls bank i same), same.trans written.states⟩

theorem setOne_activity (global : SetsByGlobalReason cfg bank.states sets) (id : CString)
    (percent : Int) : FanActivity cfg access sets bank (setOne cfg bank id percent).1 := by
  rw [setOne_bank]
  exact setFans_activity fun _ _ _ => global _ _ _ _ (SameObservations.refl _)

theorem applyPreset_activity (global : SetsByGlobalReason cfg bank.states sets) (id : CString) :
    FanActivity cfg access sets bank (applyPreset cfg bank id).1 := by
  unfold applyPreset
  split
  · exact .start
  · exact (setOne_activity global _ _).trans
      (setOne_activity (global.later (setOne_changes _ _).states) _ _)

theorem applyCurrentControlState_activity (global : SetsByGlobalReason cfg bank.states sets) :
    FanActivity cfg access sets bank (applyCurrentControlState cfg bank) :=
  setFans_activity fun _ _ _ => global _ _ _ _ (SameObservations.refl _)

theorem applyCoolboost_activity (switches : SwitchesModes cfg access)
    (global : SetsByGlobalReason cfg bank.states sets) (enabled : Bool) :
    FanActivity cfg access sets bank (applyCoolboost cfg bank enabled).1 := by
  unfold applyCoolboost
  split
  · exact .start
  · split
    · exact applyFanMode_activity switches bank .turbo
    · dsimp only
      split
      · exact applyFanMode_activity switches bank .manual
      · exact (applyFanMode_activity switches bank .manual).trans
          (applyCurrentControlState_activity global)

end Functions

/-! ## The poll is an activity -/

section Poll

variable {cfg : AnsConfig} {access : EcDevice → EcDevice → Prop}
  {sets : FanBank → Nat → Int → SafetyReason → Prop} {autoMode : Bool} {preset : CString}
  {forcedReason : SafetyReason}

theorem overrideModes_activity (switches : SwitchesModes cfg access) (poll : Poll) :
    FanActivity cfg access sets poll.bank ⟨overrideModes cfg poll, poll.bank.states⟩ := by
  unfold overrideModes
  split
  · exact .start
  · exact applyDaemonControlFanMode_activity switches poll.bank

/-- A round of `update_fan_states` calls `set_fan_percent` with the poll's forced reason. -/
theorem updateFan_activity (switches : SwitchesModes cfg access) {i : Nat}
    (below : i < cfg.fanLen)
    (calls : ∀ bank requestedPercent, sets bank i requestedPercent forcedReason) (poll : Poll) :
    FanActivity cfg access sets poll.bank
      (updateFan cfg autoMode preset forcedReason i poll).bank := by
  unfold updateFan
  split
  · split
    · exact (overrideModes_activity switches poll).set below (calls _ _)
    · exact FanActivity.start.target i _
  · unfold daemonFan
    dsimp only
    split
    · exact FanActivity.start.set below (calls _ _)
    · exact FanActivity.start.reason i _

/-- After its observation a poll is an activity. -/
theorem updateFanStates_activity {bank : FanBank} {sensors : Sensors}
    (switches : SwitchesModes cfg access)
    (calls : ∀ other i requestedPercent, sets other i requestedPercent
      (refreshFanObservations bank.ec sensors cfg bank.states).forcedReason) :
    let observed := refreshFanObservations bank.ec sensors cfg bank.states
    FanActivity cfg access sets ⟨observed.ec, observed.states⟩
      (updateFanStates bank sensors cfg autoMode preset) := by
  intro observed
  have rounds : FanActivity cfg access sets ⟨observed.ec, observed.states⟩
      (updateFans cfg autoMode preset observed).bank := by
    refine updateFans_induct
      (fun _ poll => FanActivity cfg access sets ⟨observed.ec, observed.states⟩ poll.bank)
      .start ?_
    intro i poll below _ before
    exact before.trans (updateFan_activity switches below (fun _ _ => calls _ _ _) poll)
  refine rounds.trans ?_
  unfold updateFanStates restoreFirmwareAutoModeIfNeeded
  dsimp only
  split
  · exact applyFirmwareAutoFanMode_activity switches _
  · exact .start

end Poll

end NitroSense
