import NitroSense.Models
import NitroSense.Commands.Request

/-!
# Rejected commands

Which command lines leave the control state alone when their reply is an error.
The handlers that do not are those that first disable CoolBoost or change the
mode or a flag, and find out afterwards that an EC write failed.  Where that can
happen is stated over the device's pattern of failing writes.
-/

namespace NitroSense

open Lib EcDevice

def IsError (reply : CString) : Prop := "error".toList <+: reply

instance (reply : CString) : Decidable (IsError reply) := inferInstanceAs (Decidable (_ <+: _))

/-- The two states have the same control state. -/
structure SameControl (before after : Daemon) : Prop where
  autoMode : after.autoMode = before.autoMode
  preset : after.preset = before.preset
  coolboostEnabled : after.coolboostEnabled = before.coolboostEnabled
  runtime : after.runtime = before.runtime
  requested : ∀ i, (after.states i).requestedPercent = (before.states i).requestedPercent
  savedState : after.savedState = before.savedState

/-- A command that replies an error has not changed the control state. -/
def RejectionKeepsControl (daemon : Daemon) (result : Daemon × CString) : Prop :=
  IsError result.2 → SameControl daemon result.1

/-! ## Replies -/

theorem isError_controlReply {text : CString} (starts : "error".toList <+: text)
    (short : text.length < 4096) : IsError (controlReply text) := by
  rw [IsError, controlReply, if_pos short]
  exact starts

theorem not_isError_of_head {text : CString} (c : Char) (head : text.head? = some c)
    (other : c ≠ 'e') : ¬ IsError (controlReply text) := by
  unfold IsError controlReply
  split
  · rintro ⟨rest, rfl⟩
    exact other (Option.some.inj head).symm
  · intro error
    exact absurd (List.prefix_nil.mp error) (by decide)

/-! ## How many writes a command makes -/

section Writes

variable {cfg : AnsConfig} {ec : EcDevice} {bank : FanBank} {mode : FanMode}

/-- A mode switch makes two writes, or one when that one fails. -/
theorem applyFanMode_makesWrites (available : cfg.fanModes.available = true) :
    MakesWrites (if ec.nextWriteOk then 2 else 1) ec (applyFanMode ec cfg mode).1 := by
  rw [applyFanMode_available available]
  split
  · exact (ecWriteByte_makesWrites ec _ _).trans (ecWriteByte_makesWrites _ _ _)
  · exact ecWriteByte_makesWrites ec _ _

theorem applyFanMode_ok_iff (available : cfg.fanModes.available = true) :
    (applyFanMode ec cfg mode).2 = true ↔
      ec.writeFails ec.writes.length = false ∧ ec.writeFails (ec.writes.length + 1) = false := by
  rw [applyFanMode_available available]
  have second := (ecWriteByte_makesWrites ec cfg.fanModes.cpuReg
    (cfg.fanModes.cpuValue mode)).nextWriteOk
  cases first : ec.writeFails ec.writes.length with
  | true => simp [nextWriteOk, first]
  | false =>
      have works : ec.nextWriteOk = true := by simp [nextWriteOk, first]
      rw [if_pos works, ecWriteByte_ok, second]
      simp

theorem setFanPercent_makesWrites (i : Nat) (percent : Int) (forced : SafetyReason) :
    MakesWrites 1 bank.ec (setFanPercent cfg bank i percent forced).1.ec :=
  ecWriteByte_makesWrites _ _ _

theorem applyCurrentControlState_makesWrites :
    MakesWrites cfg.fanLen bank.ec (applyCurrentControlState cfg bank).ec := by
  unfold applyCurrentControlState setFans
  refine loop_invariant (fun count (later : FanBank) => MakesWrites count bank.ec later.ec)
    (MakesWrites.refl _) ?_
  intro i later below before
  exact before.trans (setFanPercent_makesWrites i _ _)

end Writes

/-! ## Where the writes of a fan command fall -/

/-- The writes a fan command makes to disable CoolBoost. -/
def disableWrites (cfg : AnsConfig) (daemon : Daemon) : Nat :=
  if daemon.coolboostEnabled = false ∨ cfg.fanModes.available = false then 0
  else if daemon.ec.writeFails daemon.ec.writes.length then 1
  else if daemon.ec.writeFails (daemon.ec.writes.length + 1) then 2
  else 2 + cfg.fanLen

/-- The number of the first write of the switch to daemon control. -/
def switchStart (cfg : AnsConfig) (daemon : Daemon) : Nat :=
  daemon.ec.writes.length + disableWrites cfg daemon

def SwitchWorks (cfg : AnsConfig) (daemon : Daemon) : Prop :=
  cfg.fanModes.available = true →
    daemon.ec.writeFails (switchStart cfg daemon) = false ∧
      daemon.ec.writeFails (switchStart cfg daemon + 1) = false

/-- How many of the first `count` fans a `set` command writes. -/
def selectedFans (cfg : AnsConfig) (id : CString) (count : Nat) : Nat :=
  (List.range count).countP fun i => decide (SelectsFan cfg id i)

/-- One of the fans a `set` command writes, behind the switch, takes its speed. -/
def SomeFanTakesSpeed (cfg : AnsConfig) (daemon : Daemon) (id : CString) : Prop :=
  ∃ place < selectedFans cfg id cfg.fanLen,
    daemon.ec.writeFails
      (switchStart cfg daemon + (if cfg.fanModes.available then 2 else 0) + place) = false

section Prepare

variable {cfg : AnsConfig} {daemon : Daemon}

/--
What disabling CoolBoost does: nothing, or only the switch to manual mode when it
fails, or that switch and then every fan's own request once more.
-/
theorem disableCoolboost_cases (cfg : AnsConfig) (daemon : Daemon) :
    let disabled := (disableCoolboostIfNeeded cfg daemon).toFanBank
    let switched : FanBank := ⟨(applyFanMode daemon.ec cfg .manual).1, daemon.states⟩
    let first := daemon.ec.writeFails daemon.ec.writes.length
    let second := daemon.ec.writeFails (daemon.ec.writes.length + 1)
    (daemon.coolboostEnabled = false ∨ cfg.fanModes.available = false) ∧
        disabled = daemon.toFanBank ∨
      (daemon.coolboostEnabled = true ∧ cfg.fanModes.available = true) ∧
        ((first = true ∨ second = true) ∧ disabled = switched ∨
          (first = false ∧ second = false) ∧ disabled = applyCurrentControlState cfg switched) := by
  intro disabled switched first second
  by_cases idle : daemon.coolboostEnabled = false ∨ cfg.fanModes.available = false
  · refine Or.inl ⟨idle, ?_⟩
    unfold disabled disableCoolboostIfNeeded
    split
    · rfl
    · rename_i enabled
      dsimp only
      rw [applyCoolboost, if_pos (idle.resolve_left enabled)]
  · obtain ⟨enabled, available⟩ := not_or.mp idle
    rw [Bool.not_eq_false] at enabled available
    have works := @applyFanMode_ok_iff cfg daemon.ec .manual available
    have bank : disabled = if (applyFanMode daemon.ec cfg .manual).2 = false then switched
        else applyCurrentControlState cfg switched := by
      unfold disabled disableCoolboostIfNeeded applyCoolboost
      simp only [enabled, available, Bool.true_eq_false, Bool.false_eq_true, if_false]
      split
      · rfl
      · rfl
    refine Or.inr ⟨⟨enabled, available⟩, ?_⟩
    by_cases both : first = false ∧ second = false
    · refine Or.inr ⟨both, bank.trans (if_neg ?_)⟩
      rw [works.mpr both]
      exact Bool.noConfusion
    · refine Or.inl ⟨?_, bank.trans (if_pos (Bool.eq_false_iff.mpr (mt works.mp both)))⟩
      rw [not_and_or, Bool.not_eq_false, Bool.not_eq_false] at both
      exact both

theorem disableCoolboost_makesWrites : MakesWrites (disableWrites cfg daemon) daemon.ec
    (disableCoolboostIfNeeded cfg daemon).ec := by
  unfold disableWrites
  rcases disableCoolboost_cases cfg daemon with
    ⟨idle, bank⟩ | ⟨⟨enabled, available⟩, ⟨failed, bank⟩ | ⟨⟨first, second⟩, bank⟩⟩
  · rw [if_pos idle, bank]
    exact MakesWrites.refl _
  · have switch := @applyFanMode_makesWrites cfg daemon.ec .manual available
    rw [if_neg (by simp [enabled, available]), bank]
    cases first : daemon.ec.writeFails daemon.ec.writes.length with
    | true =>
        rw [nextWriteOk, first] at switch
        exact switch
    | false =>
        rw [nextWriteOk, first] at switch
        rw [if_neg Bool.false_ne_true, if_pos (failed.resolve_left (by simp [first]))]
        exact switch
  · have switch := @applyFanMode_makesWrites cfg daemon.ec .manual available
    rw [nextWriteOk, first] at switch
    rw [if_neg (by simp [enabled, available]), bank, first, second, if_neg Bool.false_ne_true,
      if_neg Bool.false_ne_true]
    exact switch.trans (@applyCurrentControlState_makesWrites cfg ⟨_, daemon.states⟩)

/-- A fan command takes the fans over exactly when both writes of the switch work. -/
theorem prepare_ok_iff :
    (fanCommandPrepareDaemonControl cfg daemon).2 = true ↔ SwitchWorks cfg daemon := by
  have made := @disableCoolboost_makesWrites cfg daemon
  unfold SwitchWorks
  change (applyDaemonControlFanMode (disableCoolboostIfNeeded cfg daemon).ec cfg).2 = true ↔ _
  cases available : cfg.fanModes.available with
  | false => simp [applyDaemonControlFanMode, available]
  | true =>
      rw [applyDaemonControlFanMode_eq available, applyFanMode_ok_iff available, made.writeFails,
        made.length]
      exact ⟨fun works _ => works, fun works => works rfl⟩

/-- Behind the switch the next write is that of the first fan. -/
theorem prepare_makesWrites (works : SwitchWorks cfg daemon) :
    MakesWrites (disableWrites cfg daemon + if cfg.fanModes.available then 2 else 0) daemon.ec
      (fanCommandPrepareDaemonControl cfg daemon).1.ec := by
  have made := @disableCoolboost_makesWrites cfg daemon
  refine made.trans ?_
  change MakesWrites _ _ (applyDaemonControlFanMode (disableCoolboostIfNeeded cfg daemon).ec cfg).1
  cases available : cfg.fanModes.available with
  | false =>
      simp only [applyDaemonControlFanMode, available, if_true]
      exact MakesWrites.refl _
  | true =>
      have first : (disableCoolboostIfNeeded cfg daemon).ec.nextWriteOk = true := by
        have cpu : daemon.ec.writeFails (daemon.ec.writes.length + disableWrites cfg daemon) =
          false := (works available).1
        rw [made.nextWriteOk, cpu]
        rfl
      have switch := @applyFanMode_makesWrites cfg (disableCoolboostIfNeeded cfg daemon).ec .manual
        available
      rw [if_pos first] at switch
      rw [applyDaemonControlFanMode_eq available]
      exact switch

/-- Preparing changes the control state exactly when it clears CoolBoost. -/
theorem prepare_sameControl_iff :
    SameControl daemon (fanCommandPrepareDaemonControl cfg daemon).1 ↔
      daemon.coolboostEnabled = false := by
  constructor
  · intro same
    cases enabled : daemon.coolboostEnabled with
    | false => rfl
    | true =>
        have flag := same.coolboostEnabled
        simp [fanCommandPrepareDaemonControl, disableCoolboostIfNeeded, enabled] at flag
  · intro disabled
    simp only [fanCommandPrepareDaemonControl, disableCoolboostIfNeeded, disabled, if_true]
    exact ⟨rfl, rfl, disabled.symm, rfl, fun _ => rfl, rfl⟩

end Prepare

/-! ## Setting fans -/

section SetOne

variable {cfg : AnsConfig} {bank : FanBank} {id : CString}

theorem selectedFans_succ (cfg : AnsConfig) (id : CString) (count : Nat) :
    selectedFans cfg id (count + 1) =
      selectedFans cfg id count + if SelectsFan cfg id count then 1 else 0 := by
  rw [selectedFans, countP_range_succ, selectedFans]
  simp only [decide_eq_true_eq]

/--
`set` counts a change exactly when one of its writes works, and without a
change it keeps every request.
-/
theorem setOne_changed (valid : cfg.Valid) (percent : Int) :
    ((setOne cfg bank id percent).2 ≠ 0 ↔
      ∃ place < selectedFans cfg id cfg.fanLen,
        bank.ec.writeFails (bank.ec.writes.length + place) = false) ∧
    ((setOne cfg bank id percent).2 = 0 → ∀ i,
      ((setOne cfg bank id percent).1.states i).requestedPercent =
        (bank.states i).requestedPercent) := by
  unfold setOne
  dsimp only
  refine (loop_invariant
    (fun count (acc : FanBank × Nat) =>
      MakesWrites (selectedFans cfg id count) bank.ec acc.1.ec ∧
      (acc.2 ≠ 0 ↔ ∃ place < selectedFans cfg id count,
        bank.ec.writeFails (bank.ec.writes.length + place) = false) ∧
      (acc.2 = 0 → ∀ i,
        (acc.1.states i).requestedPercent = (bank.states i).requestedPercent))
    ?_ ?_).2
  · exact ⟨MakesWrites.refl _, by simp [selectedFans], fun _ _ => rfl⟩
  · rintro i ⟨later, changed⟩ below ⟨made, counted, kept⟩
    rw [selectedFans_succ]
    by_cases selects : SelectsFan cfg id i
    · have here : id = "all".toList ∨ (cfg.fan i).id = id := selects
      rw [if_pos selects, Nat.exists_lt_succ_right]
      rw [if_pos here]
      have write := setFanPercent_nonneg_iff valid below later percent
        (globalSafetyReason cfg bank.states)
      rw [made.nextWriteOk, Bool.not_eq_true'] at write
      refine ⟨made.trans (setFanPercent_makesWrites i _ _), ?_, fun unchanged => ?_⟩
      · rw [← write, ← counted]
        dsimp only
        split <;> omega
      · have failed : ¬ (setFanPercent cfg later i percent
            (globalSafetyReason cfg bank.states)).2 ≥ 0 := by
          intro works
          rw [if_pos works] at unchanged
          omega
        rw [if_neg failed] at unchanged
        intro j
        refine (setFanPercent_requested_of_failed i percent _ ?_ j).trans (kept unchanged j)
        rw [made.nextWriteOk, Bool.not_eq_false']
        exact Bool.eq_true_of_not_eq_false fun works => failed (write.mpr works)
    · have other : ¬ (id = "all".toList ∨ (cfg.fan i).id = id) := selects
      rw [if_neg selects, if_neg other, Nat.add_zero]
      exact ⟨made, counted, kept⟩

end SetOne

/-! ## Which requests reject cleanly -/

/-- A fan command takes the fans over, or has no CoolBoost to disable first. -/
def TakesOver (cfg : AnsConfig) (daemon : Daemon) : Prop :=
  SwitchWorks cfg daemon ∨ daemon.coolboostEnabled = false

/-- Fans already set by hand, without CoolBoost. -/
def SetByHand (daemon : Daemon) : Prop :=
  daemon.autoMode = false ∧ daemon.preset = "manual".toList ∧ daemon.coolboostEnabled = false

/-- The states in which a request keeps the control state when it is rejected. -/
def RejectsCleanly (cfg : AnsConfig) (daemon : Daemon) : Option Request → Prop
  | some (.set fan _ _) =>
      TakesOver cfg daemon ∧
        (SwitchWorks cfg daemon → SomeFanTakesSpeed cfg daemon fan ∨ SetByHand daemon)
  | some (.preset name _) => configFindPreset cfg name = none ∨ TakesOver cfg daemon
  | some .auto => TakesOver cfg daemon
  | some (.powerSourceAuto true) =>
      powerSourceProfileFor cfg (readPowerSource daemon.host.powerSupplies) = none ∨
        daemon.ec.nextWriteOk = true ∨ daemon.runtime.powerSourceAutoApply = true
  | _ => True

section Rejection

variable {cfg : AnsConfig} {daemon : Daemon}

theorem SameControl.refl (daemon : Daemon) : SameControl daemon daemon :=
  ⟨rfl, rfl, rfl, rfl, fun _ => rfl, rfl⟩

/-- Only the EC differs. -/
theorem SameControl.of_ec (daemon : Daemon) (ec : EcDevice) :
    SameControl daemon { daemon with ec := ec } :=
  ⟨rfl, rfl, rfl, rfl, fun _ => rfl, rfl⟩

theorem OnlyInspected.sameControl {after : Daemon} (inspected : OnlyInspected daemon after) :
    SameControl daemon after := by
  rw [inspected.rest]
  exact SameControl.of_ec daemon _

theorem isError_fanModeWriteFailed : IsError fanModeWriteFailed :=
  isError_controlReply (by decide) (by decide)

/-- A command that succeeds once the fans are taken over. -/
theorem takesOver_iff {result : Daemon × CString}
    (failed : (fanCommandPrepareDaemonControl cfg daemon).2 = false →
      result = ((fanCommandPrepareDaemonControl cfg daemon).1, fanModeWriteFailed))
    (succeeds : (fanCommandPrepareDaemonControl cfg daemon).2 = true → ¬ IsError result.2) :
    RejectionKeepsControl daemon result ↔ TakesOver cfg daemon := by
  rw [TakesOver, ← prepare_ok_iff]
  cases ready : (fanCommandPrepareDaemonControl cfg daemon).2 with
  | true =>
      exact ⟨fun _ => Or.inl rfl, fun _ error => absurd error (succeeds ready)⟩
  | false =>
      rw [failed ready, RejectionKeepsControl, prepare_sameControl_iff]
      constructor
      · exact fun keeps => Or.inr (keeps isError_fanModeWriteFailed)
      · rintro (works | disabled) _
        · cases works
        · exact disabled

theorem startAuto_keeps_iff :
    RejectionKeepsControl daemon (startAuto cfg daemon) ↔ TakesOver cfg daemon := by
  refine takesOver_iff (fun failed => ?_) fun works => ?_
  · rw [startAuto, if_pos failed]
  · have ready : ¬ (fanCommandPrepareDaemonControl cfg daemon).2 = false := by simp [works]
    rw [startAuto, if_neg ready]
    dsimp only
    exact not_isError_of_head 'm' rfl (by decide)

theorem usePreset_keeps_iff (name : CString) :
    RejectionKeepsControl daemon (usePreset cfg daemon name) ↔
      configFindPreset cfg name = none ∨ TakesOver cfg daemon := by
  unfold usePreset
  cases found : configFindPreset cfg name with
  | none => exact ⟨fun _ => Or.inl rfl, fun _ _ => SameControl.refl daemon⟩
  | some preset =>
      dsimp only
      refine (takesOver_iff (fun failed => ?_) fun works => ?_).trans
        ⟨Or.inr, fun either => either.resolve_left (by simp)⟩
      · rw [if_pos failed]
      · have ready : ¬ (fanCommandPrepareDaemonControl cfg daemon).2 = false := by simp [works]
        rw [if_neg ready]
        exact not_isError_of_head 'm' rfl (by decide)

/-- A `set` command without a working write has still switched to manual mode. -/
theorem setFan_unchanged_iff (valid : cfg.Valid) {fan : CString} {percent : Int}
    (none : (setOne cfg (fanCommandPrepareDaemonControl cfg daemon).1.toFanBank fan percent).2 = 0) :
    SameControl daemon
        { fanCommandSetControlMode (fanCommandPrepareDaemonControl cfg daemon).1 false
            "manual".toList with
          toFanBank := (setOne cfg (fanCommandPrepareDaemonControl cfg daemon).1.toFanBank fan
            percent).1 } ↔ SetByHand daemon := by
  constructor
  · intro same
    have cleared : (fanCommandPrepareDaemonControl cfg daemon).1.coolboostEnabled = false := by
      unfold fanCommandPrepareDaemonControl disableCoolboostIfNeeded
      dsimp only
      split
      · assumption
      · rfl
    exact ⟨same.autoMode.symm, same.preset.symm, same.coolboostEnabled.symm.trans cleared⟩
  · rintro ⟨manualMode, manual, disabled⟩
    have prepared := (@prepare_sameControl_iff cfg _).mpr disabled
    have kept := (setOne_changed valid percent).2 none
    exact ⟨manualMode.symm, manual.symm, prepared.coolboostEnabled, prepared.runtime,
      fun i => (kept i).trans (prepared.requested i), prepared.savedState⟩

theorem unknownFan_isError {fan : CString} (short : fan.length < 32) :
    IsError (controlReply ["error unknown fan: ".toList, fan, "\n".toList].flatten) := by
  refine isError_controlReply ⟨" unknown fan: ".toList ++ [fan, "\n".toList].flatten, rfl⟩ ?_
  have text : "error unknown fan: ".toList.length = 19 := rfl
  have line : "\n".toList.length = 1 := rfl
  simp only [List.flatten_cons, List.flatten_nil, List.append_nil, List.length_append, text, line]
  omega

theorem someFanTakesSpeed_iff (valid : cfg.Valid) (works : SwitchWorks cfg daemon)
    (fan : CString) (percent : Int) :
    (setOne cfg (fanCommandPrepareDaemonControl cfg daemon).1.toFanBank fan percent).2 ≠ 0 ↔
      SomeFanTakesSpeed cfg daemon fan := by
  have made := prepare_makesWrites works
  refine (setOne_changed valid percent).1.trans ?_
  rw [made.writeFails, made.length, ← Nat.add_assoc]
  exact Iff.rfl

/-- `set` is refused unless both writes of the switch and one speed write work. -/
theorem setFan_accepted_iff (valid : cfg.Valid) {fan : CString} (short : fan.length < 32)
    (percent : Int) :
    ¬ IsError (setFan cfg daemon fan percent).2 ↔
      SwitchWorks cfg daemon ∧ SomeFanTakesSpeed cfg daemon fan := by
  cases ready : (fanCommandPrepareDaemonControl cfg daemon).2 with
  | false =>
      rw [setFan, if_pos ready]
      refine ⟨fun accepted => absurd isError_fanModeWriteFailed accepted, fun works => ?_⟩
      rw [← prepare_ok_iff, ready] at works
      exact absurd works.1 Bool.false_ne_true
  | true =>
      have works := prepare_ok_iff.mp ready
      have switched : ¬ (fanCommandPrepareDaemonControl cfg daemon).2 = false := by simp [ready]
      have takes := someFanTakesSpeed_iff valid works fan percent
      rw [setFan, if_neg switched]
      dsimp only
      split
      · rename_i none
        exact ⟨fun accepted => absurd (unknownFan_isError short) accepted,
          fun some => absurd none (takes.mpr some.2)⟩
      · rename_i changed
        exact ⟨fun _ => ⟨works, takes.mp changed⟩,
          fun _ => not_isError_of_head 'm' rfl (by decide)⟩

theorem setFan_keeps_iff (valid : cfg.Valid) {fan : CString} (short : fan.length < 32)
    (percent : Int) :
    RejectionKeepsControl daemon (setFan cfg daemon fan percent) ↔
      TakesOver cfg daemon ∧
        (SwitchWorks cfg daemon → SomeFanTakesSpeed cfg daemon fan ∨ SetByHand daemon) := by
  have accepted := @setFan_accepted_iff cfg daemon valid fan short percent
  by_cases takes : SwitchWorks cfg daemon ∧ SomeFanTakesSpeed cfg daemon fan
  · refine ⟨fun _ => ⟨Or.inl takes.1, fun _ => Or.inl takes.2⟩, fun _ error => ?_⟩
    exact absurd error (accepted.mpr takes)
  · have error : IsError (setFan cfg daemon fan percent).2 := not_not.mp (mt accepted.mp takes)
    rw [RejectionKeepsControl, forall_prop_of_true error]
    cases ready : (fanCommandPrepareDaemonControl cfg daemon).2 with
    | false =>
        have broken : ¬ SwitchWorks cfg daemon := by
          rw [← prepare_ok_iff, ready]
          decide
        rw [setFan, if_pos ready, prepare_sameControl_iff]
        constructor
        · exact fun byHand => ⟨Or.inr byHand, fun works => absurd works broken⟩
        · exact fun clean => clean.1.resolve_left broken
    | true =>
        have works := prepare_ok_iff.mp ready
        have switched : ¬ (fanCommandPrepareDaemonControl cfg daemon).2 = false := by simp [ready]
        have noFan : ¬ SomeFanTakesSpeed cfg daemon fan := fun some => takes ⟨works, some⟩
        have none : (setOne cfg (fanCommandSetControlMode
            (fanCommandPrepareDaemonControl cfg daemon).1 false "manual".toList).toFanBank fan
              percent).2 = 0 :=
          not_not.mp (mt (someFanTakesSpeed_iff valid works fan percent).mp noFan)
        rw [setFan, if_neg switched]
        dsimp only
        rw [if_pos none]
        refine (setFan_unchanged_iff valid none).trans ?_
        exact ⟨fun byHand => ⟨Or.inl works, fun _ => Or.inr byHand⟩,
          fun clean => (clean.2 works).resolve_left noFan⟩

theorem isError_powerSourceWriteFailed : IsError powerSourceWriteFailed :=
  isError_controlReply (by decide) (by decide)

theorem powerSourceAutoWrite_failed_iff (valid : cfg.Valid) {enabled : Bool} :
    (powerSourceAutoWrite cfg daemon enabled).2 = false ↔
      enabled = true ∧
        powerSourceProfileFor cfg (readPowerSource daemon.host.powerSupplies) ≠ none ∧
          daemon.ec.nextWriteOk = false := by
  unfold powerSourceAutoWrite
  dsimp only
  cases target : powerSourceProfileFor cfg (readPowerSource daemon.host.powerSupplies) with
  | none => simp
  | some profile =>
      have ok := applyPowerSourceProfile_ok valid daemon.ec target
      cases enabled <;> simp [ok]

/-- `power-source auto on` sets its flag before the profile is written. -/
theorem setPowerSourceAuto_keeps_iff (valid : cfg.Valid) (enabled : Bool) :
    RejectionKeepsControl daemon (setPowerSourceAuto cfg daemon enabled) ↔
      (enabled = true →
        powerSourceProfileFor cfg (readPowerSource daemon.host.powerSupplies) = none ∨
          daemon.ec.nextWriteOk = true ∨ daemon.runtime.powerSourceAutoApply = true) := by
  have failed_iff := @powerSourceAutoWrite_failed_iff cfg daemon valid enabled
  unfold RejectionKeepsControl setPowerSourceAuto
  dsimp only
  split
  · rename_i failed
    obtain ⟨on, policy, broken⟩ := failed_iff.mp failed
    rw [on]
    constructor
    · intro keeps _
      have same := (keeps isError_powerSourceWriteFailed).runtime
      exact Or.inr (Or.inr (congrArg RuntimeState.powerSourceAutoApply same).symm)
    · intro clean _
      have flag : daemon.runtime.powerSourceAutoApply = true := by
        rcases clean rfl with noPolicy | works | flag
        · exact absurd noPolicy policy
        · rw [broken] at works
          cases works
        · exact flag
      refine ⟨rfl, rfl, rfl, ?_, fun _ => rfl, rfl⟩
      change { daemon.runtime with powerSourceAutoApply := true } = daemon.runtime
      rw [← flag]
  · rename_i works
    refine ⟨fun _ on => ?_, fun _ error => absurd error (not_isError_of_head 'p' rfl (by decide))⟩
    by_contra unclean
    simp only [not_or, Bool.not_eq_true] at unclean
    exact works (failed_iff.mpr ⟨on, unclean.1, unclean.2.1⟩)

/-! ## Requests that always reject cleanly -/

theorem startFirmwareAuto_keeps : RejectionKeepsControl daemon (startFirmwareAuto cfg daemon) := by
  unfold RejectionKeepsControl startFirmwareAuto
  dsimp only
  split
  · exact fun _ => SameControl.refl daemon
  · split
    · exact fun _ => SameControl.of_ec daemon _
    · intro error
      dsimp only at error
      exact absurd error (not_isError_of_head 'm' rfl (by decide))

theorem useFanMode_keeps (mode : FanMode) :
    RejectionKeepsControl daemon (useFanMode cfg daemon mode) := by
  unfold RejectionKeepsControl useFanMode
  dsimp only
  split
  · exact fun _ => SameControl.refl daemon
  · split
    · exact fun _ => SameControl.of_ec daemon _
    · exact fun error => absurd error (not_isError_of_head 'f' rfl (by decide))

/-- A failed CoolBoost switch has changed the EC only. -/
theorem switchCoolboost_failed {enabled : Bool}
    (failed : (switchCoolboost cfg daemon enabled).2 = false) :
    (switchCoolboost cfg daemon enabled).1.states = daemon.states := by
  unfold switchCoolboost at failed ⊢
  split
  · unfold applyCoolboost
    split <;> rfl
  · split
    · rfl
    · rename_i off daemonMode
      rw [if_neg off, if_neg daemonMode] at failed
      unfold applyCoolboost at failed ⊢
      split
      · rfl
      · rename_i available
        rw [if_neg available, if_neg Bool.false_ne_true] at failed
        rw [if_neg Bool.false_ne_true]
        dsimp only at failed ⊢
        split
        · rfl
        · rename_i works
          rw [if_neg works] at failed
          cases failed

theorem setCoolboost_keeps (enabled : Bool) :
    RejectionKeepsControl daemon (setCoolboost cfg daemon enabled) := by
  unfold RejectionKeepsControl setCoolboost
  dsimp only
  split
  · exact fun _ => SameControl.refl daemon
  · split
    · rename_i failed
      have states := switchCoolboost_failed failed
      exact fun _ => ⟨rfl, rfl, rfl, rfl, fun i => by rw [states], rfl⟩
    · exact fun error => absurd error (not_isError_of_head 'c' rfl (by decide))

theorem useProfile_keeps (name : CString) :
    RejectionKeepsControl daemon (useProfile cfg daemon name) := by
  unfold RejectionKeepsControl useProfile
  dsimp only
  split
  · exact fun _ => SameControl.refl daemon
  · split
    · exact fun _ => SameControl.refl daemon
    · split
      · exact fun _ => SameControl.of_ec daemon _
      · exact fun error => absurd error (not_isError_of_head 'p' rfl (by decide))

theorem usePowerSourceProfile_keeps :
    RejectionKeepsControl daemon (usePowerSourceProfile cfg daemon) := by
  unfold RejectionKeepsControl usePowerSourceProfile
  dsimp only
  split
  · exact fun _ => SameControl.refl daemon
  · split
    · exact fun _ => SameControl.of_ec daemon _
    · exact fun error => absurd error (not_isError_of_head 'p' rfl (by decide))

theorem setGpuTempPolicy_keeps (policy : CString) :
    RejectionKeepsControl daemon (setGpuTempPolicy daemon policy) := by
  unfold RejectionKeepsControl setGpuTempPolicy
  dsimp only
  split
  · exact fun _ => ⟨rfl, rfl, rfl, rfl, fun _ => rfl, rfl⟩
  · exact fun error => absurd error (not_isError_of_head 'g' rfl (by decide))

theorem setKeyboardBacklight_keeps (percent : Int) :
    RejectionKeepsControl daemon (setKeyboardBacklight cfg daemon percent) := by
  unfold RejectionKeepsControl setKeyboardBacklight
  dsimp only
  split
  · exact fun _ => SameControl.refl daemon
  · split
    · exact fun _ => SameControl.of_ec daemon _
    · exact fun error => absurd error (not_isError_of_head 'k' rfl (by decide))

theorem keyboardTimeout_keeps (enabled : Bool) :
    RejectionKeepsControl daemon ((Request.keyboardTimeout enabled).perform cfg daemon) := by
  unfold RejectionKeepsControl Request.perform setKeyboardBacklightTimeout
  dsimp only
  split
  · exact fun _ => SameControl.refl daemon
  · exact fun error => absurd error (not_isError_of_head 'k' rfl (by decide))

/-- When a request keeps the control state if it is rejected. -/
theorem request_keeps_iff (valid : cfg.Valid) (request : Request) :
    RejectionKeepsControl daemon (request.perform cfg daemon) ↔
      RejectsCleanly cfg daemon (some request) := by
  cases request with
  | set fan percent accepted => exact setFan_keeps_iff valid accepted.1 percent
  | preset name _ => exact usePreset_keeps_iff name
  | auto => exact startAuto_keeps_iff
  | firmwareAuto => exact ⟨fun _ => trivial, fun _ => startFirmwareAuto_keeps⟩
  | fanMode mode => exact ⟨fun _ => trivial, fun _ => useFanMode_keeps mode⟩
  | coolboost enabled => exact ⟨fun _ => trivial, fun _ => setCoolboost_keeps enabled⟩
  | profile name => exact ⟨fun _ => trivial, fun _ => useProfile_keeps name⟩
  | powerSourceApply => exact ⟨fun _ => trivial, fun _ => usePowerSourceProfile_keeps⟩
  | powerSourceAuto enabled =>
      unfold Request.perform
      dsimp only
      split
      · rename_i unavailable
        have noProfile : powerSourceProfileFor cfg
            (readPowerSource daemon.host.powerSupplies) = none := by
          unfold powerSourceProfileFor
          exact if_pos unavailable
        refine ⟨fun _ => ?_, fun _ _ => SameControl.refl daemon⟩
        cases enabled with
        | false => exact trivial
        | true => exact Or.inl noProfile
      · refine (setPowerSourceAuto_keeps_iff valid enabled).trans ?_
        cases enabled with
        | false => exact ⟨fun _ => trivial, fun _ off => nomatch off⟩
        | true => exact ⟨fun clean => clean rfl, fun clean _ => clean⟩
  | gpuTemp policy => exact ⟨fun _ => trivial, fun _ => setGpuTempPolicy_keeps policy⟩
  | keyboardSet percent => exact ⟨fun _ => trivial, fun _ => setKeyboardBacklight_keeps percent⟩
  | keyboardTimeout enabled => exact ⟨fun _ => trivial, fun _ => keyboardTimeout_keeps enabled⟩
  | resume =>
      refine ⟨fun _ => trivial, fun _ error => ?_⟩
      exact absurd error (not_isError_of_head 'r' rfl (by decide))
  | stop =>
      refine ⟨fun _ => trivial, fun _ error => ?_⟩
      dsimp only [Request.perform, NitroSense.stop] at error
      exact absurd error (not_isError_of_head 's' rfl (by decide))

/-- A rejected line of an authorised client keeps the control state exactly in these states. -/
theorem rejectionKeepsControl_iff (valid : cfg.Valid) (daemon : Daemon) (cmd : CString) :
    RejectionKeepsControl daemon (executeCommand cfg daemon cmd true) ↔
      RejectsCleanly cfg daemon (commandRequest cmd) := by
  have performs := executeCommand_performs cfg daemon cmd
  cases requested : commandRequest cmd with
  | none =>
      rw [requested] at performs
      exact ⟨fun _ => trivial, fun _ _ => OnlyInspected.sameControl performs⟩
  | some request =>
      rw [requested] at performs
      have result : executeCommand cfg daemon cmd true = request.perform cfg daemon := performs
      rw [result]
      exact request_keeps_iff valid request

end Rejection

theorem rejectionKeepsControl_held :
    RejectionKeepsControl (heldDaemon false "manual".toList)
        (executeCommand AcerNitroAn517.config (heldDaemon false "manual".toList)
          "set exhaust 40".toList true) ↔
      RejectsCleanly AcerNitroAn517.config (heldDaemon false "manual".toList)
        (commandRequest "set exhaust 40".toList) :=
  rejectionKeepsControl_iff AcerNitroAn517.config_valid _ _

/-- Setting a fan the profile does not have ends automatic control. -/
theorem rejectionKeepsControl_fails :
    ¬ ∀ (cfg : AnsConfig) (daemon : Daemon) (cmd : CString), cfg.Valid →
      RejectionKeepsControl daemon (executeCommand cfg daemon cmd true) := by
  intro keeps
  have same := keeps AcerNitroAn517.config (heldDaemon true "auto".toList) "set exhaust 40".toList
    AcerNitroAn517.config_valid (by decide)
  exact absurd same.autoMode (by decide)

end NitroSense
