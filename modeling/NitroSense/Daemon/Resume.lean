import NitroSense.Daemon.ModeRegisters

/-!
# What a resume restores

A suspend leaves the EC registers in any state.  `resume` repeats the initial
writes of the profile and then, in firmware-auto, switches the fan modes, or
else writes the speeds of all fans.  It never looks at CoolBoost, so which
modes it ends in depends on the registers these writes touch.
-/

namespace NitroSense

open Lib EcDevice

def AnsConfig.initUpdates (cfg : AnsConfig) : List (Int × Int) :=
  cfg.initWrites.map fun write => (write.reg, write.value)

def AnsConfig.modeUpdates (cfg : AnsConfig) (mode : FanMode) : List (Int × Int) :=
  [(cfg.fanModes.cpuReg, cfg.fanModes.cpuValue mode),
    (cfg.fanModes.gpuReg, cfg.fanModes.gpuValue mode)]

/-- The speed `apply_current_control_state` decides for fan `i`. -/
def reappliedSpeed (cfg : AnsConfig) (states : FanStates) (i : Nat) : Int :=
  (fanSafetyAdjustPercent cfg (cfg.fan i) (states i) (states i).statusRequestedPercent
    (globalSafetyReason cfg states)).1

def reappliedValue (cfg : AnsConfig) (states : FanStates) (i : Nat) : Int :=
  clampInt (reappliedSpeed cfg states i) (cfg.fan i).writeMin (cfg.fan i).writeMax

/-- The writes of `apply_current_control_state` after `count` fans. -/
def reappliedUpdates (cfg : AnsConfig) (states : FanStates) (count : Nat) : List (Int × Int) :=
  (List.range count).map fun i => ((cfg.fan i).writeRegister, reappliedValue cfg states i)

def lastFanAt (cfg : AnsConfig) (reg : Int) : Option Nat :=
  lastUpdate ((List.range cfg.fanLen).map fun i => ((cfg.fan i).writeRegister, i)) reg

section Writes

variable {cfg : AnsConfig}

theorem applyInitWrites_eq (ec : EcDevice) (cfg : AnsConfig) :
    applyInitWrites ec cfg = ecWriteAll ec cfg.initUpdates := by
  rw [applyInitWrites, ecWriteAll, AnsConfig.initUpdates, List.foldl_map]

/-- The rounds write every fan's own decision, whatever the fans before it did. -/
theorem applyCurrentControlState_spec (cfg : AnsConfig) (bank : FanBank) :
    (applyCurrentControlState cfg bank).ec =
        ecWriteAll bank.ec (reappliedUpdates cfg bank.states cfg.fanLen) ∧
      (bank.ec.NextWritesOk cfg.fanLen → ∀ i < cfg.fanLen,
        ((applyCurrentControlState cfg bank).states i).percent =
          reappliedSpeed cfg bank.states i) := by
  suffices rounds :
      ((applyCurrentControlState cfg bank).ec =
        ecWriteAll bank.ec (reappliedUpdates cfg bank.states cfg.fanLen) ∧
      ∀ i, cfg.fanLen ≤ i → (applyCurrentControlState cfg bank).states i = bank.states i) ∧
      (bank.ec.NextWritesOk cfg.fanLen → ∀ i < cfg.fanLen,
        ((applyCurrentControlState cfg bank).states i).percent =
          reappliedSpeed cfg bank.states i) from ⟨rounds.1.1, rounds.2⟩
  refine loop_invariant (fun count (after : FanBank) =>
    (after.ec = ecWriteAll bank.ec (reappliedUpdates cfg bank.states count) ∧
      ∀ i, count ≤ i → after.states i = bank.states i) ∧
    (bank.ec.NextWritesOk count → ∀ i < count,
      (after.states i).percent = reappliedSpeed cfg bank.states i)) ?_ ?_
  · exact ⟨⟨rfl, fun _ _ => rfl⟩, fun _ i below => absurd below (Nat.not_lt_zero i)⟩
  · rintro i after below ⟨⟨device, untouched⟩, done⟩
    have here : after.states i = bank.states i := untouched i (le_refl i)
    have decision : (setFanDecision cfg after i (after.states i).statusRequestedPercent
        (globalSafetyReason cfg bank.states)).1 = reappliedSpeed cfg bank.states i := by
      rw [setFanDecision, here, reappliedSpeed]
    rw [if_pos rfl]
    refine ⟨⟨?_, fun j later => ?_⟩, fun ok j upTo => ?_⟩
    · have next : reappliedUpdates cfg bank.states (i + 1) =
          reappliedUpdates cfg bank.states i ++
            [((cfg.fan i).writeRegister, reappliedValue cfg bank.states i)] := by
        rw [reappliedUpdates, List.range_succ, List.map_append]
        rfl
      rw [setFanPercent_ec, decision, device, next, ecWriteAll_append]
      rfl
    · rw [setFanPercent_state_ne cfg after i _ _ (by omega)]
      exact untouched j (by omega)
    · by_cases last : j = i
      · have made : MakesWrites i bank.ec after.ec := by
          have all := ecWriteAll_makesWrites bank.ec (reappliedUpdates cfg bank.states i)
          rw [← device] at all
          simpa [reappliedUpdates] using all
        rw [last, setFanPercent_state_self, (ok.after made).nextWriteOk]
        exact decision
      · rw [setFanPercent_state_ne cfg after i _ _ last]
        exact done (fun index less => ok index (by omega)) j (by omega)

/-- The value of a register after the reapplied speeds comes from the last fan driven through it. -/
theorem lastUpdate_reapplied (cfg : AnsConfig) (states : FanStates) (reg : Int) :
    lastUpdate (reappliedUpdates cfg states cfg.fanLen) reg =
      (lastFanAt cfg reg).map (reappliedValue cfg states) :=
  lastUpdate_map _ _ _ _

theorem initUpdates_bytes (valid : cfg.Valid) :
    ∀ update ∈ cfg.initUpdates, clampInt update.2 0 255 = update.2 := by
  intro update member
  obtain ⟨write, configured, rfl⟩ := List.mem_map.mp member
  exact clampInt_of_byte (valid.initWrites write configured).2.1

/-- What is written for a speed is a byte. -/
theorem writtenSpeed_byte {i : Nat} (valid : cfg.Valid) (below : i < cfg.fanLen) (speed : Int) :
    clampInt (clampInt speed (cfg.fan i).writeMin (cfg.fan i).writeMax) 0 255 =
      clampInt speed (cfg.fan i).writeMin (cfg.fan i).writeMax := by
  have fan := valid.fan below
  have range : (cfg.fan i).writeMin ≤ (cfg.fan i).writeMax := le_of_lt fan.writeRange
  refine clampInt_of_byte ⟨le_trans fan.writeMin (le_clamp range _), ?_⟩
  exact le_trans (clamp_le range _) (le_trans fan.writeMax (by decide))

theorem modeUpdates_bytes (valid : cfg.Valid) (mode : FanMode) :
    ∀ update ∈ cfg.modeUpdates mode, clampInt update.2 0 255 = update.2 := by
  intro update member
  rcases List.mem_cons.mp member with rfl | rest
  · exact clampInt_of_byte (valid.fanModes.cpuValue mode)
  · rw [List.mem_singleton.mp rest]
    exact clampInt_of_byte (valid.fanModes.gpuValue mode)

theorem reappliedUpdates_bytes (valid : cfg.Valid) (states : FanStates) :
    ∀ update ∈ reappliedUpdates cfg states cfg.fanLen, clampInt update.2 0 255 = update.2 := by
  intro update member
  obtain ⟨i, below, rfl⟩ := List.mem_map.mp member
  exact writtenSpeed_byte valid (List.mem_range.mp below) _

end Writes

/-! ## What a resume leaves in the registers -/

/--
Outside firmware-auto a resume leaves `value` in the register: the last fan
driven through it gets this speed; without such a fan the last initial write to
the register has this value; without any write the suspend left it there.
-/
def ReappliedTo (cfg : AnsConfig) (control : FanControl) (reg value : Int) : Prop :=
  value =
    match lastFanAt cfg reg, lastUpdate cfg.initUpdates reg with
    | some i, _ => reappliedValue cfg control.states i
    | none, some written => written
    | none, none => control.ec.byte reg

instance (cfg : AnsConfig) (control : FanControl) (reg value : Int) :
    Decidable (ReappliedTo cfg control reg value) :=
  inferInstanceAs (Decidable (_ = _))

/-- The automatic values in the fan-mode registers are also those of `mode`. -/
def AutoValuesShow (cfg : AnsConfig) (mode : FanMode) : Prop :=
  cfg.fanModes.gpuValue mode = cfg.fanModes.gpuValue .auto ∧
    cfg.fanModes.cpuValue mode =
      if cfg.fanModes.cpuReg = cfg.fanModes.gpuReg then cfg.fanModes.gpuValue .auto
      else cfg.fanModes.cpuValue .auto

/--
In firmware-auto the reported mode shares the automatic values.  Otherwise the
initial writes and the speeds leave the mode registers at the reported mode,
and every fan's speed fits into its register.
-/
def ResumeFits (cfg : AnsConfig) (control : FanControl) : Prop :=
  if control.firmwareAuto then AutoValuesShow cfg control.reportedMode
  else
    ReappliedTo cfg control cfg.fanModes.cpuReg (cfg.fanModes.cpuValue control.reportedMode) ∧
      ReappliedTo cfg control cfg.fanModes.gpuReg (cfg.fanModes.gpuValue control.reportedMode) ∧
      ∀ i < cfg.fanLen,
        ReappliedTo cfg control (cfg.fan i).writeRegister (reappliedSpeed cfg control.states i)

/-- After a resume the EC holds the state the daemon reports. -/
def ResumeReestablishes (cfg : AnsConfig) (daemon : Daemon) : Prop :=
  let after := (resume cfg daemon).1
  FanModesAt after.ec cfg after.fanControl.reportedMode ∧
    (after.fanControl.firmwareAuto = false → ∀ i < cfg.fanLen,
      after.ec.byte (cfg.fan i).writeRegister = (after.states i).percent)

section Resume

variable {cfg : AnsConfig} {daemon : Daemon}

theorem resume_reportedMode (cfg : AnsConfig) (daemon : Daemon) :
    (resume cfg daemon).1.fanControl.reportedMode = daemon.fanControl.reportedMode := by
  rw [resume_fanControl]
  rfl

theorem resume_firmwareAuto (cfg : AnsConfig) (daemon : Daemon) :
    (resume cfg daemon).1.fanControl.firmwareAuto = daemon.fanControl.firmwareAuto := by
  rw [resume_fanControl]
  rfl

theorem resume_bank (cfg : AnsConfig) (daemon : Daemon) :
    (resume cfg daemon).1.toFanBank = daemon.fanControl.resumedBank cfg :=
  congrArg FanControl.toFanBank (resume_fanControl cfg daemon)

/-- A mode switch whose writes all work writes both registers. -/
theorem applyFanMode_eq_writeAll {ec : EcDevice} {mode : FanMode}
    (available : cfg.fanModes.available = true)
    (worked : WritesWorked ec (applyFanMode ec cfg mode).1) :
    (applyFanMode ec cfg mode).1 = ecWriteAll ec (cfg.modeUpdates mode) := by
  have first : ec.nextWriteOk = true := by
    by_contra failed
    rw [applyFanMode_available available, if_neg failed] at worked
    have ok := (ecWriteByte_makesWrites ec _ _).nextWritesOk worked
    exact failed ok.nextWriteOk
  rw [applyFanMode_available available, if_pos first]
  rfl

/-- The two automatic values show `mode` exactly when they are also those of `mode`. -/
theorem writeAll_auto_modes {ec : EcDevice} (valid : cfg.Valid)
    (ok : ec.NextWritesOk (cfg.modeUpdates .auto).length) (mode : FanMode) :
    FanModesAt (ecWriteAll ec (cfg.modeUpdates .auto)) cfg mode ↔ AutoValuesShow cfg mode := by
  have bytes := modeUpdates_bytes valid .auto
  rw [FanModesAt, AutoValuesShow, ecWriteAll_byte ok bytes, ecWriteAll_byte ok bytes]
  by_cases shared : cfg.fanModes.cpuReg = cfg.fanModes.gpuReg
  · simp [AnsConfig.modeUpdates, lastUpdate, shared, and_comm, eq_comm]
  · have apart : ¬ cfg.fanModes.gpuReg = cfg.fanModes.cpuReg := fun same => shared same.symm
    simp [AnsConfig.modeUpdates, lastUpdate, shared, apart, and_comm, eq_comm]

/-- In firmware-auto a resume ends with the automatic values in the mode registers. -/
theorem resume_firmware_modes (valid : cfg.Valid) (available : cfg.fanModes.available = true)
    (firmware : daemon.fanControl.firmwareAuto = true)
    (worked : WritesWorked daemon.ec (resume cfg daemon).1.ec) (mode : FanMode) :
    FanModesAt (resume cfg daemon).1.ec cfg mode ↔ AutoValuesShow cfg mode := by
  have device : (resume cfg daemon).1.ec =
      (applyFanMode (applyInitWrites daemon.ec cfg) cfg .auto).1 := by
    rw [resume_bank, FanControl.resumedBank, if_pos firmware]
    rfl
  rw [applyInitWrites_eq] at device
  rw [device] at worked ⊢
  have later := worked.later (ecWriteAll_makesWrites daemon.ec cfg.initUpdates)
  have pair := applyFanMode_eq_writeAll available later
  rw [pair] at later ⊢
  exact writeAll_auto_modes valid ((ecWriteAll_makesWrites _ _).nextWritesOk later) mode

/-- Outside firmware-auto `ReappliedTo` tells what a resume leaves in a register. -/
theorem resume_byte (valid : cfg.Valid) (owned : daemon.fanControl.firmwareAuto = false)
    (worked : WritesWorked daemon.ec (resume cfg daemon).1.ec) (reg value : Int) :
    (resume cfg daemon).1.ec.byte reg = value ↔
      ReappliedTo cfg daemon.fanControl reg value := by
  let updates := cfg.initUpdates ++ reappliedUpdates cfg daemon.states cfg.fanLen
  have device : (resume cfg daemon).1.ec = ecWriteAll daemon.ec updates := by
    have bank := resume_bank cfg daemon
    rw [FanControl.resumedBank, owned, if_neg Bool.false_ne_true] at bank
    rw [bank, (applyCurrentControlState_spec cfg _).1, ecWriteAll_append, ← applyInitWrites_eq]
    rfl
  have bytes : ∀ update ∈ updates, clampInt update.2 0 255 = update.2 := by
    intro update member
    rcases List.mem_append.mp member with init | speed
    · exact initUpdates_bytes valid update init
    · exact reappliedUpdates_bytes valid daemon.states update speed
  rw [device] at worked ⊢
  have ok := (ecWriteAll_makesWrites daemon.ec updates).nextWritesOk worked
  rw [ecWriteAll_byte ok bytes, lastUpdate_append, lastUpdate_reapplied, ReappliedTo]
  cases lastFanAt cfg reg with
  | some i => exact eq_comm
  | none =>
      cases lastUpdate cfg.initUpdates reg with
      | some written => exact eq_comm
      | none => exact eq_comm

/-- Outside firmware-auto a resume records the speeds it decides. -/
theorem resume_percent (owned : daemon.fanControl.firmwareAuto = false)
    (worked : WritesWorked daemon.ec (resume cfg daemon).1.ec) {i : Nat} (below : i < cfg.fanLen) :
    ((resume cfg daemon).1.states i).percent = reappliedSpeed cfg daemon.states i := by
  have bank := resume_bank cfg daemon
  rw [FanControl.resumedBank, owned, if_neg Bool.false_ne_true] at bank
  obtain ⟨device, percents⟩ := applyCurrentControlState_spec cfg
    { daemon.fanControl.toFanBank with ec := applyInitWrites daemon.fanControl.ec cfg }
  rw [← bank] at device percents
  refine percents ?_ i below
  rw [device] at worked
  have init : MakesWrites cfg.initUpdates.length daemon.ec (applyInitWrites daemon.ec cfg) := by
    rw [applyInitWrites_eq]
    exact ecWriteAll_makesWrites _ _
  have made := ecWriteAll_makesWrites (applyInitWrites daemon.ec cfg)
    (reappliedUpdates cfg daemon.states cfg.fanLen)
  have ok := made.nextWritesOk (worked.later init)
  rw [reappliedUpdates, List.length_map, List.length_range] at ok
  exact ok

/-- A resume whose writes work re-establishes the reported state exactly when its writes fit. -/
theorem resumeReestablishes_iff (valid : cfg.Valid) (available : cfg.fanModes.available = true)
    (worked : WritesWorked daemon.ec (resume cfg daemon).1.ec) :
    ResumeReestablishes cfg daemon ↔ ResumeFits cfg daemon.fanControl := by
  rw [ResumeReestablishes, ResumeFits]
  rw [resume_reportedMode, resume_firmwareAuto]
  cases firmware : daemon.fanControl.firmwareAuto with
  | true =>
      rw [if_pos rfl, resume_firmware_modes valid available firmware worked]
      exact ⟨fun both => both.1, fun shows => ⟨shows, fun owned => by cases owned⟩⟩
  | false =>
      rw [if_neg Bool.false_ne_true, FanModesAt, resume_byte valid firmware worked,
        resume_byte valid firmware worked, and_assoc]
      refine and_congr_right fun _ => and_congr_right fun _ => ?_
      constructor
      · intro speeds i below
        refine (resume_byte valid firmware worked _ _).mp ?_
        rw [speeds rfl i below, resume_percent firmware worked below]
        rfl
      · intro fits _ i below
        rw [resume_percent firmware worked below]
        exact (resume_byte valid firmware worked _ _).mpr (fits i below)

end Resume

/-! ## The shipped profile -/

/-- A daemon in manual mode with CoolBoost on. -/
def boostedDaemon : Daemon := { heldDaemon false "manual".toList with coolboostEnabled := true }

theorem writesWorked_of_faultless (daemon : Daemon)
    (faults : daemon.ec.writeFails = fun _ => false) (after : EcDevice) :
    WritesWorked daemon.ec after := by
  intro index _ _
  rw [faults]

/-- With CoolBoost on the initial writes of the shipped profile leave manual mode, not turbo. -/
theorem resumeReestablishes_fails :
    ¬ ∀ (cfg : AnsConfig) (daemon : Daemon), cfg.Valid → cfg.fanModes.available = true →
      WritesWorked daemon.ec (resume cfg daemon).1.ec → ResumeReestablishes cfg daemon := by
  intro claim
  have modes := (claim AcerNitroAn517.config boostedDaemon AcerNitroAn517.config_valid rfl
    (writesWorked_of_faultless _ rfl _)).1
  exact absurd modes (by decide)

/-- Without CoolBoost they leave the mode the daemon reports. -/
theorem resumeReestablishes_manual :
    ResumeReestablishes AcerNitroAn517.config (heldDaemon false "manual".toList) := by
  refine (resumeReestablishes_iff AcerNitroAn517.config_valid rfl
    (writesWorked_of_faultless _ rfl _)).mpr ⟨rfl, rfl, ?_⟩
  decide

end NitroSense
