import NitroSense.Lib.Run
import NitroSense.Models
import NitroSense.Fan.Poll

/-!
# Runs in firmware-auto

While the firmware owns the fans, a poll may take them over for safety and has
to give them back afterwards.  A run is a sequence of polls in firmware-auto;
next to the EC and the fan states it records how many EC writes had been made
when the current override began.
-/

namespace NitroSense

open Lib EcDevice

/-- What a poll gets from outside: the sensors, and the registers the EC itself has changed. -/
structure PollInput where
  sensors : Sensors
  refreshed : Int → Option UInt8 := fun _ => none

/-- A bank in firmware-auto; `override` is the write count at which an override began. -/
structure FirmwareRun where
  bank : FanBank
  override : Option Nat := none

namespace FirmwareRun

variable (cfg : AnsConfig) (run : FirmwareRun) (input : PollInput)

def found : FanBank := { run.bank with ec := run.bank.ec.refresh input.refreshed }

def observed : Observation :=
  refreshFanObservations (run.found input).ec input.sensors cfg run.bank.states

/-- The poll ends an override: some fan was under safety control and no fan has a reason. -/
def EndsOverride : Prop :=
  anySafetyActive cfg run.bank.states = true ∧ ¬ SomeReason cfg false (run.observed cfg input)

instance : Decidable (run.EndsOverride cfg input) := inferInstanceAs (Decidable (_ ∧ _))

/--
One poll in firmware-auto.  The override begins with a poll that finds a reason
and lasts until the fan modes have been written back to automatic.
-/
def step : FirmwareRun where
  bank := updateFanStates (run.found input) input.sensors cfg false firmwareAutoPreset
  override :=
    if SomeReason cfg false (run.observed cfg input) then
      some (run.override.getD run.bank.ec.writes.length)
    else if run.EndsOverride cfg input ∧
        (applyFirmwareAutoFanMode (run.observed cfg input).ec cfg).2 = true then none
    else run.override

end FirmwareRun

section Step

variable {cfg : AnsConfig} {run : FirmwareRun} {input : PollInput}

/-- After a poll the fans with a reason, and only they, are under safety control. -/
theorem step_safetyActive {i : Nat} (below : i < cfg.fanLen) :
    ((run.step cfg input).bank.states i).safetyActive =
      (pollReason cfg false (run.observed cfg input) i).hasValue :=
  updateFans_safetyActive firmwareAuto_mode i below

theorem step_anySafetyActive :
    anySafetyActive cfg (run.step cfg input).bank.states = true ↔
      SomeReason cfg false (run.observed cfg input) := by
  rw [anySafetyActive_iff]
  refine exists_congr fun i => and_congr_right fun below => ?_
  rw [step_safetyActive below]

/-- The EC after a poll: the loop's writes, and the hand-back when an override ends. -/
theorem step_ec : (run.step cfg input).bank.ec =
    if run.EndsOverride cfg input then
      (applyFanMode (run.observed cfg input).ec cfg .auto).1
    else (updateFans cfg false firmwareAutoPreset (run.observed cfg input)).bank.ec :=
  updateFanStates_firmware_ec firmwareAuto_mode

/-- The observation of a poll only reads the EC. -/
theorem observed_onlyRead (cfg : AnsConfig) (run : FirmwareRun) (input : PollInput) :
    OnlyRead (run.found input).ec (run.observed cfg input).ec :=
  refreshFanObservations_onlyRead _ _ _ _

end Step

/-! ## Handing the fans back after an override -/

/-- Both EC writes of a hand-back at this poll succeed. -/
def HandBackSucceeds (cfg : AnsConfig) (run : FirmwareRun) (input : PollInput) : Prop :=
  run.EndsOverride cfg input → run.bank.ec.writeFails run.bank.ec.writes.length = false ∧
    run.bank.ec.writeFails (run.bank.ec.writes.length + 1) = false

/-- Some fan-mode register holds its manual value. -/
def ManualModeLeft (cfg : AnsConfig) (ec : EcDevice) : Prop :=
  ec.byte cfg.fanModes.cpuReg = cfg.fanModes.cpuManualValue ∨
    ec.byte cfg.fanModes.gpuReg = cfg.fanModes.gpuManualValue

/-- The two automatic values fit into the mode registers together. -/
def AutoValuesFit (cfg : AnsConfig) : Prop :=
  cfg.fanModes.cpuReg = cfg.fanModes.gpuReg →
    cfg.fanModes.cpuValue .auto = cfg.fanModes.gpuValue .auto

/--
A poll that ends with no fan under safety control, while a fan-mode register
still held or holds the manual value an override left, has tried to write the
automatic values, and both registers hold them when its EC writes succeeded.
-/
def HandsBack (cfg : AnsConfig) (run : FirmwareRun) (input : PollInput) : Prop :=
  anySafetyActive cfg (run.step cfg input).bank.states = false → run.override.isSome →
    (ManualModeLeft cfg (run.found input).ec ∨ ManualModeLeft cfg (run.step cfg input).bank.ec) →
      (∃ write ∈ writesSince run.bank.ec (run.step cfg input).bank.ec,
        write.reg = cfg.fanModes.cpuReg ∧
          write.value = clampInt cfg.fanModes.cpuAutoValue 0 255) ∧
      (WritesWorked run.bank.ec (run.step cfg input).bank.ec → AutoValuesFit cfg →
        FanModesAt (run.step cfg input).bank.ec cfg .auto)

section HandBack

variable {cfg : AnsConfig} {run : FirmwareRun} {input : PollInput}

/-- While an override lasts, some fan is still marked as under safety control. -/
def OverrideMarked (cfg : AnsConfig) (run : FirmwareRun) : Prop :=
  run.override.isSome → anySafetyActive cfg run.bank.states = true

/-- The hand-back of a poll succeeds when its two writes do. -/
theorem handBack_ok (available : cfg.fanModes.available = true)
    (ends : run.EndsOverride cfg input) (succeeds : HandBackSucceeds cfg run input) :
    (applyFanMode (run.observed cfg input).ec cfg .auto).2 = true := by
  obtain ⟨first, second⟩ := succeeds ends
  have reads := observed_onlyRead cfg run input
  have faults : (run.observed cfg input).ec.writeFails = run.bank.ec.writeFails := reads.writeFails
  have log : (run.observed cfg input).ec.writes = run.bank.ec.writes := reads.writes
  have firstOk : (run.observed cfg input).ec.nextWriteOk = true := by
    rw [EcDevice.nextWriteOk, faults, log, first]
    rfl
  rw [applyFanMode_available available, if_pos firstOk, ecWriteByte_ok, EcDevice.nextWriteOk,
    ecWriteByte_writeFails, ecWriteByte_writes, faults, log, List.length_cons, second]
  rfl

theorem overrideMarked_step (available : cfg.fanModes.available = true)
    (succeeds : HandBackSucceeds cfg run input) (marked : OverrideMarked cfg run) :
    OverrideMarked cfg (run.step cfg input) := by
  intro lasts
  rw [step_anySafetyActive]
  by_contra calm
  have override : (run.step cfg input).override =
      if run.EndsOverride cfg input ∧
          (applyFirmwareAutoFanMode (run.observed cfg input).ec cfg).2 = true then none
      else run.override := if_neg calm
  rw [override] at lasts
  by_cases was : anySafetyActive cfg run.bank.states = true
  · have ok := handBack_ok available ⟨was, calm⟩ succeeds
    rw [← applyFirmwareAutoFanMode_eq] at ok
    rw [if_pos ⟨⟨was, calm⟩, ok⟩] at lasts
    cases lasts
  · rw [if_neg fun both => was both.1.1] at lasts
    exact was (marked lasts)

/-- A poll that ends an override writes the automatic value of the CPU fan first. -/
theorem endsOverride_writes (available : cfg.fanModes.available = true)
    (ends : run.EndsOverride cfg input) :
    ∃ write ∈ writesSince run.bank.ec (run.step cfg input).bank.ec,
      write.reg = cfg.fanModes.cpuReg ∧ write.value = clampInt cfg.fanModes.cpuAutoValue 0 255 := by
  have reads := observed_onlyRead cfg run input
  have log : (run.observed cfg input).ec.writes = run.bank.ec.writes := reads.writes
  have written : ∃ newer, (run.step cfg input).bank.ec.writes = newer ++ run.bank.ec.writes ∧
      ∃ write ∈ newer, write.reg = cfg.fanModes.cpuReg ∧
        write.value = clampInt cfg.fanModes.cpuAutoValue 0 255 := by
    rw [step_ec, if_pos ends, applyFanMode_available available]
    split
    · exact ⟨[_, _], by rw [ecWriteByte_writes, ecWriteByte_writes, log]; rfl,
        _, List.mem_cons_of_mem _ (List.mem_singleton_self _), rfl, rfl⟩
    · exact ⟨[_], by rw [ecWriteByte_writes, log]; rfl, _, List.mem_singleton_self _, rfl, rfl⟩
  obtain ⟨newer, newest, attempt⟩ := written
  rw [writesSince_of_append newest]
  exact attempt

/-- A hand-back that succeeds leaves both mode registers at automatic. -/
theorem endsOverride_modes (valid : cfg.Valid) (available : cfg.fanModes.available = true)
    (fit : AutoValuesFit cfg) (ends : run.EndsOverride cfg input)
    (succeeds : HandBackSucceeds cfg run input) :
    FanModesAt (run.step cfg input).bank.ec cfg .auto := by
  rw [step_ec, if_pos ends]
  exact applyFanMode_success valid.fanModes fit (handBack_ok available ends succeeds)

/-- A poll that finds the override still marked and no reason hands the fans back. -/
theorem handsBack_of_marked (valid : cfg.Valid) (available : cfg.fanModes.available = true)
    (succeeds : HandBackSucceeds cfg run input) (marked : OverrideMarked cfg run) :
    HandsBack cfg run input := by
  intro inactive lasts _
  have calm : ¬ SomeReason cfg false (run.observed cfg input) := by
    rw [← step_anySafetyActive, inactive]
    decide
  have ends : run.EndsOverride cfg input := ⟨marked lasts, calm⟩
  exact ⟨endsOverride_writes available ends,
    fun _ fit => endsOverride_modes valid available fit ends succeeds⟩

/-- While every hand-back succeeds, no poll of a run leaves a finished override behind. -/
theorem handsBack_along {start : FirmwareRun} {inputs : List PollInput} (valid : cfg.Valid)
    (available : cfg.fanModes.available = true) (fresh : start.override = none)
    (succeed : Along (FirmwareRun.step cfg) (HandBackSucceeds cfg) start inputs) :
    Along (FirmwareRun.step cfg) (HandsBack cfg) start inputs := by
  have marked : OverrideMarked cfg start := by
    intro lasts
    rw [fresh] at lasts
    cases lasts
  exact succeed.of_invariant marked
    (fun _ _ succeeds => overrideMarked_step available succeeds)
    (fun _ _ succeeds => handsBack_of_marked valid available succeeds)

end HandBack

/-- Both fans held low at 75 °C, with the shipped profile's modes at automatic. -/
def lowWarmBank (cpuPercent gpuPercent : Int) (writeFails : Nat → Bool) : FanBank where
  ec :=
    { regs := fun reg => if reg = 34 then 4 else if reg = 33 then 16 else 0
      writeFails := writeFails }
  states := fun i =>
    let percent := if i = 0 then cpuPercent else gpuPercent
    { controlTempC := 75
      controlTempSeeded := true
      percent := percent
      requestedPercent := percent }

def pollAt (celsius : Nat) : PollInput where
  sensors := AcerNitroAn517.cpuSensors celsius

/--
The first poll overrides with four EC writes, the second fails to hand the fans
back, and the third does not try again.
-/
theorem handsBack_fails :
    ¬ ∀ (cfg : AnsConfig) (start : FirmwareRun) (inputs : List PollInput), cfg.Valid →
      cfg.fanModes.available = true → start.override = none →
        Along (FirmwareRun.step cfg) (HandsBack cfg) start inputs := by
  intro claim
  have along := claim AcerNitroAn517.config ⟨lowWarmBank 20 20 fun index => index == 4, none⟩
    [pollAt 75, pollAt 50, pollAt 50] AcerNitroAn517.config_valid rfl rfl
  have third := along.2.2.1
  exact absurd (third (by decide) (by decide) (Or.inl (Or.inl (by decide)))).1 (by decide)

/-- With working EC writes the same run hands the fans back. -/
theorem handsBack_reliable :
    Along (FirmwareRun.step AcerNitroAn517.config) (HandsBack AcerNitroAn517.config)
      ⟨lowWarmBank 20 20 fun _ => false, none⟩ [pollAt 75, pollAt 50, pollAt 50] := by
  refine handsBack_along AcerNitroAn517.config_valid rfl rfl ?_
  exact ⟨fun _ => ⟨rfl, rfl⟩, fun _ => ⟨rfl, rfl⟩, fun _ => ⟨rfl, rfl⟩, trivial⟩

/-! ## Which fans are under firmware control -/

def CpuGpuFans (cfg : AnsConfig) : Prop :=
  cfg.fans.map FanConfig.id = ["cpu".toList, "gpu".toList] ∨
    cfg.fans.map FanConfig.id = ["gpu".toList, "cpu".toList]

def ownModeRegister (cfg : AnsConfig) (i : Nat) : Int :=
  if (cfg.fan i).id = "cpu".toList then cfg.fanModes.cpuReg else cfg.fanModes.gpuReg

def ownModeValue (cfg : AnsConfig) (mode : FanMode) (i : Nat) : Int :=
  if (cfg.fan i).id = "cpu".toList then cfg.fanModes.cpuValue mode else cfg.fanModes.gpuValue mode

/--
A fan reported as firmware-controlled has its mode register at automatic, and a
fan that an override left in manual mode has had its speed written since.
-/
def FirmwareControlTrue (cfg : AnsConfig) (run : FirmwareRun) : Prop :=
  ∀ i < cfg.fanLen,
    (statusFanFirmwareControlled (firmwareAutoMode false firmwareAutoPreset)
        (run.bank.states i).safetyActive = true →
      run.bank.ec.byte (ownModeRegister cfg i) = ownModeValue cfg .auto i) ∧
    ∀ began, run.override = some began →
      run.bank.ec.byte (ownModeRegister cfg i) = ownModeValue cfg .manual i →
        ∃ write ∈ run.bank.ec.writes.take (run.bank.ec.writes.length - began),
          write.reg = (cfg.fan i).writeRegister

theorem FanModesAt.autoValuesFit {ec : EcDevice} {cfg : AnsConfig}
    (modes : FanModesAt ec cfg .auto) : AutoValuesFit cfg := by
  intro same
  rw [← modes.1, ← modes.2, same]

/-- In this poll either every fan has a safety reason or none has one. -/
def SameForAllFans (cfg : AnsConfig) (run : FirmwareRun) (input : PollInput) : Prop :=
  SomeReason cfg false (run.observed cfg input) →
    ∀ i < cfg.fanLen, (pollReason cfg false (run.observed cfg input) i).hasValue = true

/-- The EC itself leaves the fan-mode registers alone. -/
def LeavesModesAlone (cfg : AnsConfig) (input : PollInput) : Prop :=
  ∀ reg, FanModeRegister cfg reg → input.refreshed reg = none

section FirmwareControl

variable {cfg : AnsConfig} {run : FirmwareRun} {input : PollInput}

theorem ownMode_of_fanModesAt {ec : EcDevice} {mode : FanMode} (modes : FanModesAt ec cfg mode)
    (i : Nat) : ec.byte (ownModeRegister cfg i) = ownModeValue cfg mode i := by
  unfold ownModeRegister ownModeValue
  split
  · exact modes.1
  · exact modes.2

/-- What a run keeps while every poll treats the fans alike. -/
structure FirmwareInv (cfg : AnsConfig) (run : FirmwareRun) : Prop where
  reliable : run.bank.ec.WritesSucceed
  modes : anySafetyActive cfg run.bank.states = false → FanModesAt run.bank.ec cfg .auto
  marked : OverrideMarked cfg run
  began : ∀ began, run.override = some began → began ≤ run.bank.ec.writes.length

/-- An overriding poll writes the speed register of every fan that has a reason. -/
theorem updateFans_speedWritten (cfg : AnsConfig) (observed : Observation) :
    ∃ newer, (updateFans cfg false firmwareAutoPreset observed).bank.ec.writes =
        newer ++ observed.ec.writes ∧
      ∀ i < cfg.fanLen, (pollReason cfg false observed i).hasValue = true →
        ∃ write ∈ newer, write.reg = (cfg.fan i).writeRegister := by
  refine updateFans_induct (fun count poll => ∃ newer,
    poll.bank.ec.writes = newer ++ observed.ec.writes ∧
      ∀ i < count, (pollReason cfg false observed i).hasValue = true →
        ∃ write ∈ newer, write.reg = (cfg.fan i).writeRegister) ?_ ?_
  · exact ⟨[], rfl, fun i below => absurd below (Nat.not_lt_zero i)⟩
  · rintro i poll below same ⟨newer, log, earlier⟩
    rw [updateFan_firmware firmwareAuto_mode same]
    split
    · obtain ⟨speed, modes, overrideLog, speedReg⟩ :=
        overrideFan_writes cfg false observed.forcedReason i poll
      refine ⟨speed :: (modes ++ newer), by rw [overrideLog, log]; simp, ?_⟩
      intro j upTo reason
      by_cases here : j = i
      · exact ⟨speed, List.mem_cons_self, by rw [speedReg, here]⟩
      · obtain ⟨write, member, reg⟩ := earlier j (by omega) reason
        exact ⟨write, List.mem_cons_of_mem _ (List.mem_append_right _ member), reg⟩
    · rename_i calm
      refine ⟨newer, log, fun j upTo reason => ?_⟩
      have ne : j ≠ i := fun here => calm (here ▸ reason)
      exact earlier j (by omega) reason

theorem step_writesWithin (cfg : AnsConfig) (run : FirmwareRun) (input : PollInput) :
    WritesWithin (fun _ => True) (run.found input).ec (run.step cfg input).bank.ec := by
  have reads := (observed_onlyRead cfg run input).writesWithin
    fun _ => True
  refine reads.trans ?_
  rw [step_ec]
  split
  · exact applyFanMode_writesWithin fun _ _ _ => trivial
  · exact (updateFans_changes (fun _ _ _ => trivial) fun _ _ => trivial).ec

/-- A poll without a reason leaves the mode registers as they were, or hands them back. -/
theorem step_modes_of_calm (valid : cfg.Valid) (available : cfg.fanModes.available = true)
    (fit : AutoValuesFit cfg) (alone : LeavesModesAlone cfg input)
    (inv : FirmwareInv cfg run) (calm : ¬ SomeReason cfg false (run.observed cfg input)) :
    FanModesAt (run.step cfg input).bank.ec cfg .auto := by
  by_cases ends : run.EndsOverride cfg input
  · exact endsOverride_modes valid available fit ends fun _ => ⟨inv.reliable _, inv.reliable _⟩
  · have inactive : anySafetyActive cfg run.bank.states = false := by
      by_contra active
      exact ends ⟨by simpa using active, calm⟩
    have reads := observed_onlyRead cfg run input
    rw [step_ec, if_neg ends, updateFans_calm firmwareAuto_mode calm, FanModesAt, reads.byte,
      reads.byte]
    obtain ⟨cpu, gpu⟩ := inv.modes inactive
    constructor
    · exact (refresh_byte (alone _ (Or.inl rfl))).trans cpu
    · exact (refresh_byte (alone _ (Or.inr rfl))).trans gpu

/-- An override that is still recorded after a poll without a reason contradicts the invariant. -/
theorem step_override_of_calm (available : cfg.fanModes.available = true)
    (inv : FirmwareInv cfg run) (calm : ¬ SomeReason cfg false (run.observed cfg input)) :
    (run.step cfg input).override = none := by
  have marked : OverrideMarked cfg (run.step cfg input) :=
    overrideMarked_step available (fun _ => ⟨inv.reliable _, inv.reliable _⟩) inv.marked
  cases lasts : (run.step cfg input).override with
  | none => rfl
  | some began =>
      have active := marked (by rw [lasts]; rfl)
      exact absurd (step_anySafetyActive.mp active) calm

theorem step_override_of_reason (reason : SomeReason cfg false (run.observed cfg input)) :
    (run.step cfg input).override = some (run.override.getD run.bank.ec.writes.length) :=
  if_pos reason

theorem getD_override_le (inv : FirmwareInv cfg run) :
    run.override.getD run.bank.ec.writes.length ≤ run.bank.ec.writes.length := by
  cases lasts : run.override with
  | none => exact le_refl _
  | some began => exact inv.began began lasts

theorem firmwareInv_step (valid : cfg.Valid) (available : cfg.fanModes.available = true)
    (fit : AutoValuesFit cfg) (alone : LeavesModesAlone cfg input)
    (inv : FirmwareInv cfg run) : FirmwareInv cfg (run.step cfg input) where
  reliable := (step_writesWithin cfg run input).writesSucceed inv.reliable
  modes := by
    intro inactive
    refine step_modes_of_calm valid available fit alone inv ?_
    rw [← step_anySafetyActive, inactive]
    decide
  marked := overrideMarked_step available (fun _ => ⟨inv.reliable _, inv.reliable _⟩) inv.marked
  began := by
    intro began lasts
    obtain ⟨newer, log, _⟩ := (step_writesWithin cfg run input).writes
    have grows : run.bank.ec.writes.length ≤ (run.step cfg input).bank.ec.writes.length := by
      rw [log, List.length_append]
      exact Nat.le_add_left _ _
    by_cases reason : SomeReason cfg false (run.observed cfg input)
    · rw [step_override_of_reason reason] at lasts
      cases lasts
      exact le_trans (getD_override_le inv) grows
    · rw [step_override_of_calm available inv reason] at lasts
      cases lasts

/-- A poll that treats the fans alike leaves what it reports about them true. -/
theorem firmwareControlTrue_step (valid : cfg.Valid) (available : cfg.fanModes.available = true)
    (fit : AutoValuesFit cfg) (alone : LeavesModesAlone cfg input)
    (alike : SameForAllFans cfg run input) (inv : FirmwareInv cfg run) :
    FirmwareControlTrue cfg (run.step cfg input) := by
  intro i below
  by_cases reason : SomeReason cfg false (run.observed cfg input)
  · constructor
    · intro controlled
      rw [step_safetyActive below, alike reason i below] at controlled
      exact absurd controlled (by decide)
    · intro began lasts _
      rw [step_override_of_reason reason] at lasts
      cases lasts
      obtain ⟨newer, log, written⟩ := updateFans_speedWritten cfg
        (run.observed cfg input)
      obtain ⟨write, member, reg⟩ := written i below (alike reason i below)
      have reads := observed_onlyRead cfg run input
      have older : (run.observed cfg input).ec.writes = run.bank.ec.writes := reads.writes
      have began := getD_override_le inv
      rw [step_ec, if_neg fun ends => ends.2 reason, log, older, List.length_append,
        List.take_append, List.take_of_length_le (by omega)]
      exact ⟨write, List.mem_append_left _ member, reg⟩
  · have modes := step_modes_of_calm valid available fit alone inv reason
    refine ⟨fun _ => ownMode_of_fanModesAt modes i, fun began lasts => ?_⟩
    rw [step_override_of_calm available inv reason] at lasts
    cases lasts

/-- Along a run that treats the fans alike, reported firmware control is real. -/
theorem firmwareControlTrue_along {start : FirmwareRun} {inputs : List PollInput}
    (valid : cfg.Valid) (available : cfg.fanModes.available = true)
    (reliable : start.bank.ec.WritesSucceed) (modes : FanModesAt start.bank.ec cfg .auto)
    (fresh : start.override = none)
    (alike : Along (FirmwareRun.step cfg)
      (fun run input => LeavesModesAlone cfg input ∧ SameForAllFans cfg run input) start inputs) :
    Along (FirmwareRun.step cfg)
      (fun run input => FirmwareControlTrue cfg (run.step cfg input)) start inputs := by
  have inv : FirmwareInv cfg start := by
    refine ⟨reliable, fun _ => modes, fun lasts => ?_, fun began lasts => ?_⟩
    · rw [fresh] at lasts
      cases lasts
    · rw [fresh] at lasts
      cases lasts
  exact alike.of_invariant inv
    (fun _ _ step inv => firmwareInv_step valid available modes.autoValuesFit step.1 inv)
    (fun _ _ step inv =>
      firmwareControlTrue_step valid available modes.autoValuesFit step.1 step.2 inv)

end FirmwareControl

/--
At 75 °C a CPU fan held at 20 % is overridden, which takes the GPU fan, held at
50 %, out of firmware control although it is reported as firmware-controlled.
-/
theorem firmwareControlTrue_fails :
    ¬ ∀ (cfg : AnsConfig) (start : FirmwareRun) (inputs : List PollInput), cfg.Valid →
      cfg.fanModes.available = true → CpuGpuFans cfg →
        start.bank.ec.WritesSucceed → FanModesAt start.bank.ec cfg .auto →
          start.override = none → (∀ input ∈ inputs, LeavesModesAlone cfg input) →
            Along (FirmwareRun.step cfg)
              (fun run input => FirmwareControlTrue cfg (run.step cfg input)) start inputs := by
  intro claim
  have along := claim AcerNitroAn517.config ⟨lowWarmBank 20 50 fun _ => false, none⟩ [pollAt 75]
    AcerNitroAn517.config_valid rfl (Or.inl rfl) (fun _ => rfl)
    ⟨by decide, by decide⟩ rfl (fun _ member => by
      rw [List.mem_singleton.mp member]
      exact fun _ _ => rfl)
  exact absurd ((along.1 1 (by decide)).1 (by decide)) (by decide)

/-- With both fans held at 20 % both are overridden, and both come back. -/
theorem firmwareControlTrue_alike :
    Along (FirmwareRun.step AcerNitroAn517.config)
      (fun run input => FirmwareControlTrue AcerNitroAn517.config
        (run.step AcerNitroAn517.config input))
      ⟨lowWarmBank 20 20 fun _ => false, none⟩ [pollAt 75, pollAt 50] := by
  refine firmwareControlTrue_along AcerNitroAn517.config_valid rfl
    (fun _ => rfl) ⟨by decide, by decide⟩ rfl ?_
  exact ⟨⟨fun _ _ => rfl, fun _ => by decide⟩, ⟨fun _ _ => rfl, fun reason =>
    absurd reason (by decide)⟩, trivial⟩

end NitroSense
