import NitroSense.Keyboard
import NitroSense.Platform.Power
import NitroSense.Fan.Activity

/-!
# The registers an operation addresses

Reads as well as writes: every operation on the EC addresses the registers of
the profile, which are bytes, and the second bytes of the fan speeds.
-/

namespace NitroSense

open Lib EcDevice

/-- Between `before` and `after` only registers in `allowed` are addressed, and bytes written. -/
structure AccessesWithin (allowed : Int → Prop) (before after : EcDevice) : Prop where
  readFails : after.readFails = before.readFails
  reads : ∃ newer, after.reads = newer ++ before.reads ∧ ∀ reg ∈ newer, allowed reg
  writes : ∃ newer, after.writes = newer ++ before.writes ∧
    ∀ write ∈ newer, allowed write.reg ∧ configByteValueValid write.value

namespace AccessesWithin

variable {allowed : Int → Prop} {first second third : EcDevice}

@[refl] theorem refl (ec : EcDevice) : AccessesWithin allowed ec ec :=
  ⟨rfl, ⟨[], rfl, List.forall_mem_nil _⟩, [], rfl, List.forall_mem_nil _⟩

theorem trans (left : AccessesWithin allowed first second)
    (right : AccessesWithin allowed second third) : AccessesWithin allowed first third := by
  obtain ⟨leftReads, leftReadLog, leftRead⟩ := left.reads
  obtain ⟨rightReads, rightReadLog, rightRead⟩ := right.reads
  obtain ⟨leftWrites, leftWriteLog, leftWritten⟩ := left.writes
  obtain ⟨rightWrites, rightWriteLog, rightWritten⟩ := right.writes
  refine ⟨right.readFails.trans left.readFails, ⟨rightReads ++ leftReads, ?_, ?_⟩,
    rightWrites ++ leftWrites, ?_, ?_⟩
  · rw [rightReadLog, leftReadLog, List.append_assoc]
  · exact List.forall_mem_append.mpr ⟨rightRead, leftRead⟩
  · rw [rightWriteLog, leftWriteLog, List.append_assoc]
  · exact List.forall_mem_append.mpr ⟨rightWritten, leftWritten⟩

/-- What has been read stays in the log. -/
theorem mem_reads (within : AccessesWithin allowed first second) {reg : Int}
    (read : reg ∈ first.reads) : reg ∈ second.reads := by
  obtain ⟨newer, log, _⟩ := within.reads
  rw [log]
  exact List.mem_append_right newer read

end AccessesWithin

/-- The bytes are allowed, and so are the second bytes of the fan speeds that are read as words. -/
structure Reaches (cfg : AnsConfig) (allowed : Int → Prop) : Prop where
  byte : ∀ reg, configByteValueValid reg → allowed reg
  word : cfg.readWords = true → ∀ i < cfg.fanLen, allowed ((cfg.fan i).readRegister + 1)

section Bytes

variable {allowed : Int → Prop} {ec : EcDevice} {reg : Int}

theorem ecReadByte_accesses (inside : allowed reg) :
    AccessesWithin allowed ec (ecReadByte ec reg).1 :=
  ⟨rfl, ⟨[reg], rfl, List.forall_mem_singleton.mpr inside⟩, [], rfl, List.forall_mem_nil _⟩

theorem ecReadWord_accesses (low : allowed reg) (high : allowed (reg + 1)) :
    AccessesWithin allowed ec (ecReadWord ec reg).1 := by
  have first : AccessesWithin allowed ec (ecReadByte ec reg).1 := ecReadByte_accesses low
  unfold ecReadWord
  dsimp only
  split
  · exact first
  · split
    · exact first.trans (ecReadByte_accesses high)
    · exact first.trans (ecReadByte_accesses high)

/-- Whatever value is asked for, a byte is written. -/
theorem ecWriteByte_accesses (value : Int) (inside : allowed reg) :
    AccessesWithin allowed ec (ecWriteByte ec reg value).1 :=
  ⟨rfl, ⟨[], rfl, List.forall_mem_nil _⟩, [⟨reg, clampInt value 0 255, ec.nextWriteOk⟩], rfl,
    List.forall_mem_singleton.mpr ⟨inside, clampInt_byte_bounds value⟩⟩

theorem ecWriteAll_accesses {writes : List (Int × Int)}
    (inside : ∀ write ∈ writes, allowed write.1) :
    AccessesWithin allowed ec (ecWriteAll ec writes) := by
  induction writes generalizing ec with
  | nil => exact .refl ec
  | cons write rest ih =>
      obtain ⟨here, later⟩ := List.forall_mem_cons.mp inside
      exact (ecWriteByte_accesses write.2 here).trans (ih later)

end Bytes

/-! ## The platform and the keyboard -/

section Platform

variable {cfg : AnsConfig} {allowed : Int → Prop} {ec : EcDevice}

theorem applyFanMode_accesses (valid : cfg.Valid) (reaches : Reaches cfg allowed)
    (mode : FanMode) : AccessesWithin allowed ec (applyFanMode ec cfg mode).1 := by
  have cpu := reaches.byte _ valid.fanModes.cpuReg
  have gpu := reaches.byte _ valid.fanModes.gpuReg
  unfold applyFanMode
  dsimp only
  split
  · exact .refl ec
  · split
    · exact ecWriteByte_accesses _ cpu
    · exact (ecWriteByte_accesses _ cpu).trans (ecWriteByte_accesses _ gpu)

theorem readFanMode_accesses (valid : cfg.Valid) (reaches : Reaches cfg allowed) :
    AccessesWithin allowed ec (readFanMode ec cfg).1 := by
  have cpu := reaches.byte _ valid.fanModes.cpuReg
  have gpu := reaches.byte _ valid.fanModes.gpuReg
  unfold readFanMode
  split
  · exact .refl ec
  · exact (ecReadByte_accesses cpu).trans (ecReadByte_accesses gpu)

theorem applyPlatformProfile_accesses (valid : cfg.Valid) (reaches : Reaches cfg allowed)
    (profile : CString) : AccessesWithin allowed ec (applyPlatformProfile ec cfg profile).1 := by
  unfold applyPlatformProfile
  split
  · exact .refl ec
  · split
    · exact .refl ec
    · exact ecWriteByte_accesses _ (reaches.byte _ valid.platformProfileReg)

theorem applyPowerSourceProfile_accesses (valid : cfg.Valid) (reaches : Reaches cfg allowed)
    (source : PowerSource) :
    AccessesWithin allowed ec (applyPowerSourceProfile ec cfg source).1 := by
  unfold applyPowerSourceProfile
  split
  · exact .refl ec
  · exact applyPlatformProfile_accesses valid reaches _

theorem readPlatformProfile_accesses (valid : cfg.Valid) (reaches : Reaches cfg allowed) :
    AccessesWithin allowed ec (readPlatformProfile ec cfg).1 := by
  unfold readPlatformProfile
  split
  · exact .refl ec
  · exact ecReadByte_accesses (reaches.byte _ valid.platformProfileReg)

theorem keyboardBacklightReadEc_accesses (valid : cfg.Valid) (reaches : Reaches cfg allowed) :
    AccessesWithin allowed ec (keyboardBacklightReadEc ec cfg).1 := by
  unfold keyboardBacklightReadEc
  dsimp only
  cases available : cfg.keyboardBacklight.available with
  | false => exact .refl ec
  | true =>
      have read : AccessesWithin allowed ec (ecReadByte ec cfg.keyboardBacklight.reg).1 :=
        ecReadByte_accesses (reaches.byte _ (valid.keyboardBacklight.reg available))
      rw [if_neg (by decide)]
      split
      · exact read
      · exact read

theorem keyboardBacklightReadAny_accesses (valid : cfg.Valid) (reaches : Reaches cfg allowed)
    (leds : Option (List Led)) :
    AccessesWithin allowed ec (keyboardBacklightReadAny ec cfg leds).1 := by
  unfold keyboardBacklightReadAny
  dsimp only
  split
  · exact .refl ec
  · split
    · exact keyboardBacklightReadEc_accesses valid reaches
    · exact .refl ec

theorem keyboardBacklightSetPercent_accesses (valid : cfg.Valid) (reaches : Reaches cfg allowed)
    (percent : Int) :
    AccessesWithin allowed ec (keyboardBacklightSetPercent ec cfg percent).1 := by
  unfold keyboardBacklightSetPercent
  dsimp only
  split
  · exact .refl ec
  · rename_i usable
    have available : cfg.keyboardBacklight.available = true := by
      simpa using fun unavailable => usable (Or.inl unavailable)
    have write : AccessesWithin allowed ec (ecWriteByte ec cfg.keyboardBacklight.reg
        (keyboardBacklightValueFromPercent cfg.keyboardBacklight percent)).1 :=
      ecWriteByte_accesses _ (reaches.byte _ (valid.keyboardBacklight.reg available))
    split
    · exact write
    · exact write.trans (keyboardBacklightReadEc_accesses valid reaches)

theorem keyboardBacklightTimeoutTick_accesses (valid : cfg.Valid) (reaches : Reaches cfg allowed)
    (leds : Option (List Led)) (runtime : RuntimeState) (nowMs lastActivityMs : Int) :
    AccessesWithin allowed ec
      (keyboardBacklightTimeoutTick ec cfg leds runtime nowMs lastActivityMs).1 := by
  have update : AccessesWithin allowed ec
      (keyboardBacklightUpdateRestorePercent ec cfg leds runtime).1 := by
    have read : AccessesWithin allowed ec (keyboardBacklightReadAny ec cfg leds).1 :=
      keyboardBacklightReadAny_accesses valid reaches leds
    unfold keyboardBacklightUpdateRestorePercent
    dsimp only
    split
    · exact .refl ec
    · split
      · exact read
      · exact read
  unfold keyboardBacklightTimeoutTick
  dsimp only
  split
  · exact .refl ec
  · split
    · exact update.trans (keyboardBacklightSetPercent_accesses valid reaches _)
    · split
      · exact update.trans (keyboardBacklightSetPercent_accesses valid reaches _)
      · exact update

end Platform

/-! ## The fans -/

section Fans

variable {cfg : AnsConfig} {allowed : Int → Prop} {ec : EcDevice} {bank : FanBank}

/-- An optional register is read only where it is one. -/
theorem readEcTemperatureC_accesses {reg : Int} (optional : reg = -1 ∨ allowed reg) :
    AccessesWithin allowed ec (readEcTemperatureC ec reg).1 := by
  rcases optional with rfl | inside
  · rw [readEcTemperatureC_none]
  · unfold readEcTemperatureC
    dsimp only
    split
    · exact ecReadByte_accesses inside
    · exact .refl ec

theorem readFan_accesses (valid : cfg.Valid) (reaches : Reaches cfg allowed) (sensors : Sensors)
    {i : Nat} (below : i < cfg.fanLen) :
    AccessesWithin allowed ec (readFan ec sensors cfg (cfg.fan i)).1 := by
  have fan := valid.fan below
  have read := reaches.byte _ fan.readRegister
  have write := reaches.byte _ fan.writeRegister
  have temperature := fan.temperatureRegister.imp_right (reaches.byte _)
  have control := fan.controlTemperatureRegister.imp_right (reaches.byte _)
  unfold readFan
  dsimp only
  refine AccessesWithin.trans ?_ (readEcTemperatureC_accesses control)
  refine AccessesWithin.trans ?_ (readEcTemperatureC_accesses temperature)
  refine AccessesWithin.trans ?_ (ecReadByte_accesses write)
  split
  · rename_i words
    exact ecReadWord_accesses read (reaches.word words i below)
  · exact ecReadByte_accesses read

theorem refreshFanObservations_accesses (valid : cfg.Valid) (reaches : Reaches cfg allowed)
    (sensors : Sensors) (states : FanStates) :
    AccessesWithin allowed ec (refreshFanObservations ec sensors cfg states).ec := by
  refine loop_preserves (fun acc : Observation => AccessesWithin allowed ec acc.ec) (.refl ec) ?_
  intro i acc below before
  exact before.trans (readFan_accesses valid reaches sensors below)

/-- An activity of fan control addresses what its accesses and its speeds do. -/
theorem FanActivity.accesses {access : EcDevice → EcDevice → Prop}
    {sets : FanBank → Nat → Int → SafetyReason → Prop} {after : FanBank} (valid : cfg.Valid)
    (reaches : Reaches cfg allowed)
    (within : ∀ before after, access before after → AccessesWithin allowed before after)
    (activity : FanActivity cfg access sets bank after) :
    AccessesWithin allowed bank.ec after.ec := by
  refine activity.preserves (fun later => AccessesWithin allowed bank.ec later.ec) (.refl _)
    ?_ ?_ ?_ ?_
  · intro later ec before made
    exact before.trans (within _ _ made)
  · intro later i requestedPercent forcedReason before below _
    have register := reaches.byte _ (valid.fan below).writeRegister
    rw [setFanPercent_ec]
    exact before.trans (ecWriteByte_accesses _ register)
  · intro later i reason before
    exact before
  · intro later i percent before
    exact before

/-- What follows the observation of a poll addresses what its activity does. -/
theorem observedFans_accesses (valid : cfg.Valid) (reaches : Reaches cfg allowed)
    (sensors : Sensors) (autoMode : Bool) (preset : CString) :
    AccessesWithin allowed (refreshFanObservations bank.ec sensors cfg bank.states).ec
      (updateFanStates bank sensors cfg autoMode preset).ec := by
  have activity := @updateFanStates_activity cfg (AccessesWithin allowed) (fun _ _ _ _ => True)
    autoMode preset bank sensors (fun ec mode => applyFanMode_accesses valid reaches mode)
    fun _ _ _ => trivial
  exact activity.accesses valid reaches fun _ _ made => made

theorem updateFanStates_accesses (valid : cfg.Valid) (reaches : Reaches cfg allowed)
    (sensors : Sensors) (autoMode : Bool) (preset : CString) :
    AccessesWithin allowed bank.ec (updateFanStates bank sensors cfg autoMode preset).ec :=
  (refreshFanObservations_accesses valid reaches sensors bank.states).trans
    (observedFans_accesses valid reaches sensors autoMode preset)

/-! ## The second byte of a fan speed -/

/-- Any register may be addressed. -/
theorem reaches_all (cfg : AnsConfig) : Reaches cfg fun _ => True :=
  ⟨fun _ _ => trivial, fun _ _ _ => trivial⟩

/-- A word whose first byte can be read is read up to its second byte. -/
theorem ecReadWord_reads (works : ∀ index, ec.readFails index = false) (reg : Int) :
    reg + 1 ∈ (ecReadWord ec reg).1.reads := by
  have low : (ecReadByte ec reg).2 = ec.byte reg := by
    rw [ecReadByte, works, if_neg Bool.false_ne_true]
  have nonneg : ¬ (ecReadByte ec reg).2 < 0 := by
    rw [low, EcDevice.byte]
    omega
  unfold ecReadWord
  dsimp only
  rw [if_neg nonneg]
  split
  · exact List.mem_cons_self
  · exact List.mem_cons_self

theorem readFan_reads (works : ∀ index, ec.readFails index = false) (words : cfg.readWords = true)
    (sensors : Sensors) (fan : FanConfig) :
    fan.readRegister + 1 ∈ (readFan ec sensors cfg fan).1.reads := by
  have word := ecReadWord_reads works fan.readRegister
  have optional (reg : Int) : reg = -1 ∨ True := Or.inr trivial
  have later : AccessesWithin (fun _ => True) (ecReadWord ec fan.readRegister).1
      (readFan ec sensors cfg fan).1 := by
    unfold readFan
    dsimp only
    rw [if_pos words]
    exact ((ecReadByte_accesses trivial).trans (readEcTemperatureC_accesses (optional _))).trans
      (readEcTemperatureC_accesses (optional _))
  exact later.mem_reads word

/-- A poll that reads words addresses the second byte of every fan's speed. -/
theorem refreshFanObservations_reads (valid : cfg.Valid)
    (works : ∀ index, ec.readFails index = false) (words : cfg.readWords = true)
    (sensors : Sensors) (states : FanStates) {i : Nat} (below : i < cfg.fanLen) :
    (cfg.fan i).readRegister + 1 ∈ (refreshFanObservations ec sensors cfg states).ec.reads := by
  have rounds : (refreshFanObservations ec sensors cfg states).ec.readFails = ec.readFails ∧
      ∀ j < cfg.fanLen, (cfg.fan j).readRegister + 1 ∈
        (refreshFanObservations ec sensors cfg states).ec.reads := by
    refine loop_invariant (fun count (acc : Observation) => acc.ec.readFails = ec.readFails ∧
      ∀ j < count, (cfg.fan j).readRegister + 1 ∈ acc.ec.reads) ⟨rfl, ?_⟩ ?_
    · intro j none
      exact absurd none (Nat.not_lt_zero j)
    · rintro count acc countBelow ⟨fails, read⟩
      have round : AccessesWithin (fun _ => True) acc.ec (observeRound sensors cfg count acc).ec :=
        readFan_accesses valid (reaches_all cfg) sensors countBelow
      refine ⟨round.readFails.trans fails, fun j inside => ?_⟩
      rcases Nat.lt_succ_iff_lt_or_eq.mp inside with earlier | rfl
      · exact round.mem_reads (read j earlier)
      · exact readFan_reads (fun index => by rw [fails, works]) words sensors _
  exact rounds.2 i below

end Fans

end NitroSense
