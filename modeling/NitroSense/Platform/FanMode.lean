import NitroSense.Config
import NitroSense.Ec

/-!
# Firmware fan modes

The fan-mode half of `platform/fan_mode.c`, and `platform/control.c`.  A mode
switch writes two registers, one per component, and stops at the first failure.
-/

namespace NitroSense

open Lib EcDevice

def firmwareAutoPreset : CString := "firmware-auto".toList

def firmwareAutoMode (autoMode : Bool) (preset : CString) : Bool :=
  !autoMode && preset = firmwareAutoPreset

theorem firmwareAuto_mode : firmwareAutoMode false firmwareAutoPreset = true := by decide

theorem firmwareAutoMode_iff {autoMode : Bool} {preset : CString} :
    firmwareAutoMode autoMode preset = true ↔ autoMode = false ∧ preset = firmwareAutoPreset := by
  simp [firmwareAutoMode]

def controlMode (autoMode : Bool) (preset : CString) : CString :=
  if autoMode then "auto".toList
  else if firmwareAutoMode autoMode preset then firmwareAutoPreset
  else if preset = "manual".toList then "manual".toList
  else "preset".toList

/-- The mode names `fan_mode_values` knows. -/
inductive FanMode where
  | auto
  | manual
  | turbo
  deriving DecidableEq, Repr

def FanMode.name : FanMode → CString
  | auto => "auto".toList
  | manual => "manual".toList
  | turbo => "turbo".toList

def FanModeConfig.cpuValue (fanModes : FanModeConfig) : FanMode → Int
  | .auto => fanModes.cpuAutoValue
  | .manual => fanModes.cpuManualValue
  | .turbo => fanModes.cpuTurboValue

def FanModeConfig.gpuValue (fanModes : FanModeConfig) : FanMode → Int
  | .auto => fanModes.gpuAutoValue
  | .manual => fanModes.gpuManualValue
  | .turbo => fanModes.gpuTurboValue

def fanModeValueName (fanModes : FanModeConfig) (cpu : Bool) (value : Int) : CString :=
  let modeValue := if cpu then fanModes.cpuValue else fanModes.gpuValue
  if value = modeValue .auto then "auto".toList
  else if value = modeValue .manual then "manual".toList
  else if value = modeValue .turbo then "turbo".toList
  else "unknown".toList

/-- `apply_fan_mode`: the GPU register is written only when the CPU write succeeded. -/
def applyFanMode (ec : EcDevice) (cfg : AnsConfig) (mode : FanMode) : EcDevice × Bool :=
  if cfg.fanModes.available = false then (ec, false)
  else
    let cpu := ecWriteByte ec cfg.fanModes.cpuReg (cfg.fanModes.cpuValue mode)
    if cpu.2 = false then (cpu.1, false)
    else ecWriteByte cpu.1 cfg.fanModes.gpuReg (cfg.fanModes.gpuValue mode)

/-- `read_fan_mode`: the two register values when both could be read. -/
def readFanMode (ec : EcDevice) (cfg : AnsConfig) : EcDevice × Option (Int × Int) :=
  if cfg.fanModes.available = false then (ec, none)
  else
    let cpu := ecReadByte ec cfg.fanModes.cpuReg
    let gpu := ecReadByte cpu.1 cfg.fanModes.gpuReg
    (gpu.1, if cpu.2 ≥ 0 ∧ gpu.2 ≥ 0 then some (cpu.2, gpu.2) else none)

def applyDaemonControlFanMode (ec : EcDevice) (cfg : AnsConfig) : EcDevice × Bool :=
  if cfg.fanModes.available = false then (ec, true) else applyFanMode ec cfg .manual

def applyFirmwareAutoFanMode (ec : EcDevice) (cfg : AnsConfig) : EcDevice × Bool :=
  if cfg.fanModes.available = false then (ec, false) else applyFanMode ec cfg .auto

theorem readFanMode_onlyRead (ec : EcDevice) (cfg : AnsConfig) :
    OnlyRead ec (readFanMode ec cfg).1 := by
  unfold readFanMode
  split
  · exact OnlyRead.refl ec
  · exact (ecReadByte_onlyRead ec _).trans (ecReadByte_onlyRead _ _)

/-! ## What a mode switch does -/

def FanModeRegister (cfg : AnsConfig) (reg : Int) : Prop :=
  reg = cfg.fanModes.cpuReg ∨ reg = cfg.fanModes.gpuReg

theorem FanModeRegister.mem_modeRegisters {cfg : AnsConfig} {reg : Int}
    (available : cfg.fanModes.available = true) (isMode : FanModeRegister cfg reg) :
    reg ∈ cfg.modeRegisters := by
  rw [AnsConfig.modeRegisters, if_pos available]
  rcases isMode with rfl | rfl
  · exact List.mem_cons_self
  · exact List.mem_cons_of_mem _ (List.mem_singleton_self _)

/-- Both fan-mode registers hold the values of `mode`. -/
def FanModesAt (ec : EcDevice) (cfg : AnsConfig) (mode : FanMode) : Prop :=
  ec.byte cfg.fanModes.cpuReg = cfg.fanModes.cpuValue mode ∧
    ec.byte cfg.fanModes.gpuReg = cfg.fanModes.gpuValue mode

theorem FanModeConfig.Valid.cpuValue {fanModes : FanModeConfig} (valid : fanModes.Valid)
    (mode : FanMode) : configByteValueValid (fanModes.cpuValue mode) := by
  cases mode
  · exact valid.cpuAutoValue
  · exact valid.cpuManualValue
  · exact valid.cpuTurboValue

theorem FanModeConfig.Valid.gpuValue {fanModes : FanModeConfig} (valid : fanModes.Valid)
    (mode : FanMode) : configByteValueValid (fanModes.gpuValue mode) := by
  cases mode
  · exact valid.gpuAutoValue
  · exact valid.gpuManualValue
  · exact valid.gpuTurboValue

theorem clampInt_of_byte {value : Int} (byte : configByteValueValid value) :
    clampInt value 0 255 = value :=
  clamp_of_mem byte.1 byte.2

section ApplyFanMode

variable {ec : EcDevice} {cfg : AnsConfig} {mode : FanMode}

theorem applyFanMode_unavailable (unavailable : cfg.fanModes.available = false) :
    applyFanMode ec cfg mode = (ec, false) := by
  rw [applyFanMode, if_pos unavailable]

/-- A mode switch writes both registers, or only the first, or finds the first write failing. -/
theorem applyFanMode_available (available : cfg.fanModes.available = true) :
    applyFanMode ec cfg mode =
      if ec.nextWriteOk then
        ecWriteByte (ecWriteByte ec cfg.fanModes.cpuReg (cfg.fanModes.cpuValue mode)).1
          cfg.fanModes.gpuReg (cfg.fanModes.gpuValue mode)
      else ((ecWriteByte ec cfg.fanModes.cpuReg (cfg.fanModes.cpuValue mode)).1, false) := by
  have present : ¬ cfg.fanModes.available = false := by simp [available]
  rw [applyFanMode, if_neg present]
  dsimp only
  rw [ecWriteByte_ok]
  cases ec.nextWriteOk <;> rfl

theorem applyFanMode_writesWithin {allowed : Int → Prop}
    (modes : cfg.fanModes.available = true → ∀ reg, FanModeRegister cfg reg → allowed reg) :
    WritesWithin allowed ec (applyFanMode ec cfg mode).1 := by
  cases available : cfg.fanModes.available with
  | false => rw [applyFanMode_unavailable available]
  | true =>
      have cpu := modes available _ (Or.inl rfl)
      have gpu := modes available _ (Or.inr rfl)
      rw [applyFanMode_available available]
      split
      · exact (ecWriteByte_writesWithin ec _ cpu).trans (ecWriteByte_writesWithin _ _ gpu)
      · exact ecWriteByte_writesWithin ec _ cpu

/-- A successful mode switch leaves both registers at the mode's values, if they can be. -/
theorem applyFanMode_success (valid : cfg.fanModes.Valid)
    (compatible : cfg.fanModes.cpuReg = cfg.fanModes.gpuReg →
      cfg.fanModes.cpuValue mode = cfg.fanModes.gpuValue mode)
    (ok : (applyFanMode ec cfg mode).2 = true) :
    FanModesAt (applyFanMode ec cfg mode).1 cfg mode := by
  cases available : cfg.fanModes.available with
  | false =>
      rw [applyFanMode_unavailable available] at ok
      cases ok
  | true =>
      rw [applyFanMode_available available] at ok ⊢
      cases first : ec.nextWriteOk with
      | false =>
          rw [first] at ok
          cases ok
      | true =>
          rw [first, if_pos rfl, ecWriteByte_ok] at ok
          rw [if_pos rfl]
          have gpu := (ecWriteByte_byte_self _ cfg.fanModes.gpuReg (cfg.fanModes.gpuValue mode)
            ok).trans (clampInt_of_byte (valid.gpuValue mode))
          refine ⟨?_, gpu⟩
          by_cases same : cfg.fanModes.cpuReg = cfg.fanModes.gpuReg
          · exact ((congrArg _ same).trans gpu).trans (compatible same).symm
          · rw [ecWriteByte_byte_ne _ _ _ same, ecWriteByte_byte_self _ _ _ first]
            exact clampInt_of_byte (valid.cpuValue mode)

/-- A successful mode switch has written the mode's values into both registers. -/
theorem applyFanMode_log (valid : cfg.fanModes.Valid) (ok : (applyFanMode ec cfg mode).2 = true) :
    writesSince ec (applyFanMode ec cfg mode).1 =
      [⟨cfg.fanModes.gpuReg, cfg.fanModes.gpuValue mode, true⟩,
        ⟨cfg.fanModes.cpuReg, cfg.fanModes.cpuValue mode, true⟩] := by
  refine writesSince_of_append ?_
  cases available : cfg.fanModes.available with
  | false =>
      rw [applyFanMode_unavailable available] at ok
      cases ok
  | true =>
      rw [applyFanMode_available available] at ok ⊢
      cases first : ec.nextWriteOk with
      | false =>
          rw [first] at ok
          cases ok
      | true =>
          rw [first, if_pos rfl, ecWriteByte_ok] at ok
          rw [if_pos rfl, ecWriteByte_writes, ecWriteByte_writes, ok, first,
            clampInt_of_byte (valid.cpuValue mode), clampInt_of_byte (valid.gpuValue mode)]
          rfl

theorem applyFanMode_ok (available : cfg.fanModes.available = true)
    (reliable : ec.WritesSucceed) : (applyFanMode ec cfg mode).2 = true := by
  have within : WritesWithin (FanModeRegister cfg) ec
      (ecWriteByte ec cfg.fanModes.cpuReg (cfg.fanModes.cpuValue mode)).1 :=
    ecWriteByte_writesWithin ec _ (Or.inl rfl)
  rw [applyFanMode_available available, reliable.nextWriteOk, if_pos rfl, ecWriteByte_ok]
  exact (within.writesSucceed reliable).nextWriteOk

end ApplyFanMode

theorem applyDaemonControlFanMode_eq {ec : EcDevice} {cfg : AnsConfig}
    (available : cfg.fanModes.available = true) :
    applyDaemonControlFanMode ec cfg = applyFanMode ec cfg .manual := by
  simp [applyDaemonControlFanMode, available]

theorem applyFirmwareAutoFanMode_eq (ec : EcDevice) (cfg : AnsConfig) :
    applyFirmwareAutoFanMode ec cfg = applyFanMode ec cfg .auto := by
  unfold applyFirmwareAutoFanMode
  split
  · rename_i unavailable
    rw [applyFanMode_unavailable unavailable]
  · rfl

theorem applyDaemonControlFanMode_writesWithin {ec : EcDevice} {cfg : AnsConfig}
    {allowed : Int → Prop}
    (modes : cfg.fanModes.available = true → ∀ reg, FanModeRegister cfg reg → allowed reg) :
    WritesWithin allowed ec (applyDaemonControlFanMode ec cfg).1 := by
  unfold applyDaemonControlFanMode
  split
  · exact WritesWithin.refl ec
  · exact applyFanMode_writesWithin modes

end NitroSense
