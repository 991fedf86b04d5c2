import NitroSense.Daemon.Resume
import NitroSense.Daemon.SpeedRegisters

/-!
# What the daemon leaves behind

After the loop `main` writes the reset speeds of the fans and then the reset
values of the initial writes, both in reverse order.  Nothing else hands the
fan modes back to the firmware.
-/

namespace NitroSense

open Lib EcDevice

def applyResetWrites (ec : EcDevice) (cfg : AnsConfig) : EcDevice :=
  let speeds := (List.range cfg.fanLen).reverse.foldl
    (fun ec i => (fanWritePercentRaw ec (cfg.fan i) (cfg.fan i).resetSpeed).1) ec
  cfg.initWrites.reverse.foldl (fun ec write => (ecWriteByte ec write.reg write.resetValue).1) speeds

/-- `main` after `run_daemon_loop`. -/
def shutdownDaemon (cfg : AnsConfig) (daemon : Daemon) : Daemon :=
  { daemon with
    ec := applyResetWrites daemon.ec cfg
    host :=
      { daemon.host with
        sensors := applySensorPowerControl cfg daemon.host.sensors "auto".toList } }

def resetSpeedUpdates (cfg : AnsConfig) : List (Int × Int) :=
  (List.range cfg.fanLen).map fun i =>
    ((cfg.fan i).writeRegister,
      clampInt (cfg.fan i).resetSpeed (cfg.fan i).writeMin (cfg.fan i).writeMax)

def AnsConfig.resetUpdates (cfg : AnsConfig) : List (Int × Int) :=
  cfg.initWrites.map fun write => (write.reg, write.resetValue)

/--
The shutdown leaves `value` in the register: the first initial write to it has
this reset value; without such a write the first fan driven through the
register has this reset speed; without any write the loop ended with it there.
-/
def ResetTo (cfg : AnsConfig) (ec : EcDevice) (reg value : Int) : Prop :=
  value =
    match cfg.initWrites.find? (fun write => write.reg = reg),
      cfg.fans.find? (fun fan => fan.writeRegister = reg) with
    | some write, _ => write.resetValue
    | none, some fan => fan.resetSpeed
    | none, none => ec.byte reg

instance (cfg : AnsConfig) (ec : EcDevice) (reg value : Int) :
    Decidable (ResetTo cfg ec reg value) :=
  inferInstanceAs (Decidable (_ = _))

section Shutdown

variable {cfg : AnsConfig}

theorem applyResetWrites_eq (ec : EcDevice) (cfg : AnsConfig) :
    applyResetWrites ec cfg =
      ecWriteAll ec ((resetSpeedUpdates cfg).reverse ++ cfg.resetUpdates.reverse) := by
  rw [applyResetWrites, ecWriteAll_append, ecWriteAll, ecWriteAll, resetSpeedUpdates,
    AnsConfig.resetUpdates, ← List.map_reverse, ← List.map_reverse, List.foldl_map,
    List.foldl_map]
  rfl

/-- The fans by their indices are the list of the fans. -/
theorem resetSpeedUpdates_eq (valid : cfg.Valid) :
    resetSpeedUpdates cfg = cfg.fans.map fun fan => (fan.writeRegister, fan.resetSpeed) := by
  apply List.ext_getElem
  · simp [resetSpeedUpdates]
  · intro i lower upper
    have below : i < cfg.fanLen := by simpa [resetSpeedUpdates] using lower
    have fan := valid.fan below
    have kept : clampInt (cfg.fan i).resetSpeed (cfg.fan i).writeMin (cfg.fan i).writeMax =
        (cfg.fan i).resetSpeed := clamp_of_mem fan.resetSpeed.1 fan.resetSpeed.2
    have here : cfg.fan i = cfg.fans[i] := List.getD_eq_getElem _ _ below
    simp only [resetSpeedUpdates, List.getElem_map, List.getElem_range]
    rw [kept, here]

theorem resetUpdates_bytes (valid : cfg.Valid) :
    ∀ update ∈ (resetSpeedUpdates cfg).reverse ++ cfg.resetUpdates.reverse,
      clampInt update.2 0 255 = update.2 := by
  intro update member
  rcases List.mem_append.mp member with speed | init
  · rw [resetSpeedUpdates_eq valid] at speed
    obtain ⟨fan, configured, rfl⟩ := List.mem_map.mp (List.mem_reverse.mp speed)
    have fanValid := valid.fans fan configured
    exact clampInt_of_byte ⟨le_trans fanValid.writeMin fanValid.resetSpeed.1,
      le_trans fanValid.resetSpeed.2 (le_trans fanValid.writeMax (by decide))⟩
  · obtain ⟨write, configured, rfl⟩ := List.mem_map.mp (List.mem_reverse.mp init)
    exact clampInt_of_byte (valid.initWrites write configured).2.2

/-- `ResetTo` tells what a shutdown whose writes work leaves in a register. -/
theorem shutdown_byte {daemon : Daemon} (valid : cfg.Valid)
    (worked : WritesWorked daemon.ec (shutdownDaemon cfg daemon).ec) (reg value : Int) :
    (shutdownDaemon cfg daemon).ec.byte reg = value ↔ ResetTo cfg daemon.ec reg value := by
  have device : (shutdownDaemon cfg daemon).ec = ecWriteAll daemon.ec
      ((resetSpeedUpdates cfg).reverse ++ cfg.resetUpdates.reverse) := applyResetWrites_eq _ _
  rw [device] at worked ⊢
  have ok := (ecWriteAll_makesWrites daemon.ec _).nextWritesOk worked
  rw [ecWriteAll_byte ok (resetUpdates_bytes valid), lastUpdate_append, lastUpdate_reverse,
    lastUpdate_reverse, resetSpeedUpdates_eq valid, AnsConfig.resetUpdates, List.find?_map,
    List.find?_map, ResetTo]
  simp only [Function.comp_def]
  cases cfg.initWrites.find? (fun write => write.reg = reg) with
  | some write => exact eq_comm
  | none =>
      cases cfg.fans.find? (fun fan => fan.writeRegister = reg) with
      | some fan => exact eq_comm
      | none => exact eq_comm

end Shutdown

/-- The daemon when its loop has handled the events. -/
def loopedDaemon (cfg : AnsConfig) (boot : Boot) (events : List Event) : Daemon :=
  run (Daemon.step cfg) (startDaemon cfg boot) events

/-- The reset writes leave the automatic values in both fan-mode registers. -/
structure HandsOver (cfg : AnsConfig) (ec : EcDevice) : Prop where
  cpu : ResetTo cfg ec cfg.fanModes.cpuReg (cfg.fanModes.cpuValue .auto)
  gpu : ResetTo cfg ec cfg.fanModes.gpuReg (cfg.fanModes.gpuValue .auto)

/--
However the daemon ran, a shutdown whose writes work leaves the fans with the
firmware exactly when its reset writes hand them over.
-/
theorem shutdown_modes_iff {cfg : AnsConfig} (valid : cfg.Valid) (boot : Boot)
    (events : List Event)
    (worked : WritesWorked (loopedDaemon cfg boot events).ec
      (shutdownDaemon cfg (loopedDaemon cfg boot events)).ec) :
    FanModesAt (shutdownDaemon cfg (loopedDaemon cfg boot events)).ec cfg .auto ↔
      HandsOver cfg (loopedDaemon cfg boot events).ec := by
  rw [FanModesAt, shutdown_byte valid worked, shutdown_byte valid worked]
  constructor
  · rintro ⟨cpu, gpu⟩
    exact ⟨cpu, gpu⟩
  · intro handsOver
    exact ⟨handsOver.cpu, handsOver.gpu⟩

/-! ## The shipped profile -/

/-- The shipped profile without initial writes, and with the daemon's own curves as default. -/
def autoConfig : AnsConfig :=
  { AcerNitroAn517.separateConfig with defaultPreset := "auto".toList }

theorem autoConfig_valid : autoConfig.Valid :=
  { AcerNitroAn517.separateConfig_valid with defaultPreset := by decide }

/-- Without initial writes the daemon ends with the fans in manual mode. -/
theorem shutdown_modes_fails :
    ¬ ∀ (cfg : AnsConfig) (boot : Boot) (events : List Event), cfg.Valid →
      cfg.fanModes.available = true →
      WritesWorked (loopedDaemon cfg boot events).ec
        (shutdownDaemon cfg (loopedDaemon cfg boot events)).ec →
      FanModesAt (shutdownDaemon cfg (loopedDaemon cfg boot events)).ec cfg .auto := by
  intro claim
  have modes := claim autoConfig freshBoot [⟨freshBoot.host, fun _ => none, .signal⟩]
    autoConfig_valid rfl (writesWorked_of_faultless _ rfl _)
  exact absurd modes (by decide)

/-- Turbo mode, a poll, and the signal that ends the loop. -/
def turboRun : List Event :=
  [.command freshBoot.host "fan-mode turbo".toList, .poll freshBoot.host,
    ⟨freshBoot.host, fun _ => none, .signal⟩]

/-- The shipped profile hands the fans over from turbo mode, by the reset values of its initial
writes. -/
theorem shutdown_modes_turbo :
    FanModesAt (loopedDaemon AcerNitroAn517.config freshBoot turboRun).ec AcerNitroAn517.config
        .turbo ∧
      FanModesAt (shutdownDaemon AcerNitroAn517.config
        (loopedDaemon AcerNitroAn517.config freshBoot turboRun)).ec AcerNitroAn517.config .auto := by
  refine ⟨by decide +kernel, ?_⟩
  exact (shutdown_modes_iff AcerNitroAn517.config_valid freshBoot turboRun
    (writesWorked_of_faultless _ rfl _)).mpr ⟨rfl, rfl⟩

end NitroSense
