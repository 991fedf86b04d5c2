import NitroSense.Ec.PortRuns
import NitroSense.Fd

/-!
# The backends of the EC

`ec/ec.c`, `ec/file.c` and `ec/fake.c`: a device is opened through the first
backend that works, and every access goes through it.  What the kernel answers
is a parameter.  The EC of the model stands for every backend.
-/

namespace NitroSense

open Lib

inductive EcBackend where
  | none
  | ecSys
  | acpiEc
  | ioPorts
  | fake
  deriving DecidableEq, Repr

def EcBackend.isFile (backend : EcBackend) : Bool := backend == .ecSys || backend == .acpiEc

/-- `struct ec_device`; the fake registers are those from 0 to 255. -/
structure EcHandle where
  backend : EcBackend := .none
  fd : Int := -1
  name : CString := []
  fakeRegs : Int → UInt8 := fun _ => 0

/-! ## `ec/fake.c` -/

def fakeRegsSize : Int := 256

def fakeSetWord (regs : Int → UInt8) (reg value : Int) : Int → UInt8 :=
  if reg < 0 ∨ reg + 1 ≥ fakeRegsSize then regs
  else
    Function.update (Function.update regs reg (byteOfInt value)) (reg + 1) (byteOfInt (value / 256))

/-- `fake_ec_write_should_fail`, by the environment variable that it reads. -/
def fakeEcWriteShouldFail (failReg : Option CString) (reg : Int) : Bool :=
  match failReg with
  | none => false
  | some text =>
      if text = [] then false
      else if text = "all".toList then true
      else
        let parsed := strtol 0 text
        parsed.converted && parsed.rest = [] && parsed.value = reg

def ecOpenFake (ec : EcHandle) : EcHandle :=
  { ec with
    backend := .fake
    fd := -1
    name := "fake".toList
    fakeRegs := fakeSetWord (fakeSetWord ec.fakeRegs 0x13 3000) 0x15 2600 }

def ecFakeReadByte (regs : Int → UInt8) (reg : Int) : Int :=
  if reg < 0 ∨ reg ≥ fakeRegsSize then -1 else (regs reg).toNat

def ecFakeWriteByte (failReg : Option CString) (regs : Int → UInt8) (reg value : Int) :
    (Int → UInt8) × Int :=
  if reg < 0 ∨ reg ≥ fakeRegsSize then (regs, -1)
  else if fakeEcWriteShouldFail failReg reg then (regs, -1)
  else (Function.update regs reg (byteOfInt (clampInt value 0 255)), 0)

/-! ## `ec/file.c` -/

/-- `ec_file_read_byte`, by what the kernel answers to `pread`; `none` is a call that is
interrupted for ever. -/
def ecFileReadByte (regs : Int → UInt8) (reg : Int) : List SysResult → Option Int
  | [] => none
  | .interrupted :: answers => ecFileReadByte regs reg answers
  | .done 1 :: _ => some (regs reg).toNat
  | _ :: _ => some (-1)

/-- `ec_file_write_byte`; a byte is stored when the kernel says that it took one. -/
def ecFileWriteByte (regs : Int → UInt8) (reg value : Int) :
    List SysResult → Option ((Int → UInt8) × Int)
  | [] => none
  | .interrupted :: answers => ecFileWriteByte regs reg value answers
  | .done 1 :: _ => some (Function.update regs reg (byteOfInt (clampInt value 0 255)), 0)
  | _ :: _ => some (regs, -1)

/-! ## `ec/ec.c` -/

/-- What the kernel lets the process open: the descriptors of the files, and the ports. -/
structure EcSystem where
  opens : CString → Option Nat
  ioperm : UInt16 → Bool

structure EcHeld where
  fds : List Int := []
  ports : List UInt16 := []
  deriving DecidableEq, Repr

def ecOpenFileBackend (system : EcSystem) (path : CString) (backend : EcBackend) (name : CString)
    (opened : EcHeld × EcHandle) : (EcHeld × EcHandle) × Bool :=
  match system.opens path with
  | none => ((opened.1, { opened.2 with fd := -1 }), false)
  | some fd =>
      (({ opened.1 with fds := (fd : Int) :: opened.1.fds },
        { opened.2 with fd := fd, backend := backend, name := name }), true)

def ecOpenIoPorts (system : EcSystem) (opened : EcHeld × EcHandle) : (EcHeld × EcHandle) × Bool :=
  if system.ioperm ecDataPort = false then (opened, false)
  else
    let data := ecDataPort :: opened.1.ports
    if system.ioperm ecScPort = false then
      (({ opened.1 with ports := data.erase ecDataPort }, opened.2), false)
    else
      (({ opened.1 with ports := ecScPort :: data },
        { opened.2 with fd := -1, backend := .ioPorts, name := "io-ports".toList }), true)

def ecOpenRw (system : EcSystem) (path : CString) (held : EcHeld) :
    (EcHeld × EcHandle) × Bool :=
  let ec : EcHandle := {}
  if path = "fake".toList ∨ path = "fake:".toList then ((held, ecOpenFake ec), true)
  else
    let sys := ecOpenFileBackend system path .ecSys "ec-sys".toList (held, ec)
    if sys.2 then sys
    else
      let acpi := ecOpenFileBackend system "/dev/ec".toList .acpiEc "acpi-ec".toList sys.1
      if acpi.2 then acpi else ecOpenIoPorts system acpi.1

/-- `ec_close`, with `ec_file_close` and `ec_io_close`. -/
def ecClose (opened : EcHeld × EcHandle) : EcHeld × EcHandle :=
  let held := opened.1
  let ec := opened.2
  let held :=
    if ec.backend.isFile ∧ ec.fd ≥ 0 then { held with fds := held.fds.erase ec.fd } else held
  let held :=
    if ec.backend = .ioPorts then
      { held with ports := (held.ports.erase ecDataPort).erase ecScPort }
    else held
  (held, { ec with fd := -1, backend := .none })

def EcHandle.holds (ec : EcHandle) : EcHeld :=
  match ec.backend with
  | .ecSys | .acpiEc => { fds := if ec.fd ≥ 0 then [ec.fd] else [] }
  | .ioPorts => { ports := [ecScPort, ecDataPort] }
  | .none | .fake => {}

theorem ecOpenIoPorts_holds (system : EcSystem) (ec : EcHandle) (closed : ec.backend = .none) :
    let opened := ecOpenIoPorts system ({}, ec)
    opened.1.1 = opened.1.2.holds ∧ (opened.2 = true ↔ opened.1.2.backend ≠ .none) := by
  unfold ecOpenIoPorts
  dsimp only
  split
  · simp [EcHandle.holds, closed]
  · split
    · simp [EcHandle.holds, closed]
    · simp [EcHandle.holds]

theorem ecOpenFileBackend_holds (system : EcSystem) (path : CString) (backend : EcBackend)
    (file : backend.isFile = true) (name : CString) (ec : EcHandle) (closed : ec.backend = .none) :
    let opened := ecOpenFileBackend system path backend name ({}, ec)
    (opened.2 = false → opened.1.1 = {} ∧ opened.1.2.backend = .none) ∧
      (opened.2 = true → opened.1.1 = opened.1.2.holds ∧ opened.1.2.backend = backend) := by
  unfold ecOpenFileBackend
  dsimp only
  cases system.opens path with
  | none => exact ⟨fun _ => ⟨rfl, closed⟩, nofun⟩
  | some fd =>
      have valid : (fd : Int) ≥ 0 := Int.natCast_nonneg fd
      refine ⟨nofun, fun _ => ⟨?_, rfl⟩⟩
      cases backend with
      | ecSys => simp only [EcHandle.holds, if_pos valid]
      | acpiEc => simp only [EcHandle.holds, if_pos valid]
      | none => cases file
      | ioPorts => cases file
      | fake => cases file

/-- The process holds what belongs to the backend that was opened, and nothing without one. -/
theorem ecOpenRw_holds (system : EcSystem) (path : CString) :
    let opened := ecOpenRw system path {}
    opened.1.1 = opened.1.2.holds ∧ (opened.2 = true ↔ opened.1.2.backend ≠ .none) := by
  unfold ecOpenRw
  dsimp only
  split
  · simp [EcHandle.holds, ecOpenFake]
  · obtain ⟨sysFails, sysOpens⟩ :=
      ecOpenFileBackend_holds system path .ecSys rfl "ec-sys".toList {} rfl
    split
    · rename_i opens
      obtain ⟨holds, backend⟩ := sysOpens opens
      exact ⟨holds, iff_of_true opens (by rw [backend]; nofun)⟩
    · rename_i fails
      obtain ⟨nothing, closed⟩ := sysFails (Bool.eq_false_iff.mpr fails)
      generalize ecOpenFileBackend system path .ecSys "ec-sys".toList ({}, {}) = tried at *
      obtain ⟨⟨held, ec⟩, _⟩ := tried
      cases nothing
      obtain ⟨acpiFails, acpiOpens⟩ := ecOpenFileBackend_holds system "/dev/ec".toList .acpiEc
        rfl "acpi-ec".toList ec closed
      split
      · rename_i opens
        obtain ⟨holds, backend⟩ := acpiOpens opens
        exact ⟨holds, iff_of_true opens (by rw [backend]; nofun)⟩
      · rename_i fails
        obtain ⟨nothing, closed⟩ := acpiFails (Bool.eq_false_iff.mpr fails)
        generalize ecOpenFileBackend system "/dev/ec".toList .acpiEc "acpi-ec".toList ({}, ec) =
          tried at *
        obtain ⟨⟨held, ec⟩, _⟩ := tried
        cases nothing
        exact ecOpenIoPorts_holds system ec closed

/-- Closing it, the process gives back everything; a device that is closed answers nothing. -/
theorem ecClose_holds (ec : EcHandle) :
    (ecClose (ec.holds, ec)).1 = {} ∧ (ecClose (ec.holds, ec)).2.backend = .none := by
  refine ⟨?_, rfl⟩
  obtain ⟨backend, fd, name, fakeRegs⟩ := ec
  cases backend with
  | none => rfl
  | ecSys => by_cases valid : fd ≥ 0 <;> simp [ecClose, EcHandle.holds, EcBackend.isFile, valid]
  | acpiEc => by_cases valid : fd ≥ 0 <;> simp [ecClose, EcHandle.holds, EcBackend.isFile, valid]
  | ioPorts => rfl
  | fake => rfl

/-! ## Calls through a backend -/

/-- The device that is open, the registers of the EC behind the files, and the one behind the
ports. -/
structure EcBus (σ : Type) where
  ec : EcHandle
  regs : Int → UInt8
  device : σ

/-- A call, with the registers that the EC has changed by itself before it, and what the kernel
answers to its system calls. -/
structure EcTurn where
  call : EcCall
  refreshed : Int → Option UInt8 := fun _ => none
  answers : List SysResult := []

section Calls

variable {σ : Type} (ports : Ports σ) (failReg : Option CString)

def ecBackendRead (reg : Int) (answers : List SysResult) (bus : EcBus σ) :
    Option (EcBus σ × Int) :=
  if bus.ec.backend.isFile then
    (ecFileReadByte bus.regs reg answers).map fun result => (bus, result)
  else if bus.ec.backend = .ioPorts then
    let read := ecIoReadByte ports reg bus.device
    some ({ bus with device := read.1 }, read.2)
  else if bus.ec.backend = .fake then some (bus, ecFakeReadByte bus.ec.fakeRegs reg)
  else some (bus, -1)

def ecBackendWrite (reg value : Int) (answers : List SysResult) (bus : EcBus σ) :
    Option (EcBus σ × Int) :=
  if bus.ec.backend.isFile then
    (ecFileWriteByte bus.regs reg value answers).map fun written =>
      ({ bus with regs := written.1 }, written.2)
  else if bus.ec.backend = .ioPorts then
    let written := ecIoWriteByte ports reg value bus.device
    some ({ bus with device := written.1 }, written.2)
  else if bus.ec.backend = .fake then
    let written := ecFakeWriteByte failReg bus.ec.fakeRegs reg value
    some ({ bus with ec := { bus.ec with fakeRegs := written.1 } }, written.2)
  else some (bus, -1)

def ecBackendCall (turn : EcTurn) (bus : EcBus σ) : Option (EcBus σ × Int) :=
  let bus := { bus with regs := fun reg => (turn.refreshed reg).getD (bus.regs reg) }
  match turn.call with
  | .read reg => ecBackendRead ports reg turn.answers bus
  | .write reg value => ecBackendWrite ports failReg reg value turn.answers bus

/-- Calls one after the other, with what each returns; `none` is a call that does not return. -/
def ecBackendRun : List EcTurn → EcBus σ → Option (EcBus σ × List Int)
  | [], bus => some (bus, [])
  | turn :: turns, bus => do
      let current ← ecBackendCall ports failReg turn bus
      let later ← ecBackendRun turns current.1
      some (later.1, current.2 :: later.2)

end Calls

/-- The registers that calls reach without ports. -/
def EcBus.contents {σ : Type} (bus : EcBus σ) : Int → UInt8 :=
  if bus.ec.backend = .fake then bus.ec.fakeRegs else bus.regs

/-- The changes of the EC that a call meets on a device; a fake one changes nothing by itself. -/
def EcTurn.meets (turn : EcTurn) (backend : EcBackend) : Int → Option UInt8 :=
  if backend = .fake then fun _ => none else turn.refreshed

/-- What a call does to registers: it is refused, or it does what it is for. -/
inductive EcServes (regs : Int → UInt8) : EcCall → (Int → UInt8) → Int → Prop
  | refused (call : EcCall) : EcServes regs call regs (-1)
  | answered (reg : Int) : EcServes regs (.read reg) regs (regs reg).toNat
  | stored (reg value : Int) :
      EcServes regs (.write reg value)
        (Function.update regs reg (byteOfInt (clampInt value 0 255))) 0

section Serves

variable {regs : Int → UInt8} {answers : List SysResult}

theorem ecFileReadByte_serves (answered : ∃ answer ∈ answers, answer.settled = true) (reg : Int) :
    ∃ result, ecFileReadByte regs reg answers = some result ∧
      EcServes regs (.read reg) regs result := by
  induction answers with
  | nil =>
      obtain ⟨answer, member, -⟩ := answered
      cases member
  | cons answer answers ih =>
      cases answer with
      | interrupted =>
          obtain ⟨other, member, settled⟩ := answered
          rcases List.mem_cons.mp member with rfl | later
          · cases settled
          · exact ih ⟨other, later, settled⟩
      | failed => exact ⟨-1, rfl, .refused _⟩
      | done count =>
          by_cases one : count = 1
          · subst one
            exact ⟨_, rfl, .answered reg⟩
          · refine ⟨-1, ?_, .refused _⟩
            simp [ecFileReadByte, one]

theorem ecFileWriteByte_serves (answered : ∃ answer ∈ answers, answer.settled = true)
    (reg value : Int) :
    ∃ next result, ecFileWriteByte regs reg value answers = some (next, result) ∧
      EcServes regs (.write reg value) next result := by
  induction answers with
  | nil =>
      obtain ⟨answer, member, -⟩ := answered
      cases member
  | cons answer answers ih =>
      cases answer with
      | interrupted =>
          obtain ⟨other, member, settled⟩ := answered
          rcases List.mem_cons.mp member with rfl | later
          · cases settled
          · exact ih ⟨other, later, settled⟩
      | failed => exact ⟨regs, -1, rfl, .refused _⟩
      | done count =>
          by_cases one : count = 1
          · subst one
            exact ⟨_, 0, rfl, .stored reg value⟩
          · refine ⟨regs, -1, ?_, .refused _⟩
            simp [ecFileWriteByte, one]

theorem ecFakeReadByte_serves (reg : Int) :
    EcServes regs (.read reg) regs (ecFakeReadByte regs reg) := by
  unfold ecFakeReadByte
  split
  · exact .refused _
  · exact .answered reg

theorem ecFakeWriteByte_serves (failReg : Option CString) (reg value : Int) :
    EcServes regs (.write reg value) (ecFakeWriteByte failReg regs reg value).1
      (ecFakeWriteByte failReg regs reg value).2 := by
  unfold ecFakeWriteByte
  split
  · exact .refused _
  · split
    · exact .refused _
    · exact .stored reg value

end Serves

section Refinement

variable {σ : Type} {ports : Ports σ} {failReg : Option CString}

/-- A call on an open file. -/
theorem fileCall_serves {ec : EcHandle} (file : ec.backend.isFile = true) {turn : EcTurn}
    (answered : ∃ answer ∈ turn.answers, answer.settled = true) (regs : Int → UInt8)
    (device : σ) :
    ∃ next result, ecBackendCall ports failReg turn ⟨ec, regs, device⟩ =
        some (⟨ec, next, device⟩, result) ∧
      EcServes (fun reg => (turn.refreshed reg).getD (regs reg)) turn.call next result := by
  obtain ⟨call, refreshed, answers⟩ := turn
  cases call with
  | read reg =>
      obtain ⟨result, read, serves⟩ := @ecFileReadByte_serves
        (fun reg => (refreshed reg).getD (regs reg)) answers answered reg
      refine ⟨_, result, ?_, serves⟩
      simp only [ecBackendCall, ecBackendRead, file, if_true, read, Option.map_some]
  | write reg value =>
      obtain ⟨next, result, written, serves⟩ := @ecFileWriteByte_serves
        (fun reg => (refreshed reg).getD (regs reg)) answers answered reg value
      refine ⟨next, result, ?_, serves⟩
      simp only [ecBackendCall, ecBackendWrite, file, if_true, written, Option.map_some]

/-- Without ports a call serves the registers that the device reaches. -/
theorem ecBackendCall_serves {turn : EcTurn} {bus : EcBus σ}
    (noPorts : bus.ec.backend ≠ .ioPorts)
    (answered : bus.ec.backend.isFile = true →
      ∃ answer ∈ turn.answers, answer.settled = true) :
    ∃ next result, ecBackendCall ports failReg turn bus = some (next, result) ∧
      next.ec.backend = bus.ec.backend ∧
      EcServes (fun reg => (turn.meets bus.ec.backend reg).getD (bus.contents reg)) turn.call
        next.contents result := by
  obtain ⟨⟨backend, fd, name, fakeRegs⟩, regs, device⟩ := bus
  obtain ⟨call, refreshed, answers⟩ := turn
  cases backend with
  | ioPorts => exact absurd rfl noPorts
  | none =>
      cases call with
      | read reg => exact ⟨_, -1, rfl, rfl, .refused _⟩
      | write reg value => exact ⟨_, -1, rfl, rfl, .refused _⟩
  | fake =>
      cases call with
      | read reg => exact ⟨_, _, rfl, rfl, ecFakeReadByte_serves reg⟩
      | write reg value => exact ⟨_, _, rfl, rfl, ecFakeWriteByte_serves failReg reg value⟩
  | ecSys =>
      obtain ⟨next, result, called, serves⟩ := @fileCall_serves σ ports failReg
        ⟨.ecSys, fd, name, fakeRegs⟩ rfl ⟨call, refreshed, answers⟩ (answered rfl) regs device
      exact ⟨_, result, called, rfl, serves⟩
  | acpiEc =>
      obtain ⟨next, result, called, serves⟩ := @fileCall_serves σ ports failReg
        ⟨.acpiEc, fd, name, fakeRegs⟩ rfl ⟨call, refreshed, answers⟩ (answered rfl) regs device
      exact ⟨_, result, called, rfl, serves⟩

/-- What serves registers is what the EC of the model does, when it fails where that did. -/
theorem EcServes.device {ec : EcDevice} {call : EcCall} {next : Int → UInt8} {result : Int}
    {refreshed : Int → Option UInt8} {calls : List EcCall} {results : List Int}
    (serves : EcServes (fun reg => (refreshed reg).getD (ec.regs reg)) call next result)
    (fails : FailsAs ec (call :: calls) (result :: results)) :
    (ecDeviceCall (ec.refresh refreshed) call).2 = result ∧
      (ecDeviceCall (ec.refresh refreshed) call).1.regs = next ∧
      FailsAs (ecDeviceCall (ec.refresh refreshed) call).1 calls results := by
  cases serves with
  | refused =>
      cases call with
      | read reg =>
          have failing := fails.readFails
          refine ⟨?_, rfl, fails.read refreshed⟩
          simp only [ecDeviceCall, ecReadByte, EcDevice.refresh, failing]
          rfl
      | write reg value =>
          have failing : (ec.refresh refreshed).nextWriteOk = false := fails.nextWriteOk
          refine ⟨?_, ?_, fails.write refreshed⟩
          · simp [ecDeviceCall, failing]
          · simp only [ecDeviceCall, ecWriteByte, failing]
            rfl
  | answered reg =>
      have works := fails.readFails
      have byte : ((((refreshed reg).getD (ec.regs reg)).toNat : Int) == -1) = false := by simp
      rw [byte] at works
      refine ⟨?_, rfl, fails.read refreshed⟩
      simp only [ecDeviceCall, ecReadByte, EcDevice.refresh, works]
      rfl
  | stored reg value =>
      have works : (ec.refresh refreshed).nextWriteOk = true := fails.nextWriteOk
      obtain ⟨lower, upper⟩ := clampInt_byte_bounds value
      refine ⟨?_, ?_, fails.write refreshed⟩
      · simp [ecDeviceCall, works]
      · simp only [ecDeviceCall, ecWriteByte, works, if_true]
        rw [byteOfInt_byte lower upper]
        rfl

/-- A run without ports, on the EC of the model that fails as it does. -/
theorem ecBackendRun_same {turns : List EcTurn} {bus : EcBus σ}
    (noPorts : bus.ec.backend ≠ .ioPorts)
    (answered : bus.ec.backend.isFile = true →
      ∀ turn ∈ turns, ∃ answer ∈ turn.answers, answer.settled = true) :
    ∃ last results, ecBackendRun ports failReg turns bus = some (last, results) ∧
      ∀ ec : EcDevice, ec.regs = bus.contents → FailsAs ec (turns.map EcTurn.call) results →
        let run := ecDeviceRun
          (turns.map fun turn => (turn.call, turn.meets bus.ec.backend)) ec
        run.2 = results ∧ run.1.regs = last.contents := by
  induction turns generalizing bus with
  | nil => exact ⟨bus, [], rfl, fun ec same _ => ⟨rfl, same⟩⟩
  | cons turn turns ih =>
      obtain ⟨next, result, called, backend, serves⟩ := @ecBackendCall_serves σ ports failReg turn
        bus noPorts fun file => answered file turn List.mem_cons_self
      obtain ⟨last, results, ran, same⟩ := @ih next (backend ▸ noPorts) fun file other member =>
        answered (backend ▸ file) other (List.mem_cons_of_mem _ member)
      refine ⟨last, result :: results, ?_, fun ec regs fails => ?_⟩
      · rw [ecBackendRun, called]
        simp [ran]
      · rw [← regs] at serves
        obtain ⟨answer, contents, later⟩ := serves.device fails
        obtain ⟨answers, final⟩ := same _ contents later
        rw [backend] at answers final
        exact ⟨congrArg₂ List.cons answer answers, final⟩

end Refinement

/--
Through the files and through the fake device, whatever the kernel interrupts
or refuses, a run of reads and writes returns, and it returns and leaves what it
does on the EC of the model for some pattern of failures.
-/
theorem ec_backends_refine_device {σ : Type} (ports : Ports σ) (failReg : Option CString)
    {turns : List EcTurn} {bus : EcBus σ} (noPorts : bus.ec.backend ≠ .ioPorts)
    (answered : bus.ec.backend.isFile = true →
      ∀ turn ∈ turns, ∃ answer ∈ turn.answers, answer.settled = true) :
    ∃ last results, ecBackendRun ports failReg turns bus = some (last, results) ∧
      ∃ readFails writeFails,
        let ec : EcDevice :=
          { regs := bus.contents, readFails := readFails, writeFails := writeFails }
        let run := ecDeviceRun
          (turns.map fun turn => (turn.call, turn.meets bus.ec.backend)) ec
        run.2 = results ∧ run.1.regs = last.contents := by
  obtain ⟨last, results, ran, same⟩ := @ecBackendRun_same σ ports failReg turns bus noPorts answered
  refine ⟨last, results, ran, fun index => (failedReads (turns.map EcTurn.call) results).getD index
    false, fun index => (failedWrites (turns.map EcTurn.call) results).getD index false, ?_⟩
  refine same _ rfl ⟨fun index => ?_, fun index => ?_⟩
  · exact congrArg (fun index => (failedReads (turns.map EcTurn.call) results).getD index false)
      (Nat.zero_add index)
  · exact congrArg (fun index => (failedWrites (turns.map EcTurn.call) results).getD index false)
      (Nat.zero_add index)

/-- A file whose reads are interrupted, and whose writes are refused. -/
theorem ec_backends_refine_device_interrupted :
    let bus : EcBus Unit := ⟨{ backend := .ecSys, fd := 3 }, fun _ => 7, ()⟩
    let ports : Ports Unit := ⟨fun _ device => (device, 0), fun _ _ device => device⟩
    let turns : List EcTurn :=
      [{ call := .read 5, answers := [.interrupted, .done 1] },
        { call := .write 5 9, answers := [.interrupted, .interrupted, .failed] }]
    ∃ last results, ecBackendRun ports none turns bus = some (last, results) ∧
      ∃ readFails writeFails,
        let ec : EcDevice :=
          { regs := bus.contents, readFails := readFails, writeFails := writeFails }
        let run := ecDeviceRun
          (turns.map fun turn => (turn.call, turn.meets bus.ec.backend)) ec
        run.2 = results ∧ run.1.regs = last.contents := by
  intro bus ports turns
  refine ec_backends_refine_device ports none nofun fun _ => ?_
  intro turn member
  rcases List.mem_cons.mp member with rfl | later
  · exact ⟨.done 1, by simp, rfl⟩
  · rw [List.mem_singleton.mp later]
    exact ⟨.failed, by simp, rfl⟩

end NitroSense
