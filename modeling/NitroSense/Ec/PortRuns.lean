import NitroSense.Ec.PortRegisters

/-!
# Runs through the ports

A run of reads and writes through the ports gives what the EC of the model
gives, failures included, as long as no read gives up with its address sent.
After such a read the answers of every later run are those of the reads before.
-/

namespace NitroSense

open Lib

def EcCall.reg : EcCall → Int
  | .read reg => reg
  | .write reg _ => reg

/-- A read that sends its address and gives up waiting for the byte. -/
def ecIoGivesUp {σ : Type} (ports : Ports σ) (device : σ) : EcCall → Bool
  | .read reg => ecIoReadGivesUp ports reg device
  | .write _ _ => false

/-- No read of the run gives up waiting for its byte. -/
def NoneGivesUp {σ : Type} (ports : Ports σ) (device : σ) (calls : List EcCall) : Prop :=
  Along (fun device call => (ecIoCall ports call device).1)
    (fun device call => ecIoGivesUp ports device call = false) device calls

def PortFile.Call (givesUp : Bool) (file : PortFile) (result : Int) (next : PortFile) :
    EcCall → Prop
  | .read reg => file.Read (byteOfInt reg) givesUp result next
  | .write reg value => file.Write (byteOfInt reg) (byteOfInt (clampInt value 0 255)) result next

/-- Calls on the EC of the model, each after a refresh of its registers. -/
def ecDeviceCall (ec : EcDevice) : EcCall → EcDevice × Int
  | .read reg => ecReadByte ec reg
  | .write reg value => ((ecWriteByte ec reg value).1, if (ecWriteByte ec reg value).2 then 0 else -1)

def ecDeviceRun : List (EcCall × (Int → Option UInt8)) → EcDevice → EcDevice × List Int
  | [], ec => (ec, [])
  | (call, refreshed) :: rest, ec =>
      let current := ecDeviceCall (ec.refresh refreshed) call
      let later := ecDeviceRun rest current.1
      (later.1, current.2 :: later.2)

section Run

variable {σ : Type} {ports : Ports σ} {view : σ → EcController} {device : σ}

theorem ecIoCall_serves (follows : FollowsProtocol ports view) {file : PortFile}
    (serves : Serves (view device) file) (call : EcCall) :
    ∃ next, file.Call (ecIoGivesUp ports device call) (ecIoCall ports call device).2 next call ∧
      Serves (view (ecIoCall ports call device).1) next := by
  cases call with
  | read reg => exact ecIoReadByte_serves follows serves reg
  | write reg value => exact ecIoWriteByte_serves follows serves reg value

end Run

/-! ## The EC of the model -/

/-- The registers of the model's EC are as far as known those behind the ports. -/
def Mirrors (regs : KnownRegs) (ec : EcDevice) : Prop :=
  ∀ reg known, 0 ≤ reg → reg < 256 → regs (byteOfInt reg) = some known → ec.regs reg = known

/-- A refresh that only touches registers of unknown content. -/
def SensorsOnly (regs : KnownRegs) (refreshed : Int → Option UInt8) : Prop :=
  ∀ reg, regs (byteOfInt reg) ≠ none → refreshed reg = none

def failedReads : List EcCall → List Int → List Bool
  | .read _ :: calls, result :: results => (result == -1) :: failedReads calls results
  | .write _ _ :: calls, _ :: results => failedReads calls results
  | _, _ => []

def failedWrites : List EcCall → List Int → List Bool
  | .write _ _ :: calls, result :: results => (result == -1) :: failedWrites calls results
  | .read _ :: calls, _ :: results => failedWrites calls results
  | _, _ => []

/-- The accesses the EC of the model has still to make fail as those of the run did. -/
structure FailsAs (ec : EcDevice) (calls : List EcCall) (results : List Int) : Prop where
  reads : ∀ index, ec.readFails (ec.reads.length + index) =
    (failedReads calls results).getD index false
  writes : ∀ index, ec.writeFails (ec.writes.length + index) =
    (failedWrites calls results).getD index false

theorem byteOfInt_inj {first second : Int} (firstLow : 0 ≤ first) (firstHigh : first < 256)
    (secondLow : 0 ≤ second) (secondHigh : second < 256)
    (same : byteOfInt first = byteOfInt second) : first = second := by
  have toNat := congrArg UInt8.toNat same
  simp only [byteOfInt, UInt8.toNat_ofNat'] at toNat
  omega

theorem byteOfInt_byte {value : Int} (low : 0 ≤ value) (high : value ≤ 255) :
    byteOfInt value = UInt8.ofNat value.toNat := by
  rw [byteOfInt, Int.emod_eq_of_lt low (by omega)]

theorem storeReg_unknown (regs : KnownRegs) (address byte reg : UInt8) :
    storeReg regs address byte reg = none ↔ regs reg = none := by
  rw [storeReg]
  by_cases here : reg = address
  · rw [here, Function.update_self, Option.map_eq_none_iff]
  · rw [Function.update_of_ne here]

section Mirror

variable {regs : KnownRegs} {ec : EcDevice}

theorem Mirrors.refresh (mirrors : Mirrors regs ec) {refreshed : Int → Option UInt8}
    (sensors : SensorsOnly regs refreshed) : Mirrors regs (ec.refresh refreshed) := by
  intro reg known low high content
  have untouched : refreshed reg = none := sensors reg (by simp [content])
  simpa [EcDevice.refresh, untouched] using mirrors reg known low high content

theorem Mirrors.write (mirrors : Mirrors regs ec) {reg : Int} (low : 0 ≤ reg) (high : reg < 256)
    (value : Int) (ok : ec.nextWriteOk = true) :
    Mirrors (storeReg regs (byteOfInt reg) (byteOfInt (clampInt value 0 255)))
      (ecWriteByte ec reg value).1 := by
  intro other known otherLow otherHigh content
  simp only [ecWriteByte, ok, if_true]
  by_cases here : other = reg
  · rw [here] at content ⊢
    obtain ⟨lower, upper⟩ := clampInt_byte_bounds value
    rw [storeReg, Function.update_self, byteOfInt_byte lower upper] at content
    rw [Function.update_self]
    obtain ⟨old, -, stored⟩ := Option.map_eq_some_iff.mp content
    exact stored
  · have apart : byteOfInt other ≠ byteOfInt reg := fun same =>
      here (byteOfInt_inj otherLow otherHigh low high same)
    rw [storeReg, Function.update_of_ne apart] at content
    rw [Function.update_of_ne here]
    exact mirrors other known otherLow otherHigh content

theorem Mirrors.failedWrite (mirrors : Mirrors regs ec) (fails : ec.nextWriteOk = false)
    (reg value : Int) : Mirrors regs (ecWriteByte ec reg value).1 := by
  intro other known low high content
  simp only [ecWriteByte, fails]
  exact mirrors other known low high content

variable {calls : List EcCall} {results : List Int} {result : Int}

theorem FailsAs.read {reg : Int} (fails : FailsAs ec (.read reg :: calls) (result :: results))
    (refreshed : Int → Option UInt8) :
    FailsAs (ecReadByte (ec.refresh refreshed) reg).1 calls results := by
  refine ⟨fun index => ?_, fails.writes⟩
  have shifted := fails.reads (index + 1)
  simpa [failedReads, ecReadByte, EcDevice.refresh, Nat.add_assoc, Nat.add_comm 1 index] using shifted

theorem FailsAs.write {reg value : Int}
    (fails : FailsAs ec (.write reg value :: calls) (result :: results))
    (refreshed : Int → Option UInt8) :
    FailsAs (ecWriteByte (ec.refresh refreshed) reg value).1 calls results := by
  refine ⟨fails.reads, fun index => ?_⟩
  have shifted := fails.writes (index + 1)
  simpa [failedWrites, ecWriteByte, EcDevice.refresh, Nat.add_assoc, Nat.add_comm 1 index]
    using shifted

theorem FailsAs.readFails {reg : Int}
    (fails : FailsAs ec (.read reg :: calls) (result :: results)) :
    ec.readFails ec.reads.length = (result == -1) := by
  simpa [failedReads] using fails.reads 0

theorem FailsAs.nextWriteOk {reg value : Int}
    (fails : FailsAs ec (.write reg value :: calls) (result :: results)) :
    ec.nextWriteOk = !(result == -1) := by
  have here := fails.writes 0
  rw [Nat.add_zero] at here
  rw [EcDevice.nextWriteOk, here]
  rfl

/-- One call, none of it late: the EC of the model does the same after a refresh of its sensors. -/
theorem ecDeviceCall_same (mirrors : Mirrors regs ec) {call : EcCall} (low : 0 ≤ call.reg)
    (high : call.reg < 256) {next : PortFile}
    (step : PortFile.Call false ⟨regs, none⟩ result next call)
    (fails : FailsAs ec (call :: calls) (result :: results)) :
    ∃ refreshed, SensorsOnly regs refreshed ∧
      (ecDeviceCall (ec.refresh refreshed) call).2 = result ∧ next.owed = none ∧
      Mirrors next.regs (ecDeviceCall (ec.refresh refreshed) call).1 ∧
      (∀ reg, next.regs reg = none ↔ regs reg = none) ∧
      FailsAs (ecDeviceCall (ec.refresh refreshed) call).1 calls results := by
  have idle : SensorsOnly regs fun _ => none := fun _ _ => rfl
  cases call with
  | read reg =>
      have failing := fails.readFails
      cases step with
      | refused =>
          refine ⟨fun _ => none, idle, ?_, rfl, mirrors.refresh idle, fun _ => Iff.rfl,
            fails.read _⟩
          simp only [ecDeviceCall, ecReadByte, EcDevice.refresh, failing]
          rfl
      | answered _ byte may =>
          have sensors : SensorsOnly regs fun other =>
              if other = reg ∧ regs (byteOfInt reg) = none then some byte else none := by
            intro other known
            refine if_neg fun sensor => known ?_
            rw [sensor.1, sensor.2]
          refine ⟨_, sensors, ?_, rfl, mirrors.refresh sensors, fun _ => Iff.rfl, fails.read _⟩
          have answered : ((byte.toNat : Int) == -1) = false := by simp
          have content : (ec.refresh fun other =>
              if other = reg ∧ regs (byteOfInt reg) = none then some byte else none).byte reg =
              byte.toNat := by
            cases known : regs (byteOfInt reg) with
            | none => simp [EcDevice.byte, EcDevice.refresh]
            | some value =>
                have same := may value known
                simp [EcDevice.byte, EcDevice.refresh, same, mirrors reg value low high known]
          rw [answered] at failing
          simp only [ecDeviceCall, ecReadByte, content]
          rw [if_neg]
          simp [EcDevice.refresh, failing]
  | write reg value =>
      have works := fails.nextWriteOk
      cases step with
      | refused =>
          refine ⟨fun _ => none, idle, ?_, rfl, ?_, fun _ => Iff.rfl, fails.write _⟩
          · have fails : (ec.refresh fun _ => none).nextWriteOk = false := works
            simp [ecDeviceCall, fails]
          · exact (mirrors.refresh idle).failedWrite works reg value
      | stored =>
          have ok : (ec.refresh fun _ => none).nextWriteOk = true := works
          refine ⟨fun _ => none, idle, ?_, rfl, ?_, fun other => ?_, fails.write _⟩
          · simp [ecDeviceCall, ok]
          · exact (mirrors.refresh idle).write low high value ok
          · exact storeReg_unknown regs _ _ other

theorem SensorsOnly.congr {other : KnownRegs} {refreshed : Int → Option UInt8}
    (sensors : SensorsOnly other refreshed) (same : ∀ reg, other reg = none ↔ regs reg = none) :
    SensorsOnly regs refreshed :=
  fun reg known => sensors reg fun unknown => known ((same _).mp unknown)

/-- A run none of whose reads gives up, on an EC that fails as it does. -/
theorem ecIoRun_same {σ : Type} {ports : Ports σ} {view : σ → EcController}
    (follows : FollowsProtocol ports view) {calls : List EcCall} {device : σ}
    (serves : Serves (view device) ⟨regs, none⟩)
    (registers : ∀ call ∈ calls, 0 ≤ call.reg ∧ call.reg < 256)
    (prompt : NoneGivesUp ports device calls)
    (mirrors : Mirrors regs ec) (fails : FailsAs ec calls (ecIoRun ports calls device).2) :
    ∃ refreshes, refreshes.length = calls.length ∧
      (∀ refreshed ∈ refreshes, SensorsOnly regs refreshed) ∧
      (ecDeviceRun (calls.zip refreshes) ec).2 = (ecIoRun ports calls device).2 ∧
      ∃ last, Serves (view (ecIoRun ports calls device).1) ⟨last, none⟩ ∧
        Mirrors last (ecDeviceRun (calls.zip refreshes) ec).1 := by
  induction calls generalizing device regs ec with
  | nil => exact ⟨[], rfl, by simp, rfl, regs, serves, mirrors⟩
  | cons call rest ih =>
      obtain ⟨low, high⟩ := registers call List.mem_cons_self
      obtain ⟨⟨nextRegs, owed⟩, step, servesNext⟩ := ecIoCall_serves follows serves call
      rw [prompt.1] at step
      rw [ecIoRun_cons] at fails ⊢
      obtain ⟨refreshed, sensors, result, rfl, mirrorsNext, unknown, failsNext⟩ :=
        ecDeviceCall_same mirrors low high step fails
      obtain ⟨refreshes, length, laterSensors, results, last, servesLast, mirrorsLast⟩ :=
        ih servesNext (fun call member => registers call (List.mem_cons_of_mem _ member)) prompt.2
          mirrorsNext failsNext
      refine ⟨refreshed :: refreshes, by rw [List.length_cons, length]; rfl, ?_, ?_, last,
        servesLast, mirrorsLast⟩
      · intro refreshed' member
        rcases List.mem_cons.mp member with rfl | later
        · exact sensors
        · exact (laterSensors _ later).congr unknown
      · exact congrArg₂ List.cons result results

end Mirror

/-! ### A controller that follows the protocol -/

def EcController.turn (controller : EcController) : EcController :=
  match controller.phase with
  | .fetching address =>
      if controller.output.isNone then
        { controller with output := some ((controller.regs address).getD 0), phase := .idle }
      else controller
  | _ =>
      match controller.input with
      | some byte => controller.take byte
      | none => controller

/-- The status register: the flags of the two buffers. -/
def EcController.status (controller : EcController) : UInt8 :=
  (if controller.input.isSome then ecStatusIbf else 0) |||
    (if controller.output.isSome then ecStatusObf else 0)

/-- Ports of a controller that does nothing for `sleep` status reads after each data byte. -/
def pacedPorts (sleep : Nat) : Ports (EcController × Nat) where
  inb port device :=
    if port = ecDataPort then (({ device.1 with output := none }, device.2), device.1.output.getD 0)
    else
      match device.2 with
      | 0 => ((device.1.turn, 0), device.1.turn.status)
      | rest + 1 => ((device.1, rest), device.1.status)
  outb value port device :=
    ({ device.1 with input := some (hostByte port value) },
      if port = ecDataPort then sleep else device.2)

theorem EcController.turn_works (controller : EcController) :
    Relation.ReflTransGen EcController.Works controller controller.turn := by
  rw [turn]
  split
  case h_1 address fetching =>
    split
    case isTrue free =>
      refine .single (.posts fetching (Option.isNone_iff_eq_none.mp free) fun value known => ?_)
      rw [known]
      rfl
    case isFalse => exact .refl
  case h_2 free =>
    split
    case h_1 byte waiting => exact .single (.takes waiting free)
    case h_2 => exact .refl

theorem EcController.status_ibf (controller : EcController) :
    statusClear ecStatusIbf controller.status = controller.input.isNone := by
  rw [status, ← Option.not_isSome]
  cases controller.input.isSome <;> cases controller.output.isSome <;> decide

theorem EcController.status_obf (controller : EcController) :
    statusClear ecStatusObf controller.status = controller.output.isNone := by
  rw [status, ← Option.not_isSome]
  cases controller.input.isSome <;> cases controller.output.isSome <;> decide

theorem pacedPorts_follows (sleep : Nat) : FollowsProtocol (pacedPorts sleep) Prod.fst where
  works := by
    rintro ⟨controller, asleep⟩
    cases asleep with
    | zero => exact controller.turn_works
    | succ rest => exact .refl
  inputFull := by
    rintro ⟨controller, asleep⟩
    cases asleep with
    | zero => exact controller.turn.status_ibf
    | succ rest => exact controller.status_ibf
  outputFull := by
    rintro ⟨controller, asleep⟩
    cases asleep with
    | zero => exact controller.turn.status_obf
    | succ rest => exact controller.status_obf
  takesByte := fun device _ _ _ _ => ⟨device.1, .refl, rfl⟩
  givesByte := by
    rintro ⟨controller, asleep⟩ byte full
    refine ⟨?_, controller, .refl, rfl⟩
    have here : controller.output = some byte := full
    simp [pacedPorts, here]

/--
Through the ports of a controller that follows the protocol at any pace, a run
of reads and writes returns what it returns on the EC of the model, for some
pattern of failures and some refreshes of the registers the EC changes by
itself, and leaves the same registers, provided no read gives up waiting for
its byte.
-/
theorem ec_ports_refine_device {σ : Type} {ports : Ports σ} {view : σ → EcController}
    (follows : FollowsProtocol ports view) {regs : KnownRegs} {calls : List EcCall} {device : σ}
    (serves : Serves (view device) ⟨regs, none⟩)
    (registers : ∀ call ∈ calls, 0 ≤ call.reg ∧ call.reg < 256)
    (prompt : NoneGivesUp ports device calls)
    {contents : Int → UInt8} (mirrors : Mirrors regs { regs := contents }) :
    ∃ readFails writeFails refreshes, refreshes.length = calls.length ∧
      (∀ refreshed ∈ refreshes, SensorsOnly regs refreshed) ∧
      let ec : EcDevice := { regs := contents, readFails := readFails, writeFails := writeFails }
      (ecDeviceRun (calls.zip refreshes) ec).2 = (ecIoRun ports calls device).2 ∧
        ∃ last, Serves (view (ecIoRun ports calls device).1) ⟨last, none⟩ ∧
          Mirrors last (ecDeviceRun (calls.zip refreshes) ec).1 := by
  let results := (ecIoRun ports calls device).2
  refine ⟨fun index => (failedReads calls results).getD index false,
    fun index => (failedWrites calls results).getD index false, ?_⟩
  refine ecIoRun_same follows serves registers prompt mirrors ⟨fun index => ?_, fun index => ?_⟩
  · exact congrArg (fun index => (failedReads calls results).getD index false) (Nat.zero_add index)
  · exact congrArg (fun index => (failedWrites calls results).getD index false) (Nat.zero_add index)

/-- A prompt controller of which register 3 is known. -/
def promptStart : EcController × Nat :=
  (⟨fun reg => if reg = 3 then some 4 else none, none, none, .idle⟩, 0)

theorem ec_ports_refine_device_prompt :
    let calls := [EcCall.write 3 17, .read 3]
    ∃ readFails writeFails refreshes, refreshes.length = calls.length ∧
      (∀ refreshed ∈ refreshes, SensorsOnly promptStart.1.regs refreshed) ∧
      let ec : EcDevice :=
        { regs := fun _ => 4, readFails := readFails, writeFails := writeFails }
      (ecDeviceRun (calls.zip refreshes) ec).2 = (ecIoRun (pacedPorts 0) calls promptStart).2 ∧
        ∃ last, Serves (ecIoRun (pacedPorts 0) calls promptStart).1.1 ⟨last, none⟩ ∧
          Mirrors last (ecDeviceRun (calls.zip refreshes) ec).1 := by
  intro calls
  have serves : Serves promptStart.1 ⟨promptStart.1.regs, none⟩ := ⟨rfl, rfl, rfl⟩
  have mirrors : Mirrors promptStart.1.regs { regs := fun _ => 4 } := by
    intro reg known _ _ content
    have here : (if byteOfInt reg = 3 then some 4 else none) = some known := content
    split at here
    · exact Option.some.inj here
    · cases here
  have prompt : NoneGivesUp (pacedPorts 0) promptStart calls := ⟨rfl, by decide, trivial⟩
  exact ec_ports_refine_device (pacedPorts_follows 0) serves (by decide) prompt mirrors

/-! ## Answers that come late -/

/-- What is known of the registers that the answered reads of a run asked for. -/
def askedRegs (regs : KnownRegs) : List EcCall → List Int → List (Option UInt8)
  | .read reg :: calls, result :: results =>
      if result = -1 then askedRegs regs calls results
      else regs (byteOfInt reg) :: askedRegs regs calls results
  | .write reg value :: calls, result :: results =>
      if result = -1 then askedRegs regs calls results
      else
        askedRegs (storeReg regs (byteOfInt reg) (byteOfInt (clampInt value 0 255))) calls results
  | _, _ => []

def readAnswers : List EcCall → List Int → List Int
  | .read _ :: calls, result :: results =>
      if result = -1 then readAnswers calls results else result :: readAnswers calls results
  | .write _ _ :: calls, _ :: results => readAnswers calls results
  | _, _ => []

/-- A read of a register with this known content may return `answer`. -/
def MayReturn (known : Option UInt8) (answer : Int) : Prop :=
  ∃ byte, MayRead known byte ∧ answer = byte.toNat

section Late

variable {σ : Type} {ports : Ports σ} {view : σ → EcController} {device : σ}

/-- While a byte is owed, each answer is the byte of the read before. -/
theorem ecIoRun_behind (follows : FollowsProtocol ports view) {regs : KnownRegs}
    {known : Option UInt8} (serves : Serves (view device) ⟨regs, some known⟩) (calls : List EcCall) :
    let results := (ecIoRun ports calls device).2
    List.Forall₂ MayReturn (known :: askedRegs regs calls results).dropLast
      (readAnswers calls results) := by
  induction calls generalizing device regs known with
  | nil => exact .nil
  | cons call rest ih =>
      obtain ⟨next, step, serves⟩ := ecIoCall_serves follows serves call
      rw [ecIoRun_cons]
      cases call with
      | read reg =>
          generalize (ecIoCall ports (.read reg) device).2 = result at step ⊢
          generalize ecIoGivesUp ports device (.read reg) = givesUp at step
          cases step with
          | refused => exact ih serves
          | late _ nothing => cases nothing
          | answered _ byte may =>
              have answered : (byte.toNat : Int) ≠ -1 := by omega
              simp only [askedRegs, readAnswers, if_neg answered, List.dropLast_cons_cons]
              exact .cons ⟨byte, may, rfl⟩ (ih serves)
      | write reg value =>
          generalize (ecIoCall ports (.write reg value) device).2 = result at step ⊢
          cases step with
          | refused => exact ih serves
          | stored =>
              simp only [askedRegs, readAnswers]
              exact ih serves

/-- A read that gives up leaves its byte owed. -/
theorem ecIoReadByte_late (follows : FollowsProtocol ports view) {regs : KnownRegs}
    (serves : Serves (view device) ⟨regs, none⟩) {reg : Int}
    (late : ecIoReadGivesUp ports reg device = true) :
    Serves (view (ecIoReadByte ports reg device).1) ⟨regs, some (regs (byteOfInt reg))⟩ := by
  obtain ⟨next, step, serves⟩ := ecIoReadByte_serves follows serves reg
  rw [late] at step
  generalize (ecIoReadByte ports reg device).2 = result at step
  cases step with
  | late _ nothing => exact serves

end Late

/--
After a read that gave up waiting for its byte, whatever is read and written
later, at whatever pace of the controller: every answered read returns the
content that the register of the answered read before it had then, the first
one that of the register whose read gave up.
-/
theorem ec_ports_stay_behind {σ : Type} {ports : Ports σ} {view : σ → EcController}
    (follows : FollowsProtocol ports view) {device : σ} {regs : KnownRegs}
    (serves : Serves (view device) ⟨regs, none⟩) {reg : Int}
    (late : ecIoReadGivesUp ports reg device = true) (calls : List EcCall) :
    let results := (ecIoRun ports calls (ecIoReadByte ports reg device).1).2
    List.Forall₂ MayReturn (regs (byteOfInt reg) :: askedRegs regs calls results).dropLast
      (readAnswers calls results) :=
  ecIoRun_behind follows (ecIoReadByte_late follows serves late) calls

/-- An awake controller lets the host send a byte at once, after a piece of its work. -/
theorem pacedPorts_send (sleep : Nat) {controller : EcController} (value : UInt8) (port : UInt16)
    (empty : controller.turn.input = none) :
    sendWhenClear (pacedPorts sleep) value port (controller, 0) =
      ((pacedPorts sleep).outb value port (controller.turn, 0), true) := by
  have clear : statusClear ecStatusIbf controller.turn.status = true := by
    rw [controller.turn.status_ibf, empty]
    rfl
  have polled : waitStatusClear (pacedPorts sleep) ecStatusIbf (controller, 0) =
      ((controller.turn, 0), true) := by
    rw [waitStatusClear, waitStatusPolls]
    exact pollUntil_first clear
  rw [sendWhenClear_idle value port (by rw [polled]), polled]

/-- A controller that sleeps through the polls for its byte makes a read give up. -/
theorem pacedPorts_givesUp : ecIoReadGivesUp (pacedPorts waitStatusPolls) 3 promptStart = true := by
  let Asleep (rest : Nat) (device : EcController × Nat) : Prop :=
    rest ≤ device.2 ∧ device.1.output = none
  have asleep : ∀ rest device, Asleep (rest + 1) device →
      (!statusClear ecStatusObf ((pacedPorts waitStatusPolls).inb ecScPort device).2) = false ∧
        Asleep rest ((pacedPorts waitStatusPolls).inb ecScPort device).1 := by
    rintro rest ⟨controller, sleep⟩ ⟨within, empty⟩
    cases sleep with
    | zero => cases within
    | succ left =>
        refine ⟨?_, Nat.le_of_succ_le_succ within, empty⟩
        have here : statusClear ecStatusObf controller.status = true := by
          rw [controller.status_obf, show controller.output = none from empty]
          rfl
        exact congrArg not here
  have late : (waitStatusSet (pacedPorts waitStatusPolls) ecStatusObf
      (⟨promptStart.1.regs, some (.data 3), none, .readAddress⟩, waitStatusPolls)).2 = false :=
    pollUntil_fails asleep ⟨Nat.le_refl _, rfl⟩
  have command : sendWhenClear (pacedPorts waitStatusPolls) ecCmdRead ecScPort promptStart =
      ((⟨promptStart.1.regs, some (.command ecCmdRead), none, .idle⟩, 0), true) :=
    pacedPorts_send waitStatusPolls ecCmdRead ecScPort rfl
  have address : sendWhenClear (pacedPorts waitStatusPolls) (byteOfInt 3) ecDataPort
      (⟨promptStart.1.regs, some (.command ecCmdRead), none, .idle⟩, 0) =
        ((⟨promptStart.1.regs, some (.data 3), none, .readAddress⟩, waitStatusPolls), true) :=
    pacedPorts_send waitStatusPolls (byteOfInt 3) ecDataPort rfl
  simp only [ecIoReadGivesUp, command, address, late, Bool.and_self, Bool.not_false]

theorem ec_ports_stay_behind_asleep :
    let after := (ecIoReadByte (pacedPorts waitStatusPolls) 3 promptStart).1
    let calls := [EcCall.read 5]
    let results := (ecIoRun (pacedPorts waitStatusPolls) calls after).2
    List.Forall₂ MayReturn (some 4 :: askedRegs promptStart.1.regs calls results).dropLast
      (readAnswers calls results) := by
  have serves : Serves promptStart.1 ⟨promptStart.1.regs, none⟩ := ⟨rfl, rfl, rfl⟩
  exact ec_ports_stay_behind (pacedPorts_follows waitStatusPolls) serves pacedPorts_givesUp _

end NitroSense
