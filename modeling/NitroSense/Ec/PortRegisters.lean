import NitroSense.Ec.Controller

/-!
# Registers through the ports

The port driver against a controller that follows the command and data
protocol at any pace.  A write that succeeds stores its byte, one that fails
stores nothing.  A read answers with the byte of its register, unless an
earlier read gave up waiting for its own: from then on each read answers with
the byte of the read before it.
-/

namespace NitroSense

open Lib Relation

/--
The device behind the ports is such a controller: it may work at every access,
the status shows its two buffers, a byte written to a port lands in an empty
input buffer, and the data port takes the byte out of the output buffer.
-/
structure FollowsProtocol {σ : Type} (ports : Ports σ) (view : σ → EcController) : Prop where
  works : ∀ device, ReflTransGen EcController.Works (view device)
    (view (ports.inb ecScPort device).1)
  inputFull : ∀ device, statusClear ecStatusIbf (ports.inb ecScPort device).2 =
    (view (ports.inb ecScPort device).1).input.isNone
  outputFull : ∀ device, statusClear ecStatusObf (ports.inb ecScPort device).2 =
    (view (ports.inb ecScPort device).1).output.isNone
  takesByte : ∀ device value port, port = ecScPort ∨ port = ecDataPort →
    (view device).input = none →
    ∃ worked, ReflTransGen EcController.Works (view device) worked ∧
      view (ports.outb value port device) = { worked with input := some (hostByte port value) }
  givesByte : ∀ device byte, (view device).output = some byte →
    (ports.inb ecDataPort device).2 = byte ∧
      ∃ worked, ReflTransGen EcController.Works (view device) worked ∧
        view (ports.inb ecDataPort device).1 = { worked with output := none }

/-- What the controller's own work keeps. -/
def Kept (P : EcController → Prop) : Prop :=
  ∀ before after, EcController.Works before after → P before → P after

section Steps

variable {σ : Type} {ports : Ports σ} {view : σ → EcController} {device : σ}

/-- A poll of the status port keeps what the controller's work keeps. -/
theorem FollowsProtocol.poll (follows : FollowsProtocol ports view) {P : EcController → Prop}
    (kept : Kept P) (here : P (view device)) (good : UInt8 → Bool) (limit : Nat) :
    P (view (pollUntil (ports.inb ecScPort) good limit device).1) := by
  refine pollUntil_preserves (P := fun device => P (view device)) ?_ here
  exact fun device here => EcController.works_star kept (follows.works device) here

/-- Sending a byte: it finds the input buffer empty, or the controller keeps it full. -/
theorem FollowsProtocol.send (follows : FollowsProtocol ports view) {P : EcController → Prop}
    (kept : Kept P) (here : P (view device)) (value : UInt8) {port : UInt16}
    (known : port = ecScPort ∨ port = ecDataPort) :
    let after := sendWhenClear ports value port device
    if after.2 then
      ∃ worked, P worked ∧ worked.input = none ∧
        view after.1 = { worked with input := some (hostByte port value) }
    else P (view after.1) := by
  have polled := follows.poll kept here (statusClear ecStatusIbf) waitStatusPolls
  cases clear : (waitStatusClear ports ecStatusIbf device).2 with
  | false =>
      rw [sendWhenClear_busy value port clear]
      exact polled
  | true =>
      rw [sendWhenClear_idle value port clear]
      have empty : (view (waitStatusClear ports ecStatusIbf device).1).input = none := by
        refine pollUntil_good (P := fun _ => True)
          (Q := fun device => (view device).input = none) (fun _ _ => trivial)
          (fun device _ good => ?_) trivial clear
        rw [follows.inputFull device] at good
        exact Option.isNone_iff_eq_none.mp good
      obtain ⟨worked, path, sent⟩ := follows.takesByte _ value port known empty
      refine ⟨worked, EcController.works_star kept path polled, ?_, sent⟩
      refine EcController.works_star (P := fun c => c.input = none) ?_ path empty
      exact fun before after step empty => (step.input empty).1

/-- Waiting for the output buffer: a success found it full. -/
theorem FollowsProtocol.wait (follows : FollowsProtocol ports view) {P : EcController → Prop}
    (kept : Kept P) (here : P (view device)) :
    let after := waitStatusSet ports ecStatusObf device
    P (view after.1) ∧ (after.2 = true → ∃ byte, (view after.1).output = some byte) := by
  refine ⟨follows.poll kept here _ waitStatusPolls, fun ready => ?_⟩
  refine pollUntil_good (P := fun _ => True)
    (Q := fun device => ∃ byte, (view device).output = some byte) (fun _ _ => trivial)
    (fun device _ good => ?_) trivial ready
  rw [follows.outputFull device] at good
  exact Option.isSome_iff_exists.mp (by simpa using good)

/-- An output buffer that is full when the wait begins ends it at once. -/
theorem FollowsProtocol.wait_full (follows : FollowsProtocol ports view) {byte : UInt8}
    (full : (view device).output = some byte) :
    (waitStatusSet ports ecStatusObf device).2 = true := by
  have still : (view (ports.inb ecScPort device).1).output = some byte :=
    EcController.works_star (P := fun c => c.output = some byte)
      (fun _ _ step full => step.output full) (follows.works device) full
  rw [waitStatusSet, waitStatusPolls, pollUntil_first]
  rw [follows.outputFull device, still]
  rfl

/-- Taking the byte out of the output buffer. -/
theorem FollowsProtocol.takeByte (follows : FollowsProtocol ports view) {P : EcController → Prop}
    (kept : Kept P) (here : P (view device)) {byte : UInt8}
    (full : (view device).output = some byte) :
    (ports.inb ecDataPort device).2 = byte ∧
      ∃ worked, P worked ∧ worked.output = some byte ∧
        view (ports.inb ecDataPort device).1 = { worked with output := none } := by
  obtain ⟨answer, worked, path, taken⟩ := follows.givesByte device byte full
  refine ⟨answer, worked, EcController.works_star kept path here, ?_, taken⟩
  exact EcController.works_star (P := fun c => c.output = some byte)
    (fun _ _ step full => step.output full) path full

end Steps

/-! ## The bytes of a transaction -/

section Bytes

variable {controller : EcController} {file : PortFile} {byte address : UInt8}

/-- The controller has the command, or waits for what comes after it. -/
def Commanded (byte : UInt8) (file : PortFile) (controller : EcController) : Prop :=
  Serves controller file ∧
    (controller.input = some (.command byte) ∨
      controller.input = none ∧ controller.phase = EcController.commandPhase byte)

/-- The controller has the address of a write, or waits for its data. -/
def Addressed (address : UInt8) (file : PortFile) (controller : EcController) : Prop :=
  Serves controller file ∧
    (controller.input = some (.data address) ∧ controller.phase = .writeAddress ∨
      controller.input = none ∧ controller.phase = .writeData address)

theorem commandPhase_not_fetching (byte address : UInt8) :
    EcController.commandPhase byte ≠ .fetching address := by
  rw [EcController.commandPhase]
  split
  · nofun
  · split
    · nofun
    · nofun

theorem commanded_kept (byte : UInt8) (file : PortFile) : Kept (Commanded byte file) := by
  rintro before after step ⟨serves, waiting | ⟨empty, phase⟩⟩
  · refine ⟨serves.works step, ?_⟩
    cases step with
    | takes here free =>
        rw [waiting] at here
        cases here
        exact .inr ⟨rfl, rfl⟩
    | posts fetching free may => exact .inl waiting
  · obtain ⟨stays, same | ⟨-, other, fetching⟩⟩ := step.input empty
    · exact ⟨serves.works step, .inr ⟨stays, same.trans phase⟩⟩
    · exact absurd (phase.symm.trans fetching) (commandPhase_not_fetching byte other)

theorem addressed_kept (address : UInt8) (file : PortFile) : Kept (Addressed address file) := by
  rintro before after step ⟨serves, ⟨waiting, phase⟩ | ⟨empty, phase⟩⟩
  · refine ⟨serves.works step, ?_⟩
    cases step with
    | takes here free =>
        rw [waiting] at here
        cases here
        exact .inr (by simp [EcController.take, phase])
    | posts fetching free may => simp [phase] at fetching
  · obtain ⟨stays, same | ⟨-, other, fetching⟩⟩ := step.input empty
    · exact ⟨serves.works step, .inr ⟨stays, same.trans phase⟩⟩
    · simp [phase] at fetching

/-- A command changes nothing until its data comes. -/
theorem Serves.command (serves : Serves controller file) (empty : controller.input = none)
    (byte : UInt8) : Commanded byte file { controller with input := some (.command byte) } := by
  obtain ⟨regs, input, output, phase⟩ := controller
  cases empty
  refine ⟨⟨?_, ?_⟩, .inl rfl⟩
  · rw [← serves.settled]
    cases phase <;> rfl
  · have owes := serves.owes
    cases phase <;> exact owes

theorem Commanded.addressed (commanded : Commanded ecCmdWrite file controller)
    (empty : controller.input = none) (address : UInt8) :
    Addressed address file { controller with input := some (.data address) } := by
  obtain ⟨serves, waiting | ⟨-, phase⟩⟩ := commanded
  · simp [empty] at waiting
  · obtain ⟨regs, input, output, phase'⟩ := controller
    cases empty
    cases phase
    exact ⟨⟨serves.settled, serves.owes⟩, .inl ⟨rfl, rfl⟩⟩

/-- The data byte of a write is as good as stored. -/
theorem Addressed.data (addressed : Addressed address file controller)
    (empty : controller.input = none) (byte : UInt8) :
    Serves { controller with input := some (.data byte) }
      { file with regs := storeReg file.regs address byte } := by
  obtain ⟨serves, ⟨waiting, -⟩ | ⟨-, phase⟩⟩ := addressed
  · simp [empty] at waiting
  · obtain ⟨regs, input, output, phase'⟩ := controller
    cases empty
    cases phase
    have settled : regs = file.regs := serves.settled
    refine ⟨by rw [← settled]; rfl, ?_⟩
    have owes := serves.owes
    cases owed : file.owed with
    | none =>
        rw [owed] at owes
        exact owes
    | some known =>
        rw [owed] at owes
        rcases owes with full | ⟨-, other, pending, -⟩
        · exact .inl full
        · cases pending

/-- The address of a read, when the controller owes nothing: now it owes that byte. -/
theorem Commanded.asks (commanded : Commanded ecCmdRead file controller)
    (empty : controller.input = none) (nothing : file.owed = none) (address : UInt8) :
    Serves { controller with input := some (.data address) }
      { file with owed := some (file.regs address) } := by
  obtain ⟨serves, waiting | ⟨-, phase⟩⟩ := commanded
  · simp [empty] at waiting
  · obtain ⟨regs, input, output, phase'⟩ := controller
    cases empty
    cases phase
    have settled : regs = file.regs := serves.settled
    have owes := serves.owes
    rw [nothing] at owes
    exact ⟨settled, .inr ⟨owes.1, address, rfl, by rw [settled]⟩⟩

/-- The controller holds a byte for the host and a second one is asked for. -/
structure Behind (byte address : UInt8) (regs : KnownRegs) (controller : EcController) : Prop where
  settled : controller.settled = regs
  full : controller.output = some byte
  pending : controller.pending = some address
  content : controller.regs address = regs address

theorem behind_kept (byte address : UInt8) (regs : KnownRegs) : Kept (Behind byte address regs) := by
  intro before after step behind
  obtain ⟨pending, same⟩ := step.pending behind.full
  refine ⟨step.settled.trans behind.settled, step.output behind.full,
    pending.trans behind.pending, ?_⟩
  rw [same (by simp [behind.pending]), behind.content]

/-- The address of a read, when the controller still owes a byte: that one is ready by now. -/
theorem Commanded.behind {known : Option UInt8} (commanded : Commanded ecCmdRead file controller)
    (empty : controller.input = none) (owed : file.owed = some known) (address : UInt8) :
    ∃ byte, MayRead known byte ∧
      Behind byte address file.regs { controller with input := some (.data address) } := by
  obtain ⟨serves, waiting | ⟨-, phase⟩⟩ := commanded
  · simp [empty] at waiting
  · obtain ⟨regs, input, output, phase'⟩ := controller
    cases empty
    cases phase
    have settled : regs = file.regs := serves.settled
    have owes := serves.owes
    rw [owed] at owes
    rcases owes with ⟨byte, full, may, -⟩ | ⟨-, other, pending, -⟩
    · exact ⟨byte, may, settled, full, rfl, by rw [settled]⟩
    · cases pending

end Bytes

/-! ## Whole calls -/

/-- What a write that returned `result` does to the register file. -/
inductive PortFile.Write (reg value : UInt8) : PortFile → Int → PortFile → Prop where
  | refused (file : PortFile) : Write reg value file (-1) file
  | stored (file : PortFile) :
      Write reg value file 0 { file with regs := storeReg file.regs reg value }

/--
What a read that returned `result` does: it is refused, it gives up waiting and
leaves its byte owed, or it answers with the byte that is owed, and owes its own.
-/
inductive PortFile.Read (reg : UInt8) : (givesUp : Bool) → PortFile → Int → PortFile → Prop where
  | refused (file : PortFile) : Read reg false file (-1) file
  | late (file : PortFile) (nothing : file.owed = none) :
      Read reg true file (-1) { file with owed := some (file.regs reg) }
  | answered (file : PortFile) (byte : UInt8)
      (may : MayRead (file.owed.getD (file.regs reg)) byte) :
      Read reg false file byte.toNat { file with owed := file.owed.map fun _ => file.regs reg }

section Calls

variable {σ : Type} {ports : Ports σ} {view : σ → EcController} {device : σ} {file : PortFile}

theorem serves_kept (file : PortFile) : Kept fun controller => Serves controller file :=
  fun _ _ step serves => serves.works step

/-- `ec_io_write_byte` stores its byte when it succeeds, and nothing when it fails. -/
theorem ecIoWriteByte_serves (follows : FollowsProtocol ports view)
    (serves : Serves (view device) file) (reg value : Int) :
    let after := ecIoWriteByte ports reg value device
    ∃ next, file.Write (byteOfInt reg) (byteOfInt (clampInt value 0 255)) after.2 next ∧
      Serves (view after.1) next := by
  have first := follows.send (serves_kept file) serves ecCmdWrite (.inl rfl)
  rw [ecIoWriteByte]
  dsimp only
  split
  case isFalse stuck =>
    rw [if_neg stuck] at first
    exact ⟨file, .refused file, first⟩
  case isTrue commandSent =>
    rw [if_pos commandSent] at first
    obtain ⟨idle, idleServes, idleEmpty, commandView⟩ := first
    have commanded := idleServes.command idleEmpty ecCmdWrite
    have commandedView : Commanded ecCmdWrite file
        (view (sendWhenClear ports ecCmdWrite ecScPort device).1) := by
      rw [commandView]
      exact commanded
    have second := follows.send (commanded_kept ecCmdWrite file) commandedView (byteOfInt reg)
      (.inr rfl)
    split
    case isFalse stuck =>
      rw [if_neg stuck] at second
      exact ⟨file, .refused file, second.1⟩
    case isTrue addressSent =>
      rw [if_pos addressSent] at second
      obtain ⟨waiting, waits, waitingEmpty, addressView⟩ := second
      have addressedView : Addressed (byteOfInt reg) file (view (sendWhenClear ports
          (byteOfInt reg) ecDataPort (sendWhenClear ports ecCmdWrite ecScPort device).1).1) := by
        rw [addressView]
        exact waits.addressed waitingEmpty (byteOfInt reg)
      have third := follows.send (addressed_kept (byteOfInt reg) file) addressedView
        (byteOfInt (clampInt value 0 255)) (.inr rfl)
      split
      case isFalse stuck =>
        rw [if_neg stuck] at third
        exact ⟨file, .refused file, third.1⟩
      case isTrue dataSent =>
        rw [if_pos dataSent] at third
        obtain ⟨ready, addressed, readyEmpty, dataView⟩ := third
        refine ⟨_, .stored file, ?_⟩
        rw [dataView]
        exact addressed.data readyEmpty _

/-- The byte that was owed is taken: nothing is owed any more. -/
theorem Serves.taken {controller : EcController} {byte : UInt8} {known : Option UInt8}
    (serves : Serves controller { file with owed := some known })
    (full : controller.output = some byte) :
    MayRead known byte ∧ Serves { controller with output := none } { file with owed := none } := by
  rcases serves.owes with ⟨other, here, may, nothing⟩ | ⟨empty, -⟩
  · cases full.symm.trans here
    exact ⟨may, serves.settled, rfl, nothing⟩
  · simp [full] at empty

/-- The byte in front of the one that is owed next is taken. -/
theorem Behind.taken {controller : EcController} {byte address : UInt8}
    (behind : Behind byte address file.regs controller) :
    Serves { controller with output := none } { file with owed := some (file.regs address) } :=
  ⟨behind.settled, .inr ⟨rfl, address, behind.pending, behind.content.symm⟩⟩

/-- The end of a read, once its address is sent. -/
theorem FollowsProtocol.answer (follows : FollowsProtocol ports view) {worked : EcController}
    {reg : UInt8} (commanded : Commanded ecCmdRead file worked) (empty : worked.input = none)
    (asked : view device = { worked with input := some (.data reg) }) :
    let ready := waitStatusSet ports ecStatusObf device
    let answer := ports.inb ecDataPort ready.1
    if ready.2 then
      ∃ next, file.Read reg false answer.2.toNat next ∧ Serves (view answer.1) next
    else ∃ next, file.Read reg true (-1) next ∧ Serves (view ready.1) next := by
  cases owed : file.owed with
  | none =>
      have serves := commanded.asks empty owed reg
      rw [← asked] at serves
      obtain ⟨still, ends⟩ := follows.wait (serves_kept _) serves
      dsimp only
      split
      case isFalse stuck => exact ⟨_, .late file owed, still⟩
      case isTrue ready =>
        obtain ⟨byte, full⟩ := ends ready
        obtain ⟨answer, last, lastServes, lastFull, taken⟩ :=
          follows.takeByte (serves_kept _) still full
        obtain ⟨may, serves⟩ := lastServes.taken lastFull
        refine ⟨{ file with owed := none }, ?_, by rw [taken]; exact serves⟩
        have step : file.Read reg false byte.toNat _ := .answered file byte (by rw [owed]; exact may)
        rw [owed] at step
        rw [answer]
        exact step
  | some known =>
      obtain ⟨byte, may, behind⟩ := commanded.behind empty owed reg
      rw [← asked] at behind
      have ready := follows.wait_full behind.full
      obtain ⟨still, -⟩ := follows.wait (behind_kept byte reg file.regs) behind
      dsimp only
      rw [if_pos ready]
      obtain ⟨answer, last, lastBehind, -, taken⟩ :=
        follows.takeByte (behind_kept byte reg file.regs) still still.full
      refine ⟨{ file with owed := some (file.regs reg) }, ?_, by rw [taken]; exact lastBehind.taken⟩
      have step : file.Read reg false byte.toNat _ := .answered file byte (by rw [owed]; exact may)
      rw [owed] at step
      rw [answer]
      exact step

/-- `ec_io_read_byte`, in terms of the register file and the byte it is owed. -/
theorem ecIoReadByte_serves (follows : FollowsProtocol ports view)
    (serves : Serves (view device) file) (reg : Int) :
    let after := ecIoReadByte ports reg device
    ∃ next, file.Read (byteOfInt reg) (ecIoReadGivesUp ports reg device) after.2 next ∧
      Serves (view after.1) next := by
  have first := follows.send (serves_kept file) serves ecCmdRead (.inl rfl)
  rw [ecIoReadByte, ecIoReadGivesUp]
  dsimp only at first ⊢
  cases commandSent : (sendWhenClear ports ecCmdRead ecScPort device).2 with
  | false =>
      rw [commandSent] at first
      exact ⟨file, .refused file, first⟩
  | true =>
      rw [if_pos commandSent] at first
      obtain ⟨idle, idleServes, idleEmpty, commandView⟩ := first
      have commandedView : Commanded ecCmdRead file
          (view (sendWhenClear ports ecCmdRead ecScPort device).1) := by
        rw [commandView]
        exact idleServes.command idleEmpty ecCmdRead
      have second := follows.send (commanded_kept ecCmdRead file) commandedView (byteOfInt reg)
        (.inr rfl)
      dsimp only at second
      cases addressSent : (sendWhenClear ports (byteOfInt reg) ecDataPort
          (sendWhenClear ports ecCmdRead ecScPort device).1).2 with
      | false =>
          rw [addressSent] at second
          exact ⟨file, .refused file, second.1⟩
      | true =>
          rw [if_pos addressSent] at second
          obtain ⟨waiting, commanded, empty, addressView⟩ := second
          have answer := follows.answer commanded empty addressView
          dsimp only at answer
          split at answer
          case isTrue ready =>
            rw [ready]
            exact answer
          case isFalse late =>
            rw [Bool.eq_false_of_not_eq_true late]
            exact answer

end Calls

end NitroSense
