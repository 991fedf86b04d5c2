import Mathlib.Logic.Relation
import NitroSense.Ec.Ports

/-!
# The controller behind the ports

What the port driver is for, in terms of the controller it talks to: the host
writes commands and data bytes into one input buffer and takes bytes from one
output buffer, and the controller works on them in its own time.  A controller
serves a register file when its registers, once the byte it still holds is
stored, are those of the file, and when the one byte it owes is the file's.
-/

namespace NitroSense

open Relation

/-- What the host writes: to the command port, or to the data port. -/
inductive HostByte where
  | command (byte : UInt8)
  | data (byte : UInt8)
  deriving DecidableEq, Repr

def hostByte (port : UInt16) (byte : UInt8) : HostByte :=
  if port = ecScPort then .command byte else .data byte

/-- What the controller waits for, or the register it is about to answer with. -/
inductive EcPhase where
  | idle
  | readAddress
  | writeAddress
  | writeData (address : UInt8)
  | fetching (address : UInt8)
  deriving DecidableEq, Repr

/-- The contents of the registers; a register the EC changes by itself has no known content. -/
abbrev KnownRegs := UInt8 → Option UInt8

/-- A read of a register with this known content may give `byte`. -/
def MayRead (known : Option UInt8) (byte : UInt8) : Prop := ∀ value, known = some value → byte = value

def storeReg (regs : KnownRegs) (address byte : UInt8) : KnownRegs :=
  Function.update regs address ((regs address).map fun _ => byte)

structure EcController where
  regs : KnownRegs
  input : Option HostByte := none
  output : Option UInt8 := none
  phase : EcPhase := .idle

namespace EcController

def commandPhase (byte : UInt8) : EcPhase :=
  if byte = ecCmdRead then .readAddress else if byte = ecCmdWrite then .writeAddress else .idle

/-- The controller takes the byte out of its input buffer. -/
def take (controller : EcController) : HostByte → EcController
  | .command byte => { controller with input := none, phase := commandPhase byte }
  | .data byte =>
      match controller.phase with
      | .readAddress => { controller with input := none, phase := .fetching byte }
      | .writeAddress => { controller with input := none, phase := .writeData byte }
      | .writeData address =>
          { controller with
            input := none, phase := .idle, regs := storeReg controller.regs address byte }
      | .idle => { controller with input := none }
      | .fetching address => { controller with input := none, phase := .fetching address }

/-- One piece of the controller's own work: it answers before it takes the next byte. -/
inductive Works : EcController → EcController → Prop where
  | takes {controller : EcController} {byte : HostByte} (waiting : controller.input = some byte)
      (free : ∀ address, controller.phase ≠ .fetching address) :
      Works controller (controller.take byte)
  | posts {controller : EcController} {address byte : UInt8}
      (fetching : controller.phase = .fetching address) (free : controller.output = none)
      (agrees : MayRead (controller.regs address) byte) :
      Works controller { controller with output := some byte, phase := .idle }

/-- What one piece of work keeps, any amount of it keeps. -/
theorem works_star {P : EcController → Prop}
    (keeps : ∀ before after, Works before after → P before → P after) {before after : EcController}
    (path : ReflTransGen Works before after) (here : P before) : P after := by
  induction path with
  | refl => exact here
  | tail _ step ih => exact keeps _ _ step ih

/-- The registers once the data byte in the input buffer is stored. -/
def settled (controller : EcController) : KnownRegs :=
  match controller.phase, controller.input with
  | .writeData address, some (.data byte) => storeReg controller.regs address byte
  | _, _ => controller.regs

/-- The register whose byte the controller is still to put into its output buffer. -/
def pending (controller : EcController) : Option UInt8 :=
  match controller.phase, controller.input with
  | .fetching address, _ => some address
  | .readAddress, some (.data address) => some address
  | _, _ => none

/-! ## One piece of work -/

section Step

variable {before after : EcController}

/-- The registers as they will be are no business of the controller's pace. -/
theorem Works.settled (step : Works before after) : after.settled = before.settled := by
  cases step with
  | takes waiting free =>
      rename_i byte
      obtain ⟨regs, input, output, phase⟩ := before
      cases waiting
      cases byte with
      | command byte => cases phase <;> simp [take, EcController.settled]
      | data byte => cases phase <;> simp [take, EcController.settled]
  | posts fetching free agrees => simp [EcController.settled, fetching]

/-- Taking a byte leaves what is pending, and the registers where something is. -/
theorem take_pending {controller : EcController} {byte : HostByte}
    (waiting : controller.input = some byte) (free : ∀ address, controller.phase ≠ .fetching address) :
    (controller.take byte).pending = controller.pending ∧
      (controller.pending ≠ none → (controller.take byte).regs = controller.regs) := by
  obtain ⟨regs, input, output, phase⟩ := controller
  cases waiting
  cases byte with
  | command byte =>
      refine ⟨?_, fun _ => rfl⟩
      have taken : (EcController.mk regs none output (commandPhase byte)).pending = none := by
        unfold commandPhase
        split
        · rfl
        · split <;> rfl
      refine taken.trans ?_
      cases phase with
      | fetching address => exact absurd rfl (free address)
      | _ => rfl
  | data byte =>
      cases phase with
      | fetching address => exact absurd rfl (free address)
      | writeData address => exact ⟨rfl, fun some => absurd rfl some⟩
      | _ => exact ⟨rfl, fun _ => rfl⟩

theorem take_output (controller : EcController) (byte : HostByte) :
    (controller.take byte).output = controller.output := by
  cases byte with
  | command byte => rfl
  | data byte =>
      rw [take]
      cases controller.phase <;> rfl

/-- A byte in the output buffer stays there until the host takes it. -/
theorem Works.output (step : Works before after) {byte : UInt8}
    (full : before.output = some byte) : after.output = some byte := by
  cases step with
  | takes waiting free => rw [take_output, full]
  | posts fetching free agrees => simp [free] at full

/-- While the output buffer is full, what is pending stays so. -/
theorem Works.pending (step : Works before after) {byte : UInt8}
    (full : before.output = some byte) :
    after.pending = before.pending ∧ (before.pending ≠ none → after.regs = before.regs) := by
  cases step with
  | takes waiting free => exact take_pending waiting free
  | posts fetching free agrees => simp [free] at full

/-- The controller works on an input buffer, it never fills it. -/
theorem Works.input (step : Works before after) (empty : before.input = none) :
    after.input = none ∧ (after.phase = before.phase ∨ after.phase = .idle ∧
      ∃ address, before.phase = .fetching address) := by
  cases step with
  | takes waiting free => simp [empty] at waiting
  | posts fetching free agrees => exact ⟨empty, .inr ⟨rfl, _, fetching⟩⟩

end Step

end EcController

/-! ## What the controller serves -/

/--
The EC as the host knows it between two calls: the register contents, and the
content of the register whose byte the controller still owes, if it owes one.
-/
structure PortFile where
  regs : KnownRegs
  owed : Option (Option UInt8) := none

/-- The controller owes the host nothing, or a byte that is this content. -/
def EcController.Owes (controller : EcController) : Option (Option UInt8) → Prop
  | none => controller.output = none ∧ controller.pending = none
  | some known =>
      (∃ byte, controller.output = some byte ∧ MayRead known byte ∧ controller.pending = none) ∨
        (controller.output = none ∧
          ∃ address, controller.pending = some address ∧ known = controller.regs address)

/-- The controller, whatever it has still to do, serves the register file. -/
structure Serves (controller : EcController) (file : PortFile) : Prop where
  settled : controller.settled = file.regs
  owes : controller.Owes file.owed

/-- The controller's own work does not change what it serves. -/
theorem Serves.works {before after : EcController} {file : PortFile}
    (step : EcController.Works before after) (serves : Serves before file) : Serves after file := by
  refine ⟨step.settled.trans serves.settled, ?_⟩
  have owes := serves.owes
  cases owed : file.owed with
  | none =>
      rw [owed] at owes
      obtain ⟨empty, nothing⟩ := owes
      cases step with
      | takes waiting free =>
          exact ⟨(EcController.take_output _ _).trans empty,
            (EcController.take_pending waiting free).1.trans nothing⟩
      | posts fetching free agrees => simp [EcController.pending, fetching] at nothing
  | some known =>
      rw [owed] at owes
      rcases owes with ⟨byte, full, agrees, nothing⟩ | ⟨empty, address, pending, content⟩
      · exact .inl ⟨byte, step.output full, agrees, (step.pending full).1.trans nothing⟩
      · cases step with
        | takes waiting free =>
            obtain ⟨same, regs⟩ := EcController.take_pending waiting free
            refine .inr ⟨(EcController.take_output _ _).trans empty, address, same.trans pending, ?_⟩
            rw [regs (by simp [pending]), content]
        | posts fetching free agrees =>
            rename_i other byte
            have here : other = address := by simpa [EcController.pending, fetching] using pending
            refine .inl ⟨byte, rfl, ?_, by simp [EcController.pending]⟩
            rw [content, ← here]
            exact agrees

end NitroSense
