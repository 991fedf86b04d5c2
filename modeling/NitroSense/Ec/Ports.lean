import NitroSense.Ec
import NitroSense.Lib.Polling
import NitroSense.Lib.Run

/-!
# The EC behind its I/O ports

`ec/io_ports.c`.  The ports are a parameter: an `inb` answers and may change the
device behind them, an `outb` changes it, so a statement about every device is a
statement about every sequence of answers.
-/

namespace NitroSense

open Lib

/-- `inb` and `outb` on a device, with the argument order of `sys/io.h`. -/
structure Ports (σ : Type) where
  inb : UInt16 → σ → σ × UInt8
  outb : UInt8 → UInt16 → σ → σ

def ecScPort : UInt16 := 0x66

def ecCmdRead : UInt8 := 0x80

def ecDataPort : UInt16 := 0x62

def ecCmdWrite : UInt8 := 0x81

/-- `EC_STATUS_OBF`: the output buffer is full. -/
def ecStatusObf : UInt8 := 0x01

/-- `EC_STATUS_IBF`: the input buffer is full. -/
def ecStatusIbf : UInt8 := 0x02

/-- How often `wait_status_clear` and `wait_status_set` read the status. -/
def waitStatusPolls : Nat := 10000

/-- The cast `(uint8_t)`. -/
def byteOfInt (value : Int) : UInt8 := UInt8.ofNat (value % 256).toNat

variable {σ : Type}

def statusClear (mask status : UInt8) : Bool := status &&& mask == 0

def waitStatusClear (ports : Ports σ) (mask : UInt8) (device : σ) : σ × Bool :=
  pollUntil (ports.inb ecScPort) (statusClear mask) waitStatusPolls device

def waitStatusSet (ports : Ports σ) (mask : UInt8) (device : σ) : σ × Bool :=
  pollUntil (ports.inb ecScPort) (fun status => !statusClear mask status) waitStatusPolls device

/-- `wait_status_clear(EC_STATUS_IBF)` and, when that succeeds, the `outb` after it. -/
def sendWhenClear (ports : Ports σ) (value : UInt8) (port : UInt16) (device : σ) : σ × Bool :=
  let idle := waitStatusClear ports ecStatusIbf device
  if idle.2 then (ports.outb value port idle.1, true) else (idle.1, false)

theorem sendWhenClear_idle {ports : Ports σ} {device : σ} (value : UInt8) (port : UInt16)
    (idle : (waitStatusClear ports ecStatusIbf device).2 = true) :
    sendWhenClear ports value port device =
      (ports.outb value port (waitStatusClear ports ecStatusIbf device).1, true) := by
  rw [sendWhenClear, if_pos idle]

theorem sendWhenClear_busy {ports : Ports σ} {device : σ} (value : UInt8) (port : UInt16)
    (busy : (waitStatusClear ports ecStatusIbf device).2 = false) :
    sendWhenClear ports value port device =
      ((waitStatusClear ports ecStatusIbf device).1, false) := by
  rw [sendWhenClear, busy]
  rfl

def ecIoReadByte (ports : Ports σ) (reg : Int) (device : σ) : σ × Int :=
  let command := sendWhenClear ports ecCmdRead ecScPort device
  if command.2 then
    let address := sendWhenClear ports (byteOfInt reg) ecDataPort command.1
    if address.2 then
      let ready := waitStatusSet ports ecStatusObf address.1
      if ready.2 then
        let answer := ports.inb ecDataPort ready.1
        (answer.1, answer.2.toNat)
      else (ready.1, -1)
    else (address.1, -1)
  else (command.1, -1)

def ecIoWriteByte (ports : Ports σ) (reg value : Int) (device : σ) : σ × Int :=
  let command := sendWhenClear ports ecCmdWrite ecScPort device
  if command.2 then
    let address := sendWhenClear ports (byteOfInt reg) ecDataPort command.1
    if address.2 then
      let data := sendWhenClear ports (byteOfInt (clampInt value 0 255)) ecDataPort address.1
      if data.2 then (data.1, 0) else (data.1, -1)
    else (address.1, -1)
  else (command.1, -1)

/-- A read sends its address and gives up waiting for the byte. -/
def ecIoReadGivesUp (ports : Ports σ) (reg : Int) (device : σ) : Bool :=
  let command := sendWhenClear ports ecCmdRead ecScPort device
  let address := sendWhenClear ports (byteOfInt reg) ecDataPort command.1
  command.2 && address.2 && !(waitStatusSet ports ecStatusObf address.1).2

inductive EcCall where
  | read (reg : Int)
  | write (reg value : Int)
  deriving DecidableEq, Repr

/-- A call when the backend is `EC_BACKEND_IO_PORTS`. -/
def ecIoCall (ports : Ports σ) : EcCall → σ → σ × Int
  | .read reg => ecIoReadByte ports reg
  | .write reg value => ecIoWriteByte ports reg value

/-- Calls one after the other, with what each returns. -/
def ecIoRun (ports : Ports σ) : List EcCall → σ → σ × List Int
  | [], device => (device, [])
  | call :: rest, device =>
      let current := ecIoCall ports call device
      let later := ecIoRun ports rest current.1
      (later.1, current.2 :: later.2)

@[simp] theorem ecIoRun_nil (ports : Ports σ) (device : σ) : ecIoRun ports [] device = (device, []) :=
  rfl

@[simp] theorem ecIoRun_cons (ports : Ports σ) (call : EcCall) (rest : List EcCall)
    (device : σ) :
    ecIoRun ports (call :: rest) device =
      ((ecIoRun ports rest (ecIoCall ports call device).1).1,
        (ecIoCall ports call device).2 ::
          (ecIoRun ports rest (ecIoCall ports call device).1).2) := rfl

end NitroSense
