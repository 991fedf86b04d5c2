import NitroSense.Ec.Ports

/-!
# The handshake on the EC ports

What the driver does on the ports, for every sequence of answers the device may
give: it writes a byte only right after a status read that found the input
buffer empty, it takes a byte only right after a status read that found the
output buffer full, and what a call has written is always a beginning of its
transaction.
-/

namespace NitroSense

open Lib

inductive PortAccess where
  | inb (port : UInt16) (value : UInt8)
  | outb (value : UInt8) (port : UInt16)
  deriving DecidableEq, Repr

/-- The ports with a log of the accesses, newest first. -/
def Ports.logged {σ : Type} (ports : Ports σ) : Ports (σ × List PortAccess) where
  inb port device :=
    let answer := ports.inb port device.1
    ((answer.1, .inb port answer.2 :: device.2), answer.2)
  outb value port device := (ports.outb value port device.1, .outb value port :: device.2)

/-- The newest access of the log is a status read with this result of the mask. -/
def LastStatus (clear : Bool) (mask : UInt8) (log : List PortAccess) : Prop :=
  ∃ status older, log = .inb ecScPort status :: older ∧ statusClear mask status = clear

/-- Every byte of the log, newest first, was moved when the status allowed it. -/
def Handshaken : List PortAccess → Prop
  | [] => True
  | .outb _ _ :: older => LastStatus true ecStatusIbf older ∧ Handshaken older
  | .inb port _ :: older =>
      (port = ecDataPort → LastStatus false ecStatusObf older) ∧ Handshaken older

/-- The bytes written to the ports, oldest first. -/
def bytesSent (log : List PortAccess) : List (UInt8 × UInt16) :=
  log.reverse.filterMap fun
    | .outb value port => some (value, port)
    | .inb _ _ => none

def EcCall.bytes : EcCall → List (UInt8 × UInt16)
  | .read reg => [(ecCmdRead, ecScPort), (byteOfInt reg, ecDataPort)]
  | .write reg value =>
      [(ecCmdWrite, ecScPort), (byteOfInt reg, ecDataPort),
        (byteOfInt (clampInt value 0 255), ecDataPort)]

theorem bytesSent_append (newer older : List PortAccess) :
    bytesSent (newer ++ older) = bytesSent older ++ bytesSent newer := by
  simp [bytesSent]

/-! ## The pieces of a transaction -/

/-- A part of the log that sends these bytes, each in its turn of the handshake. -/
structure Adds (bytes : List (UInt8 × UInt16)) (newer : List PortAccess) : Prop where
  handshaken : ∀ older, Handshaken older → Handshaken (newer ++ older)
  sent : bytesSent newer = bytes

theorem Adds.trans {first second : List (UInt8 × UInt16)} {left right : List PortAccess}
    (earlier : Adds first left) (later : Adds second right) :
    Adds (first ++ second) (right ++ left) := by
  refine ⟨fun older here => ?_, ?_⟩
  · rw [List.append_assoc]
    exact later.handshaken _ (earlier.handshaken older here)
  · rw [bytesSent_append, earlier.sent, later.sent]

section Polls

def statusReads (statuses : List UInt8) : List PortAccess :=
  statuses.map fun status => .inb ecScPort status

/-- Reads of the status send nothing and are always allowed. -/
theorem statusReads_adds (statuses : List UInt8) : Adds [] (statusReads statuses) := by
  induction statuses with
  | nil => exact ⟨fun _ here => here, rfl⟩
  | cons status rest ih =>
      have other : ecScPort ≠ ecDataPort := by decide
      have step : Adds [] [PortAccess.inb ecScPort status] :=
        ⟨fun _ here => ⟨fun same => absurd same other, here⟩, rfl⟩
      exact ih.trans step

/-- A byte written right after a status read that found the input buffer empty. -/
theorem Adds.outb {bytes : List (UInt8 × UInt16)} {statuses : List UInt8} {status : UInt8}
    (clear : statusClear ecStatusIbf status = true) (value : UInt8) (port : UInt16)
    (adds : Adds bytes (statusReads (status :: statuses))) :
    Adds (bytes ++ [(value, port)]) (.outb value port :: statusReads (status :: statuses)) := by
  refine ⟨fun older here => ?_, ?_⟩
  · exact ⟨⟨status, statusReads statuses ++ older, rfl, clear⟩, adds.handshaken older here⟩
  · rw [← adds.sent]
    exact bytesSent_append [.outb value port] _

variable {σ : Type}

/-- A poll of the status port adds its reads to the log. -/
theorem poll_logged (ports : Ports σ) (good : UInt8 → Bool) (limit : Nat)
    (device : σ × List PortAccess) :
    let after := pollUntil (ports.logged.inb ecScPort) good limit device
    ∃ statuses, after.1.2 = statusReads statuses ++ device.2 ∧ statuses.length ≤ limit ∧
      if after.2 then
        ∃ status busy, statuses = status :: busy ∧ good status = true ∧
          ∀ status ∈ busy, good status = false
      else statuses.length = limit ∧ ∀ status ∈ statuses, good status = false :=
  pollUntil_kept (fun _ => rfl) limit device

end Polls

/-- The poll that ended a failed call: it read the status to its limit and never found it right. -/
structure TimedOut (newer : List PortAccess) : Prop where
  polls : ∃ statuses older, newer = statusReads statuses ++ older ∧
    statuses.length = waitStatusPolls ∧
    ((∀ status ∈ statuses, statusClear ecStatusIbf status = false) ∨
      ∀ status ∈ statuses, statusClear ecStatusObf status = true)

theorem TimedOut.append {newer : List PortAccess} (late : TimedOut newer)
    (older : List PortAccess) : TimedOut (newer ++ older) := by
  obtain ⟨statuses, earlier, shape, count, busy⟩ := late.polls
  exact ⟨statuses, earlier ++ older, by rw [shape, List.append_assoc], count, busy⟩

section Steps

variable {σ : Type}

/-- One byte sent, or the poll in front of it timed out. -/
theorem sendWhenClear_logged (ports : Ports σ) (value : UInt8) (port : UInt16)
    (device : σ × List PortAccess) :
    let after := sendWhenClear ports.logged value port device
    ∃ newer, after.1.2 = newer ++ device.2 ∧ newer.length ≤ waitStatusPolls + 1 ∧
      if after.2 then Adds [(value, port)] newer else Adds [] newer ∧ TimedOut newer := by
  obtain ⟨statuses, log, within, ends⟩ :=
    poll_logged ports (statusClear ecStatusIbf) waitStatusPolls device
  have length : (statusReads statuses).length = statuses.length := List.length_map _
  cases done : (waitStatusClear ports.logged ecStatusIbf device).2 with
  | true =>
      rw [sendWhenClear_idle value port done]
      rw [waitStatusClear] at done
      rw [if_pos done] at ends
      obtain ⟨status, busy, rfl, clear, -⟩ := ends
      refine ⟨.outb value port :: statusReads (status :: busy), ?_, ?_, ?_⟩
      · exact congrArg (PortAccess.outb value port :: ·) log
      · rw [List.length_cons, length]
        exact Nat.succ_le_succ within
      · exact (statusReads_adds (status :: busy)).outb clear value port
  | false =>
      rw [sendWhenClear_busy value port done]
      rw [waitStatusClear] at done
      rw [done] at ends
      refine ⟨statusReads statuses, log, ?_, statusReads_adds statuses, ?_⟩
      · rw [length]
        exact Nat.le_succ_of_le within
      · exact ⟨statuses, [], (List.append_nil _).symm, ends.1, .inl ends.2⟩

/-- The output buffer was found full by the newest access, or the poll timed out. -/
theorem waitStatusSet_logged (ports : Ports σ) (device : σ × List PortAccess) :
    let after := waitStatusSet ports.logged ecStatusObf device
    ∃ newer, after.1.2 = newer ++ device.2 ∧ newer.length ≤ waitStatusPolls ∧ Adds [] newer ∧
      if after.2 then ∀ older, LastStatus false ecStatusObf (newer ++ older)
      else TimedOut newer := by
  obtain ⟨statuses, log, within, ends⟩ :=
    poll_logged ports (fun status => !statusClear ecStatusObf status) waitStatusPolls device
  have length : (statusReads statuses).length = statuses.length := List.length_map _
  refine ⟨statusReads statuses, log, by rw [length]; exact within, statusReads_adds statuses, ?_⟩
  cases done : (waitStatusSet ports.logged ecStatusObf device).2 with
  | true =>
      rw [waitStatusSet] at done
      rw [if_pos done] at ends
      obtain ⟨status, busy, rfl, full, -⟩ := ends
      exact fun older => ⟨status, statusReads busy ++ older, rfl, by simpa using full⟩
  | false =>
      rw [waitStatusSet] at done
      rw [done] at ends
      refine ⟨statuses, [], (List.append_nil _).symm, ends.1, .inr fun status member => ?_⟩
      simpa using ends.2 status member

end Steps

/-! ## Whole calls -/

/-- What a call that returned `result` adds to the log. -/
structure CallLog (call : EcCall) (result : Int) (newer : List PortAccess) : Prop where
  handshaken : ∀ older, Handshaken older → Handshaken (newer ++ older)
  sent : bytesSent newer <+: call.bytes
  all : result ≠ -1 → bytesSent newer = call.bytes
  timedOut : result = -1 → TimedOut newer
  answer : ∀ reg, call = .read reg → result ≠ -1 →
    ∃ byte older, newer = .inb ecDataPort byte :: older ∧ result = byte.toNat
  unwritten : ∀ reg value, call = .write reg value → result = -1 → bytesSent newer ≠ call.bytes
  length_le : newer.length ≤ 3 * (waitStatusPolls + 1)

/-- A call that gave up with a beginning of its transaction sent. -/
theorem CallLog.of_timedOut {call : EcCall} {bytes rest : List (UInt8 × UInt16)}
    {newer : List PortAccess} (adds : Adds bytes newer) (whole : bytes ++ rest = call.bytes)
    (late : TimedOut newer) (unwritten : ∀ reg value, call = .write reg value → rest ≠ [])
    (within : newer.length ≤ 3 * (waitStatusPolls + 1)) : CallLog call (-1) newer where
  handshaken := adds.handshaken
  sent := by
    rw [adds.sent, ← whole]
    exact List.prefix_append bytes rest
  all := fun done => absurd rfl done
  timedOut := fun _ => late
  answer := fun _ _ done => absurd rfl done
  unwritten := fun reg value write _ same => by
    rw [adds.sent, ← whole, List.self_eq_append_right] at same
    exact unwritten reg value write same
  length_le := within

/-- A read that took its byte right after a full output buffer. -/
theorem CallLog.of_answer {reg : Int} {byte : UInt8} {newer : List PortAccess}
    (adds : Adds (EcCall.read reg).bytes newer)
    (full : ∀ older, LastStatus false ecStatusObf (newer ++ older))
    (within : newer.length + 1 ≤ 3 * (waitStatusPolls + 1)) :
    CallLog (.read reg) byte.toNat (.inb ecDataPort byte :: newer) := by
  have answered : (byte.toNat : Int) ≠ -1 := by omega
  have sent : bytesSent (.inb ecDataPort byte :: newer) = (EcCall.read reg).bytes := by
    have step := bytesSent_append [.inb ecDataPort byte] newer
    rw [adds.sent] at step
    exact step.trans (List.append_nil _)
  exact
    { handshaken := fun older here => ⟨fun _ => full older, adds.handshaken older here⟩
      sent := ⟨[], by rw [List.append_nil, sent]⟩
      all := fun _ => sent
      timedOut := fun late => absurd late answered
      answer := fun _ _ _ => ⟨byte, newer, rfl, rfl⟩
      unwritten := nofun
      length_le := within }

/-- A write that sent its whole transaction. -/
theorem CallLog.of_written {reg value : Int} {newer : List PortAccess}
    (adds : Adds (EcCall.write reg value).bytes newer)
    (within : newer.length ≤ 3 * (waitStatusPolls + 1)) :
    CallLog (.write reg value) 0 newer where
  handshaken := adds.handshaken
  sent := ⟨[], by rw [List.append_nil, adds.sent]⟩
  all := fun _ => adds.sent
  timedOut := nofun
  answer := nofun
  unwritten := nofun
  length_le := within

section Calls

variable {σ : Type} (ports : Ports σ) (device : σ × List PortAccess)

/-- `ec_io_read_byte` on any device. -/
theorem ecIoReadByte_log (reg : Int) :
    let after := ecIoReadByte ports.logged reg device
    ∃ newer, after.1.2 = newer ++ device.2 ∧ CallLog (.read reg) after.2 newer := by
  obtain ⟨first, firstLog, firstLength, firstAdds⟩ :=
    sendWhenClear_logged ports ecCmdRead ecScPort device
  obtain ⟨second, secondLog, secondLength, secondAdds⟩ :=
    sendWhenClear_logged ports (byteOfInt reg) ecDataPort
      (sendWhenClear ports.logged ecCmdRead ecScPort device).1
  obtain ⟨polls, pollLog, pollLength, pollAdds, pollEnds⟩ :=
    waitStatusSet_logged ports (sendWhenClear ports.logged (byteOfInt reg) ecDataPort
      (sendWhenClear ports.logged ecCmdRead ecScPort device).1).1
  rw [ecIoReadByte]
  dsimp only
  split
  case isFalse stuck =>
    rw [if_neg stuck] at firstAdds
    exact ⟨first, firstLog, .of_timedOut firstAdds.1 rfl firstAdds.2 nofun (by omega)⟩
  case isTrue commandSent =>
    rw [if_pos commandSent] at firstAdds
    split
    case isFalse stuck =>
      rw [if_neg stuck] at secondAdds
      refine ⟨second ++ first, by rw [secondLog, firstLog, List.append_assoc], ?_⟩
      refine .of_timedOut (firstAdds.trans secondAdds.1) rfl (secondAdds.2.append first) nofun ?_
      rw [List.length_append]
      omega
    case isTrue addressSent =>
      rw [if_pos addressSent] at secondAdds
      have sent := (firstAdds.trans secondAdds).trans pollAdds
      have length : (polls ++ (second ++ first)).length ≤ 3 * waitStatusPolls + 2 := by
        rw [List.length_append, List.length_append]
        omega
      split
      case isFalse stuck =>
        rw [if_neg stuck] at pollEnds
        refine ⟨polls ++ (second ++ first), by rw [pollLog, secondLog, firstLog]; simp, ?_⟩
        exact .of_timedOut sent rfl (pollEnds.append _) nofun (by omega)
      case isTrue ready =>
        rw [if_pos ready] at pollEnds
        refine ⟨_, ?_, .of_answer sent (fun older => ?_) (by omega)⟩
        · refine congrArg (PortAccess.inb ecDataPort _ :: ·) ?_
          rw [pollLog, secondLog, firstLog]
          simp
        · rw [List.append_assoc]
          exact pollEnds _

/-- `ec_io_write_byte` on any device. -/
theorem ecIoWriteByte_log (reg value : Int) :
    let after := ecIoWriteByte ports.logged reg value device
    ∃ newer, after.1.2 = newer ++ device.2 ∧ CallLog (.write reg value) after.2 newer := by
  obtain ⟨first, firstLog, firstLength, firstAdds⟩ :=
    sendWhenClear_logged ports ecCmdWrite ecScPort device
  obtain ⟨second, secondLog, secondLength, secondAdds⟩ :=
    sendWhenClear_logged ports (byteOfInt reg) ecDataPort
      (sendWhenClear ports.logged ecCmdWrite ecScPort device).1
  obtain ⟨third, thirdLog, thirdLength, thirdAdds⟩ :=
    sendWhenClear_logged ports (byteOfInt (clampInt value 0 255)) ecDataPort
      (sendWhenClear ports.logged (byteOfInt reg) ecDataPort
        (sendWhenClear ports.logged ecCmdWrite ecScPort device).1).1
  rw [ecIoWriteByte]
  dsimp only
  split
  case isFalse stuck =>
    rw [if_neg stuck] at firstAdds
    exact ⟨first, firstLog, .of_timedOut firstAdds.1 rfl firstAdds.2 nofun (by omega)⟩
  case isTrue commandSent =>
    rw [if_pos commandSent] at firstAdds
    split
    case isFalse stuck =>
      rw [if_neg stuck] at secondAdds
      refine ⟨second ++ first, by rw [secondLog, firstLog, List.append_assoc], ?_⟩
      refine .of_timedOut (firstAdds.trans secondAdds.1) rfl (secondAdds.2.append first) nofun ?_
      rw [List.length_append]
      omega
    case isTrue addressSent =>
      rw [if_pos addressSent] at secondAdds
      have sent := firstAdds.trans secondAdds
      have log : (sendWhenClear ports.logged (byteOfInt (clampInt value 0 255)) ecDataPort
          (sendWhenClear ports.logged (byteOfInt reg) ecDataPort
            (sendWhenClear ports.logged ecCmdWrite ecScPort device).1).1).1.2 =
          third ++ (second ++ first) ++ device.2 := by
        rw [thirdLog, secondLog, firstLog]
        simp
      have length : (third ++ (second ++ first)).length ≤ 3 * (waitStatusPolls + 1) := by
        rw [List.length_append, List.length_append]
        omega
      split
      case isFalse stuck =>
        rw [if_neg stuck] at thirdAdds
        refine ⟨third ++ (second ++ first), log, ?_⟩
        exact .of_timedOut (sent.trans thirdAdds.1) rfl (thirdAdds.2.append _) nofun length
      case isTrue dataSent =>
        rw [if_pos dataSent] at thirdAdds
        exact ⟨third ++ (second ++ first), log, .of_written (sent.trans thirdAdds) length⟩

theorem ecIoCall_log (call : EcCall) :
    let after := ecIoCall ports.logged call device
    ∃ newer, after.1.2 = newer ++ device.2 ∧ CallLog call after.2 newer := by
  cases call with
  | read reg => exact ecIoReadByte_log ports device reg
  | write reg value => exact ecIoWriteByte_log ports device reg value

/-- A run adds the logs of its calls, one after the other. -/
theorem ecIoRun_log (calls : List EcCall) :
    let after := ecIoRun ports.logged calls device
    ∃ logs, after.1.2 = logs.reverse.flatten ++ device.2 ∧
      List.Forall₂ (fun call newer => CallLog call.1 call.2 newer) (calls.zip after.2) logs := by
  induction calls generalizing device with
  | nil => exact ⟨[], rfl, .nil⟩
  | cons call rest ih =>
      obtain ⟨newer, log, here⟩ := ecIoCall_log ports device call
      obtain ⟨logs, later, there⟩ := ih (ecIoCall ports.logged call device).1
      refine ⟨newer :: logs, ?_, .cons here there⟩
      rw [ecIoRun_cons]
      simp only [later, log, List.reverse_cons, List.flatten_append, List.flatten_cons,
        List.flatten_nil, List.append_nil, List.append_assoc]

/-- Every byte of every run is moved in its turn. -/
theorem ecIoRun_handshaken {calls : List EcCall} {device : σ × List PortAccess}
    (before : Handshaken device.2) : Handshaken (ecIoRun ports.logged calls device).1.2 := by
  induction calls generalizing device with
  | nil => exact before
  | cons call rest ih =>
      obtain ⟨newer, log, here⟩ := ecIoCall_log ports device call
      refine ih ?_
      rw [log]
      exact here.handshaken _ before

end Calls

/--
On every device, whatever its ports answer: each byte of a run of reads and
writes is moved right after a status read that allows it; the log is made of
one part for each call, with a beginning of its transaction, the whole one
when the call succeeds and, for a write, only then; and a call that fails has
just read a busy status as often as it may.
-/
theorem ec_ports_handshake {σ : Type} (ports : Ports σ) (calls : List EcCall) (device : σ) :
    let after := ecIoRun ports.logged calls (device, [])
    Handshaken after.1.2 ∧
      ∃ logs, after.1.2 = logs.reverse.flatten ∧
        List.Forall₂ (fun call newer => CallLog call.1 call.2 newer) (calls.zip after.2) logs := by
  refine ⟨ecIoRun_handshaken ports trivial, ?_⟩
  obtain ⟨logs, log, calls⟩ := ecIoRun_log ports (device, []) calls
  exact ⟨logs, log.trans (List.append_nil _), calls⟩

end NitroSense
