import NitroSense.Fd
import NitroSense.Format
import Mathlib.Data.List.TakeWhile

/-!
# The client's end of the socket

`client/transport.c`.  An exchange is what the system calls of a client
return: the reply arrives in any pieces, with interruptions, and an error may
come at any place.
-/

namespace NitroSense

open Lib

/-- What a `read` into a buffer returns: -1, -1 with `EINTR`, or bytes, of which there are none at
the end of the input. -/
inductive ChunkResult where
  | failed
  | interrupted
  | data (bytes : CString)
  deriving DecidableEq, Repr

/-- `fd_read_retry` returns these results and reads again after the others. -/
def ChunkResult.settled (result : ChunkResult) : Bool := result != .interrupted

/-- `append_capture_output`, for a buffer that holds `out`. -/
def appendCaptureOutput (outLen : Nat) (out text : CString) : CString :=
  if outLen = 0 ∨ outLen - 1 ≤ out.length then out
  else out ++ text.take (outLen - out.length - 1)

/-- What becomes of a piece of the reply: it is captured, or printed without a buffer. -/
def takeReply (outLen : Nat) (out text : CString) : CString :=
  if outLen > 0 then appendCaptureOutput outLen out text else out ++ text

/-- The loop of `client_send_command_capture`: reading, or returned. -/
inductive ReceivePhase where
  | reading
  | returned (result : Int)
  deriving DecidableEq, Repr

/-- The loop and the text it has captured or printed. -/
structure Receiving where
  phase : ReceivePhase := .reading
  out : CString := []
  deriving DecidableEq, Repr

/-- The loop after one `read` into its 4096 bytes, one of which is for the NUL. -/
def receiveNext (outLen : Nat) (out : CString) : ChunkResult → Receiving
  -- the loop of `fd_read_retry`
  | .interrupted => { out := out }
  | .failed => { phase := .returned 1, out := out }
  | .data bytes =>
      let buf := bytes.take (4096 - 1)
      if buf = [] then { phase := .returned 0, out := out }
      else { out := takeReply outLen out (buf.takeWhile (· != nul)) }

def Receiving.step (outLen : Nat) (loop : Receiving) (result : ChunkResult) : Receiving :=
  match loop.phase with
  | .reading => receiveNext outLen loop.out result
  | .returned _ => loop

/-- The system calls of a client: whether there is a socket and whether it connects, and what its
writes and its reads return. -/
structure Exchange where
  socket : Bool := true
  connects : Bool := true
  writes : List SysResult := []
  reads : List ChunkResult := []
  deriving DecidableEq, Repr

/-- A call of the client: what it returns once it has, the text of the reply, and what it sent. -/
structure ClientCall where
  result : Option Int
  out : CString := []
  sent : CString := []
  deriving DecidableEq, Repr

def ReceivePhase.result : ReceivePhase → Option Int
  | .reading => none
  | .returned result => some result

/-- `client_send_command_capture`; `outLen` is 0 without a buffer, and the reply is printed. -/
def clientSendCommandCapture (command : CString) (outLen : Nat) (exchange : Exchange) :
    ClientCall :=
  if exchange.socket = false then { result := some 1 }
  else if exchange.connects = false then { result := some 1 }
  else
    let writing := fdWriteAll command exchange.writes
    match writing.loop with
    | .writing _ => { result := none, sent := writing.sent }
    | .returned result =>
        if result < 0 then { result := some 1, sent := writing.sent }
        else
          let loop := run (Receiving.step outLen) {} exchange.reads
          { result := loop.phase.result, out := loop.out, sent := writing.sent }

def clientSendCommand (command : CString) (exchange : Exchange) : ClientCall :=
  clientSendCommandCapture command 0 exchange

/-- `client_send_commandf`, with its formatted text: one that does not fit is not sent. -/
def clientSendCommandf (text : CString) (exchange : Exchange) : ClientCall :=
  if text.length ≥ 256 then { result := some 2 } else clientSendCommand text exchange

/-! ## The reply -/

def keptReply (outLen : Nat) (reply : CString) : CString :=
  if outLen > 0 then reply.take (outLen - 1) else reply

section Reply

variable {outLen : Nat}

/-- What is kept of a reply and a further piece is what is kept of both. -/
theorem takeReply_kept (outLen : Nat) (reply text : CString) :
    takeReply outLen (keptReply outLen reply) text = keptReply outLen (reply ++ text) := by
  unfold takeReply keptReply
  split
  · rename_i room
    have size : (reply.take (outLen - 1)).length = min (outLen - 1) reply.length :=
      List.length_take
    rw [appendCaptureOutput]
    split
    · rename_i full
      rw [List.take_append_of_le_length (by omega)]
    · rename_i more
      have short : reply.length < outLen - 1 := by omega
      rw [List.take_of_length_le (Nat.le_of_lt short), List.take_append,
        List.take_of_length_le (Nat.le_of_lt short), show outLen - reply.length - 1 =
          outLen - 1 - reply.length by omega]
  · rfl

/-- Interruptions change nothing. -/
theorem receiving_settled (loop : Receiving) (reads : List ChunkResult) :
    run (Receiving.step outLen) loop reads =
      run (Receiving.step outLen) loop (reads.filter ChunkResult.settled) := by
  induction reads generalizing loop with
  | nil => rfl
  | cons read reads ih =>
      rw [run_cons, ih]
      cases settled : read.settled with
      | true => rw [List.filter_cons_of_pos settled, run_cons]
      | false =>
          have interrupted : read = .interrupted := by
            simpa [ChunkResult.settled] using settled
          have same : loop.step outLen read = loop := by
            obtain ⟨phase, out⟩ := loop
            rw [interrupted]
            cases phase <;> rfl
          rw [List.filter_cons_of_neg (by simp [settled]), same]

theorem receiving_returned (result : Int) (out : CString) (reads : List ChunkResult) :
    run (Receiving.step outLen) ⟨.returned result, out⟩ reads = ⟨.returned result, out⟩ := by
  induction reads with
  | nil => rfl
  | cons read reads ih => exact ih

/-- Pieces as the kernel gives them: not empty, and no more than was asked for. -/
def Piece (chunk : CString) : Prop := chunk ≠ [] ∧ chunk.length ≤ 4095

/-- The pieces of a reply are put together. -/
theorem receiving_chunks {chunks : List CString} (pieces : ∀ chunk ∈ chunks, Piece chunk)
    (noNul : nul ∉ chunks.flatten) (reply : CString) (rest : List ChunkResult) :
    run (Receiving.step outLen) ⟨.reading, keptReply outLen reply⟩ (chunks.map .data ++ rest) =
      run (Receiving.step outLen) ⟨.reading, keptReply outLen (reply ++ chunks.flatten)⟩ rest := by
  induction chunks generalizing reply with
  | nil => rw [List.flatten_nil, List.append_nil, List.map_nil, List.nil_append]
  | cons chunk chunks ih =>
      obtain ⟨⟨nonempty, size⟩, others⟩ := List.forall_mem_cons.mp pieces
      rw [List.flatten_cons, List.mem_append, not_or] at noNul
      have whole : chunk.take (4096 - 1) = chunk := List.take_of_length_le size
      have string : chunk.takeWhile (· != nul) = chunk := by
        rw [List.takeWhile_eq_self_iff]
        intro c member
        simpa using fun same : c = nul => noNul.1 (same ▸ member)
      have step : Receiving.step outLen ⟨.reading, keptReply outLen reply⟩ (.data chunk) =
          ⟨.reading, keptReply outLen (reply ++ chunk)⟩ := by
        rw [Receiving.step, receiveNext]
        dsimp only
        rw [whole, if_neg nonempty, string, takeReply_kept]
      rw [List.map_cons, List.cons_append, run_cons, step, ih others noNul.2, List.flatten_cons,
        List.append_assoc]

end Reply

/-- The daemon takes the command, sends the reply in pieces, and closes. -/
structure Answers (exchange : Exchange) (command reply : CString) : Prop where
  socket : exchange.socket = true
  connects : exchange.connects = true
  taken : (fdWriteAll command exchange.writes).loop = .returned 0
  arrives : ∃ (chunks : List CString) (rest : List ChunkResult), chunks.flatten = reply ∧
    (∀ chunk ∈ chunks, Piece chunk) ∧
      exchange.reads.filter ChunkResult.settled = chunks.map .data ++ .data [] :: rest

/-- The client sends its command and gets the reply, as far as its buffer has room. -/
theorem clientSendCommandCapture_answered {exchange : Exchange} {command reply : CString}
    (answers : Answers exchange command reply) (noNul : nul ∉ reply) (outLen : Nat) :
    clientSendCommandCapture command outLen exchange =
      ⟨some 0, keptReply outLen reply, command⟩ := by
  obtain ⟨chunks, rest, rfl, pieces, arrives⟩ := answers.arrives
  have sent := (fdWriteAll_sent command exchange.writes).all answers.taken
  have nothing : keptReply outLen [] = [] := by
    unfold keptReply
    split
    · exact List.take_nil
    · rfl
  have loop : run (Receiving.step outLen) {} exchange.reads =
      ⟨.returned 0, keptReply outLen chunks.flatten⟩ := by
    have start : ({} : Receiving) = ⟨.reading, keptReply outLen []⟩ := by rw [nothing]
    rw [receiving_settled, arrives, start, receiving_chunks pieces noNul, List.nil_append, run_cons]
    exact receiving_returned 0 _ rest
  rw [clientSendCommandCapture, answers.socket, answers.connects, if_neg (by decide),
    if_neg (by decide)]
  dsimp only
  rw [answers.taken]
  dsimp only
  rw [if_neg (by decide), loop, sent]
  rfl

end NitroSense
