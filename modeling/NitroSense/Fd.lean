import NitroSense.Text
import NitroSense.Lib.Run

/-!
# Descriptors

`util/fd.c`.  A call on a descriptor is a machine that waits for the result of
its next system call, so a statement about every run of it is a statement about
every sequence of results.
-/

namespace NitroSense

open Lib

/-- What a system call returns: -1, -1 with `EINTR`, or success with a count. -/
inductive SysResult where
  | failed
  | interrupted
  | done (count : Nat)
  deriving DecidableEq, Repr

/-- The call was not interrupted. -/
def SysResult.settled (result : SysResult) : Bool := result != .interrupted

/-- What a `read` of one byte returns: -1, -1 with `EINTR`, the end of the input, or a byte. -/
inductive ReadResult where
  | failed
  | interrupted
  | eof
  | byte (ch : Char)
  deriving DecidableEq, Repr

/-- `fd_read_retry` returns these results and reads again after the others. -/
def ReadResult.settled (result : ReadResult) : Bool := result != .interrupted

/-- `fd_write_all`: in front of the `write` at an offset, or returned. -/
inductive FdWriteAll where
  | writing (off : Nat)
  | returned (result : Int)
  deriving DecidableEq, Repr

def fdWriteLoop (bytes : CString) (off : Nat) : FdWriteAll :=
  if off < bytes.length then .writing off else .returned 0

/-- The bytes that the descriptor takes in a `write` of those from `off` on: never more. -/
def writeTaken (bytes : CString) (off : Nat) : SysResult → CString
  | .done count => (bytes.drop off).take count
  | _ => []

def fdWriteNext (bytes : CString) (off : Nat) (result : SysResult) : FdWriteAll :=
  match result with
  | .interrupted => .writing off
  | .failed => .returned (-1)
  | .done _ =>
      let n := (writeTaken bytes off result).length
      if n = 0 then .returned (-1) else fdWriteLoop bytes (off + n)

/-- How many results other than `EINTR` the loop can still wait for. -/
def FdWriteAll.rank (bytes : CString) : FdWriteAll → Nat
  | writing off => bytes.length - off
  | returned _ => 0

section Write

variable {bytes : CString} {off : Nat}

theorem writeTaken_prefix (bytes : CString) (off : Nat) (result : SysResult) :
    bytes.take off ++ writeTaken bytes off result =
      bytes.take (off + (writeTaken bytes off result).length) := by
  cases result with
  | failed => simp [writeTaken]
  | interrupted => simp [writeTaken]
  | done count =>
      have first : writeTaken bytes off (.done count) <+: bytes.drop off := List.take_prefix _ _
      rw [List.take_add, ← List.prefix_iff_eq_take.mp first]

/-- What one turn of the loop has sent when it goes on, and when it is done. -/
structure FdWriteSent (bytes : CString) (loop : FdWriteAll) (sent : CString) : Prop where
  started : sent <+: bytes
  writing : ∀ off, loop = .writing off → off < bytes.length ∧ sent = bytes.take off
  all : loop = .returned 0 → sent = bytes
  result : ∀ result, loop = .returned result → result = 0 ∨ result = -1

theorem fdWriteLoop_sent (bytes : CString) (off : Nat) :
    FdWriteSent bytes (fdWriteLoop bytes off) (bytes.take off) := by
  unfold fdWriteLoop
  by_cases more : off < bytes.length
  · rw [if_pos more]
    refine ⟨List.take_prefix off bytes, ?_, nofun, nofun⟩
    intro _ same
    cases same
    exact ⟨more, rfl⟩
  · rw [if_neg more]
    refine ⟨List.take_prefix off bytes, nofun, ?_, ?_⟩
    · intro _
      exact List.take_of_length_le (Nat.le_of_not_lt more)
    · intro _ same
      cases same
      exact Or.inl rfl

/-- A turn of the loop sends the next bytes, and returns 0 only behind the last. -/
theorem fdWriteNext_sent (more : off < bytes.length) (result : SysResult) :
    FdWriteSent bytes (fdWriteNext bytes off result)
      (bytes.take off ++ writeTaken bytes off result) := by
  have given := writeTaken_prefix bytes off result
  have failed (sent : CString) (started : sent <+: bytes) :
      FdWriteSent bytes (.returned (-1)) sent := by
    refine ⟨started, nofun, nofun, ?_⟩
    intro _ same
    cases same
    exact Or.inr rfl
  have started : bytes.take off ++ writeTaken bytes off result <+: bytes := by
    rw [given]
    exact List.take_prefix _ bytes
  cases result with
  | failed => exact failed _ started
  | interrupted =>
      refine ⟨started, ?_, nofun, nofun⟩
      intro _ same
      cases same
      exact ⟨more, List.append_nil _⟩
  | done count =>
      unfold fdWriteNext
      dsimp only
      split
      · exact failed _ started
      · rw [given]
        exact fdWriteLoop_sent bytes _

theorem fdWriteLoop_rank (bytes : CString) (off : Nat) :
    (fdWriteLoop bytes off).rank bytes ≤ bytes.length - off := by
  unfold fdWriteLoop
  split
  · exact le_refl _
  · exact Nat.zero_le _

/-- A `write` that is not interrupted ends the loop or takes some of the bytes. -/
theorem fdWriteNext_settled (bytes : CString) (off : Nat) {result : SysResult}
    (settled : result.settled = true) :
    fdWriteNext bytes off result = .returned (-1) ∨
      ∃ n, 0 < n ∧ n ≤ bytes.length - off ∧
        fdWriteNext bytes off result = fdWriteLoop bytes (off + n) := by
  cases result with
  | failed => exact Or.inl rfl
  | interrupted => cases settled
  | done count =>
      by_cases none : (writeTaken bytes off (.done count)).length = 0
      · exact Or.inl (if_pos none)
      · refine Or.inr ⟨_, Nat.pos_of_ne_zero none, ?_, if_neg none⟩
        rw [writeTaken, List.length_take, List.length_drop]
        exact Nat.min_le_right _ _

/-- Every `write` that is not interrupted brings the loop closer to its end. -/
theorem fdWriteNext_rank (bytes : CString) (off : Nat) (result : SysResult) :
    (fdWriteNext bytes off result).rank bytes ≤
      bytes.length - off - if result.settled then 1 else 0 := by
  cases settled : result.settled with
  | false =>
      have interrupted : result = .interrupted := by simpa [SysResult.settled] using settled
      rw [interrupted]
      exact le_refl _
  | true =>
      rcases fdWriteNext_settled bytes off settled with returned | ⟨n, positive, room, next⟩
      · rw [returned]
        exact Nat.zero_le _
      · have loop := fdWriteLoop_rank bytes (off + n)
        rw [next, if_pos rfl]
        omega

end Write

/-! ## The whole call -/

/-- A call of `fd_write_all` and what its descriptor has taken. -/
structure FdWriting where
  loop : FdWriteAll
  sent : CString := []

def FdWriting.step (bytes : CString) (call : FdWriting) (result : SysResult) : FdWriting :=
  match call.loop with
  | .writing off => ⟨fdWriteNext bytes off result, call.sent ++ writeTaken bytes off result⟩
  | .returned _ => call

/-- `fd_write_all` after these results of its system calls. -/
def fdWriteAll (bytes : CString) (results : List SysResult) : FdWriting :=
  run (FdWriting.step bytes) ⟨fdWriteLoop bytes 0, []⟩ results

theorem fdWriteAll_sent (bytes : CString) (results : List SysResult) :
    FdWriteSent bytes (fdWriteAll bytes results).loop (fdWriteAll bytes results).sent := by
  refine run_preserves (fun call : FdWriting => FdWriteSent bytes call.loop call.sent)
    (fdWriteLoop_sent bytes 0) ?_ results
  intro call result before
  unfold FdWriting.step
  split
  · rename_i off writing
    obtain ⟨more, sent⟩ := before.writing off writing
    dsimp only
    rw [sent]
    exact fdWriteNext_sent more result
  · exact before

theorem FdWriting.step_rank (bytes : CString) (call : FdWriting) (result : SysResult) :
    (call.step bytes result).loop.rank bytes ≤
      call.loop.rank bytes - if result.settled then 1 else 0 := by
  unfold FdWriting.step
  split
  · rename_i off writing
    dsimp only
    rw [writing]
    exact fdWriteNext_rank bytes off result
  · rename_i returned
    rw [returned]
    exact Nat.zero_le _

/-- With as many results other than `EINTR` as bytes, `fd_write_all` has returned. -/
theorem fdWriteAll_returns {bytes : CString} {results : List SysResult}
    (enough : bytes.length ≤ results.countP SysResult.settled) :
    ∃ result, (fdWriteAll bytes results).loop = .returned result := by
  have rank : (fdWriteAll bytes results).loop.rank bytes ≤
      (fdWriteLoop bytes 0).rank bytes - results.countP SysResult.settled :=
    run_rank (fun call : FdWriting => call.loop.rank bytes) SysResult.settled
      (FdWriting.step_rank bytes) results
  have start := fdWriteLoop_rank bytes 0
  cases loop : (fdWriteAll bytes results).loop with
  | returned result => exact ⟨result, rfl⟩
  | writing off =>
      have more := ((fdWriteAll_sent bytes results).writing off loop).1
      rw [loop] at rank
      change bytes.length - off ≤ _ at rank
      omega

end NitroSense
