import NitroSense.Daemon.Loop
import NitroSense.Fd
import NitroSense.Format

/-!
# Commands of a client

`control_read_command` reads a line byte by byte into a buffer of its caller.
Like the other calls on descriptors it is a machine that waits for the result
of its next `read`, so a client is a list of results: the bytes it sends in any
pieces, with interruptions, an end or an error anywhere.
-/

namespace NitroSense

open Lib

/-- In front of the `read` of the next byte, or returned. -/
inductive ReadPhase where
  | reading (used : Nat)
  | returned (result : Int)
  deriving DecidableEq, Repr

structure ReadCommand where
  phase : ReadPhase
  out : Nat → Char

/-- What `control_read_command` does behind its loop. -/
def readCommandEnd (outLen used : Nat) (out : Nat → Char) : ReadCommand :=
  ⟨.returned (if used + 1 = outLen then -1 else if used > 0 then 0 else -1),
    Function.update out used nul⟩

def readCommandLoop (outLen used : Nat) (out : Nat → Char) : ReadCommand :=
  if used + 1 < outLen then ⟨.reading used, out⟩ else readCommandEnd outLen used out

def readCommandNext (outLen used : Nat) (out : Nat → Char) : ReadResult → ReadCommand
  -- the loop of `fd_read_retry`
  | .interrupted => ⟨.reading used, out⟩
  | .failed => ⟨.returned (-1), out⟩
  | .eof => readCommandEnd outLen used out
  | .byte ch =>
      if ch = '\n' then readCommandEnd outLen used out
      else readCommandLoop outLen (used + 1) (Function.update out used ch)

def ReadCommand.step (outLen : Nat) (call : ReadCommand) (result : ReadResult) : ReadCommand :=
  match call.phase with
  | .reading used => readCommandNext outLen used call.out result
  | .returned _ => call

/-- `control_read_command` after these results of its reads. -/
def controlReadCommand (outLen : Nat) (out : Nat → Char) (results : List ReadResult) : ReadCommand :=
  run (ReadCommand.step outLen)
    (if outLen = 0 then ⟨.returned (-1), out⟩ else readCommandLoop outLen 0 out) results

/-! ## What a client sends -/

/-- The client has sent these bytes, without a newline, and then what its other reads return. -/
def Sends (results : List ReadResult) (bytes : CString) (rest : List ReadResult) : Prop :=
  '\n' ∉ bytes ∧ results.filter ReadResult.settled = bytes.map .byte ++ rest

def ReadResult.EndsLine (result : ReadResult) : Prop := result = .eof ∨ result = .byte '\n'

/-- The bytes before the first newline or the end of the input, read without error. -/
def SendsLine (results : List ReadResult) (line : CString) : Prop :=
  ∃ last rest, last.EndsLine ∧ Sends results line (last :: rest)

/-- A read fails before the line ends. -/
def SendsError (results : List ReadResult) : Prop :=
  ∃ bytes rest, Sends results bytes (.failed :: rest)

def SendsAtLeast (results : List ReadResult) (count : Nat) : Prop :=
  ∃ bytes rest, count ≤ bytes.length ∧ Sends results bytes rest

/-- The bytes fill a room, or are all there are, or a newline, the end or an error comes next. -/
def Covers (room : Nat) (bytes : CString) (rest : List ReadResult) : Prop :=
  bytes.length = room ∨ bytes.length < room ∧
    (rest = [] ∨ ∃ last later, rest = last :: later ∧ (last.EndsLine ∨ last = .failed))

theorem covers_cases (reads : List ReadResult) (settled : ∀ read ∈ reads, read ≠ .interrupted)
    (room : Nat) : ∃ (bytes : CString) (rest : List ReadResult),
      '\n' ∉ bytes ∧ reads = bytes.map .byte ++ rest ∧ Covers room bytes rest := by
  induction reads generalizing room with
  | nil =>
      refine ⟨[], [], List.not_mem_nil, rfl, ?_⟩
      rcases Nat.eq_zero_or_pos room with none | some
      · exact Or.inl none.symm
      · exact Or.inr ⟨some, Or.inl rfl⟩
  | cons read reads ih =>
      cases room with
      | zero => exact ⟨[], read :: reads, List.not_mem_nil, rfl, Or.inl rfl⟩
      | succ room =>
          have last (ends : read.EndsLine ∨ read = .failed) :
              Covers (room + 1) [] (read :: reads) :=
            Or.inr ⟨Nat.succ_pos room, Or.inr ⟨read, reads, rfl, ends⟩⟩
          cases read with
          | failed => exact ⟨[], _, List.not_mem_nil, rfl, last (Or.inr rfl)⟩
          | interrupted => exact absurd rfl (settled _ List.mem_cons_self)
          | eof => exact ⟨[], _, List.not_mem_nil, rfl, last (Or.inl (Or.inl rfl))⟩
          | byte ch =>
              by_cases newline : ch = '\n'
              · exact ⟨[], _, List.not_mem_nil, rfl, last (Or.inl (Or.inr (newline ▸ rfl)))⟩
              · obtain ⟨bytes, rest, noNewline, split, covers⟩ :=
                  ih (fun read member => settled read (List.mem_cons_of_mem _ member)) room
                refine ⟨ch :: bytes, rest, ?_, by rw [split]; rfl, ?_⟩
                · simp [noNewline, Ne.symm newline]
                · rw [Covers, List.length_cons, Nat.succ_inj, Nat.succ_lt_succ_iff]
                  exact covers

/-- What a client sends, as far as a buffer has room for it. -/
theorem sends_cases (results : List ReadResult) (room : Nat) :
    ∃ bytes rest, Sends results bytes rest ∧ Covers room bytes rest := by
  have settled : ∀ read ∈ results.filter ReadResult.settled, read ≠ .interrupted := by
    intro read member
    have kept := (List.mem_filter.mp member).2
    simpa [ReadResult.settled] using kept
  obtain ⟨bytes, rest, noNewline, split, covers⟩ := covers_cases _ settled room
  exact ⟨bytes, rest, ⟨noNewline, split⟩, covers⟩

/-- The first bytes of a longer line. -/
theorem SendsAtLeast.first {results : List ReadResult} {count : Nat}
    (long : SendsAtLeast results count) :
    ∃ bytes rest, bytes.length = count ∧ Sends results bytes rest := by
  obtain ⟨bytes, rest, more, none, split⟩ := long
  refine ⟨bytes.take count, (bytes.drop count).map .byte ++ rest,
    List.length_take_of_le more, fun member => none (List.mem_of_mem_take member), ?_⟩
  rw [split, ← List.append_assoc, ← List.map_append, List.take_append_drop]

/-! ## The loop -/

section Loop

variable {outLen used : Nat} {out : Nat → Char}

/-- The bytes of an unfinished line are stored behind each other. -/
theorem readCommandLoop_bytes {bytes : CString} (noNewline : '\n' ∉ bytes)
    (fits : used + bytes.length + 1 ≤ outLen) :
    run (ReadCommand.step outLen) (readCommandLoop outLen used out) (bytes.map .byte) =
      readCommandLoop outLen (used + bytes.length) (store out used bytes) := by
  induction bytes generalizing used out with
  | nil => rfl
  | cons ch bytes ih =>
      rw [List.length_cons] at fits
      have room : used + 1 < outLen := by omega
      have other : ch ≠ '\n' := fun same => noNewline (same ▸ List.mem_cons_self)
      have stored : ReadCommand.step outLen (readCommandLoop outLen used out) (.byte ch) =
          readCommandLoop outLen (used + 1) (Function.update out used ch) := by
        rw [readCommandLoop, if_pos room]
        exact if_neg other
      rw [List.map_cons, run_cons, stored,
        ih (fun member => noNewline (List.mem_cons_of_mem _ member)) (by omega),
        List.length_cons, Nat.add_right_comm, Nat.add_assoc]
      rfl

end Loop

section Call

variable {outLen : Nat} {out : Nat → Char} {results : List ReadResult} {bytes : CString}
  {rest : List ReadResult}

/-- After the bytes of a line, the call goes on with what its other reads return. -/
theorem controlReadCommand_sends (sends : Sends results bytes rest) (fits : bytes.length + 1 ≤ outLen) :
    controlReadCommand outLen out results =
      run (ReadCommand.step outLen) (readCommandLoop outLen bytes.length (store out 0 bytes)) rest := by
  have idle : ∀ (call : ReadCommand) (result : ReadResult), result.settled = false →
      call.step outLen result = call := by
    intro call result interrupted
    cases result with
    | interrupted =>
        obtain ⟨phase, cells⟩ := call
        cases phase <;> rfl
    | failed => cases interrupted
    | eof => cases interrupted
    | byte ch => cases interrupted
  rw [controlReadCommand, if_neg (by omega), ← run_filter idle, sends.2, run_append,
    readCommandLoop_bytes sends.1 (by omega), Nat.zero_add]

/-- In front of the end of its line, the call has stored the line and waits. -/
theorem controlReadCommand_waits (sends : Sends results bytes rest)
    (fits : bytes.length + 1 < outLen) :
    controlReadCommand outLen out results =
      run (ReadCommand.step outLen) ⟨.reading bytes.length, store out 0 bytes⟩ rest := by
  rw [controlReadCommand_sends sends (Nat.le_of_lt fits), readCommandLoop, if_pos fits]

theorem controlReadCommand_line (sends : SendsLine results bytes)
    (fits : bytes.length + 1 < outLen) :
    controlReadCommand outLen out results =
      readCommandEnd outLen bytes.length (store out 0 bytes) := by
  obtain ⟨last, later, ends, sends⟩ := sends
  have ended : ReadCommand.step outLen ⟨.reading bytes.length, store out 0 bytes⟩ last =
      readCommandEnd outLen bytes.length (store out 0 bytes) := by
    rcases ends with rfl | rfl
    · rfl
    · rfl
  rw [controlReadCommand_waits sends fits, run_cons, ended]
  exact run_fixed (fun _ => rfl) later

theorem controlReadCommand_error (sends : Sends results bytes (.failed :: rest))
    (fits : bytes.length + 1 < outLen) :
    (controlReadCommand outLen out results).phase = .returned (-1) := by
  rw [controlReadCommand_waits sends fits, run_cons]
  exact congrArg ReadCommand.phase (run_fixed (fun _ => rfl) rest)

/-- A line that fills the buffer is refused before its end. -/
theorem controlReadCommand_long (long : SendsAtLeast results (outLen - 1)) (room : 2 ≤ outLen) :
    (controlReadCommand outLen out results).phase = .returned (-1) := by
  obtain ⟨bytes, rest, length, sends⟩ := long.first
  have full : bytes.length + 1 = outLen := by omega
  have ended : readCommandLoop outLen bytes.length (store out 0 bytes) =
      readCommandEnd outLen bytes.length (store out 0 bytes) := if_neg (by omega)
  rw [controlReadCommand_sends sends (Nat.le_of_eq full), ended, run_fixed (fun _ => rfl) rest,
    readCommandEnd, if_pos full]

/-! ## The buffer -/

/-- The end of the loop terminates the bytes that the loop has stored. -/
theorem readCommandEnd_load (line : CString) :
    load (readCommandEnd outLen line.length (store out 0 line)).out 0 (line.length + 1) =
      line ++ [nul] := by
  have stored : (readCommandEnd outLen line.length (store out 0 line)).out =
      store out 0 (line ++ [nul]) := by
    rw [store_append, Nat.zero_add]
    rfl
  have length : (line ++ [nul]).length = line.length + 1 := List.length_append
  rw [stored, ← length]
  exact load_store out 0 (line ++ [nul])

/-- A call in its loop is inside its buffer, and no call changes a byte behind it. -/
structure InBuffer (outLen : Nat) (out : Nat → Char) (call : ReadCommand) : Prop where
  reading : ∀ used, call.phase = .reading used → used + 1 < outLen
  behind : ∀ index, outLen ≤ index → call.out index = out index

theorem readCommandEnd_inBuffer {used : Nat} {cells : Nat → Char} (inside : used < outLen)
    (behind : ∀ index, outLen ≤ index → cells index = out index) :
    InBuffer outLen out (readCommandEnd outLen used cells) := by
  refine ⟨nofun, fun index beyond => ?_⟩
  have other : index ≠ used := by omega
  exact (Function.update_of_ne other nul cells).trans (behind index beyond)

theorem readCommandLoop_inBuffer {used : Nat} {cells : Nat → Char} (inside : used < outLen)
    (behind : ∀ index, outLen ≤ index → cells index = out index) :
    InBuffer outLen out (readCommandLoop outLen used cells) := by
  unfold readCommandLoop
  split
  · rename_i more
    refine ⟨?_, behind⟩
    intro _ same
    cases same
    exact more
  · exact readCommandEnd_inBuffer inside behind

theorem ReadCommand.step_inBuffer {call : ReadCommand} (before : InBuffer outLen out call)
    (result : ReadResult) : InBuffer outLen out (call.step outLen result) := by
  unfold ReadCommand.step
  split
  · rename_i used reading
    have more := before.reading used reading
    have inside : used < outLen := Nat.lt_of_succ_lt more
    cases result with
    | interrupted =>
        refine ⟨?_, before.behind⟩
        intro _ same
        cases same
        exact more
    | failed => exact ⟨nofun, before.behind⟩
    | eof => exact readCommandEnd_inBuffer inside before.behind
    | byte ch =>
        dsimp only [readCommandNext]
        split
        · exact readCommandEnd_inBuffer inside before.behind
        · refine readCommandLoop_inBuffer more fun index beyond => ?_
          have other : index ≠ used := by omega
          exact (Function.update_of_ne other ch call.out).trans (before.behind index beyond)
  · exact before

theorem controlReadCommand_inBuffer (outLen : Nat) (out : Nat → Char) (results : List ReadResult) :
    InBuffer outLen out (controlReadCommand outLen out results) := by
  refine run_preserves (InBuffer outLen out) ?_ (fun _ result before =>
    ReadCommand.step_inBuffer before result) results
  split
  · exact ⟨nofun, fun _ _ => rfl⟩
  · rename_i room
    exact readCommandLoop_inBuffer (Nat.pos_of_ne_zero room) fun _ _ => rfl

/-! ## Returning -/

/-- How many results other than `EINTR` a call can still wait for. -/
def ReadPhase.rank (outLen : Nat) : ReadPhase → Nat
  | reading used => outLen - 1 - used
  | returned _ => 0

theorem readCommandLoop_rank (outLen used : Nat) (cells : Nat → Char) :
    (readCommandLoop outLen used cells).phase.rank outLen ≤ outLen - 1 - used := by
  unfold readCommandLoop
  split
  · exact Nat.le_refl _
  · exact Nat.zero_le _

theorem ReadCommand.step_rank (outLen : Nat) (call : ReadCommand) (result : ReadResult) :
    (call.step outLen result).phase.rank outLen ≤
      call.phase.rank outLen - if result.settled then 1 else 0 := by
  unfold ReadCommand.step
  split
  · rename_i used reading
    rw [reading]
    cases result with
    | interrupted => exact Nat.le_refl _
    | failed => exact Nat.zero_le _
    | eof => exact Nat.zero_le _
    | byte ch =>
        dsimp only [readCommandNext]
        split
        · exact Nat.zero_le _
        · have loop := readCommandLoop_rank outLen (used + 1) (Function.update call.out used ch)
          change _ ≤ outLen - 1 - used - 1
          omega
  · rename_i returned
    rw [returned]
    exact Nat.zero_le _

/-- With as many results other than `EINTR` as a line may have bytes, the call has returned. -/
theorem controlReadCommand_returns (out : Nat → Char)
    (enough : outLen - 1 ≤ results.countP ReadResult.settled) :
    ∃ result, (controlReadCommand outLen out results).phase = .returned result := by
  cases phase : (controlReadCommand outLen out results).phase with
  | returned result => exact ⟨result, rfl⟩
  | reading used =>
      have more := (controlReadCommand_inBuffer outLen out results).reading used phase
      have start : ((if outLen = 0 then ⟨.returned (-1), out⟩ else readCommandLoop outLen 0 out) :
          ReadCommand).phase.rank outLen ≤ outLen - 1 := by
        split
        · exact Nat.zero_le _
        · exact readCommandLoop_rank outLen 0 out
      have rank : (controlReadCommand outLen out results).phase.rank outLen ≤
          _ - results.countP ReadResult.settled :=
        run_rank (fun call : ReadCommand => call.phase.rank outLen) ReadResult.settled
          (ReadCommand.step_rank outLen) results
      rw [phase] at rank
      change outLen - 1 - used ≤ _ at rank
      omega

end Call

/-! ## Lines and commands -/

/-- A call takes whole lines of 1 to `outLen - 2` bytes and refuses all other input. -/
structure TakesLines (outLen : Nat) (out : Nat → Char) (results : List ReadResult) : Prop where
  accepts : (controlReadCommand outLen out results).phase = .returned 0 ↔
    ∃ line, SendsLine results line ∧ 1 ≤ line.length ∧ line.length ≤ outLen - 2
  stores : ∀ line, SendsLine results line →
    (controlReadCommand outLen out results).phase = .returned 0 →
    load (controlReadCommand outLen out results).out 0 (line.length + 1) = line ++ [nul]
  refuses : (controlReadCommand outLen out results).phase = .returned (-1) ↔
    SendsAtLeast results (outLen - 1) ∨ SendsLine results [] ∨ SendsError results
  inside : ∀ index, outLen ≤ index → (controlReadCommand outLen out results).out index = out index
  returns : outLen - 1 ≤ results.countP ReadResult.settled →
    ∃ result, (controlReadCommand outLen out results).phase = .returned result

section Lines

variable {outLen : Nat} {out : Nat → Char} {results : List ReadResult} {line : CString}

theorem controlReadCommand_accepts (sends : SendsLine results line) (some : 1 ≤ line.length)
    (fits : line.length + 1 < outLen) :
    (controlReadCommand outLen out results).phase = .returned 0 := by
  have positive : line.length > 0 := some
  rw [controlReadCommand_line sends fits, readCommandEnd, if_neg (Nat.ne_of_lt fits),
    if_pos positive]

theorem controlReadCommand_empty (sends : SendsLine results []) (room : 2 ≤ outLen) :
    (controlReadCommand outLen out results).phase = .returned (-1) := by
  have fits : ([] : CString).length + 1 < outLen := room
  have none : ¬ ([] : CString).length > 0 := Nat.lt_irrefl 0
  rw [controlReadCommand_line sends fits, readCommandEnd, if_neg (Nat.ne_of_lt fits), if_neg none]

/-- Every input leaves the call in its loop, or makes it take a line or refuse. -/
theorem controlReadCommand_cases (room : 2 ≤ outLen) (out : Nat → Char)
    (results : List ReadResult) :
    (∃ used, (controlReadCommand outLen out results).phase = .reading used) ∨
    ((controlReadCommand outLen out results).phase = .returned 0 ∧
      ∃ line, SendsLine results line ∧ 1 ≤ line.length ∧ line.length ≤ outLen - 2) ∨
    ((controlReadCommand outLen out results).phase = .returned (-1) ∧
      (SendsAtLeast results (outLen - 1) ∨ SendsLine results [] ∨ SendsError results)) := by
  obtain ⟨bytes, rest, sends, full | ⟨short, covers⟩⟩ := sends_cases results (outLen - 1)
  · have long : SendsAtLeast results (outLen - 1) := ⟨bytes, rest, Nat.le_of_eq full.symm, sends⟩
    exact Or.inr (Or.inr ⟨controlReadCommand_long long room, Or.inl long⟩)
  · have fits : bytes.length + 1 < outLen := by omega
    rcases covers with rfl | ⟨last, later, rfl, ends | rfl⟩
    · exact Or.inl ⟨bytes.length, congrArg ReadCommand.phase (controlReadCommand_waits sends fits)⟩
    · have sendsLine : SendsLine results bytes := ⟨last, later, ends, sends⟩
      by_cases some : 1 ≤ bytes.length
      · exact Or.inr (Or.inl ⟨controlReadCommand_accepts sendsLine some fits,
          bytes, sendsLine, some, by omega⟩)
      · have empty : bytes = [] := List.eq_nil_of_length_eq_zero (by omega)
        rw [empty] at sendsLine
        exact Or.inr (Or.inr ⟨controlReadCommand_empty sendsLine room, Or.inr (Or.inl sendsLine)⟩)
    · exact Or.inr (Or.inr ⟨controlReadCommand_error sends fits,
        Or.inr (Or.inr ⟨bytes, later, sends⟩)⟩)

theorem controlReadCommand_refuses (room : 2 ≤ outLen)
    (refused : SendsAtLeast results (outLen - 1) ∨ SendsLine results [] ∨ SendsError results) :
    (controlReadCommand outLen out results).phase = .returned (-1) := by
  rcases refused with long | empty | ⟨bytes, rest, sends⟩
  · exact controlReadCommand_long long room
  · exact controlReadCommand_empty empty room
  · by_cases fits : bytes.length + 1 < outLen
    · exact controlReadCommand_error sends fits
    · exact controlReadCommand_long ⟨bytes, _, by omega, sends⟩ room

/-- The line of a call that returned 0 fits its buffer. -/
theorem sendsLine_fits (room : 2 ≤ outLen) (sends : SendsLine results line)
    (accepted : (controlReadCommand outLen out results).phase = .returned 0) :
    line.length + 1 < outLen := by
  by_contra long
  obtain ⟨last, rest, -, sends⟩ := sends
  have refused : (controlReadCommand outLen out results).phase = .returned (-1) :=
    controlReadCommand_long ⟨line, last :: rest, by omega, sends⟩ room
  rw [accepted] at refused
  cases refused

end Lines

/-- No input makes a call take a line in part. -/
theorem controlReadCommand_takesLines {outLen : Nat} (room : 2 ≤ outLen) (out : Nat → Char)
    (results : List ReadResult) : TakesLines outLen out results := by
  have cases := controlReadCommand_cases room out results
  refine ⟨⟨fun accepted => ?_, ?_⟩, fun line sends accepted => ?_, ⟨fun refused => ?_, ?_⟩,
    (controlReadCommand_inBuffer outLen out results).behind, controlReadCommand_returns out⟩
  · rcases cases with ⟨used, reading⟩ | ⟨-, whole⟩ | ⟨refused, -⟩
    · rw [reading] at accepted
      cases accepted
    · exact whole
    · rw [refused] at accepted
      cases accepted
  · rintro ⟨line, sends, some, short⟩
    exact controlReadCommand_accepts sends some (by omega)
  · rw [controlReadCommand_line sends (sendsLine_fits room sends accepted)]
    exact readCommandEnd_load line
  · rcases cases with ⟨used, reading⟩ | ⟨accepted, -⟩ | ⟨-, reason⟩
    · rw [reading] at refused
      cases refused
    · rw [accepted] at refused
      cases refused
    · exact reason
  · exact controlReadCommand_refuses room

/-- The longest line that a buffer of eight bytes takes, in two pieces. -/
theorem controlReadCommand_takesLines_status :
    (controlReadCommand 8 (fun _ => nul)
      ("sta".toList.map .byte ++ .interrupted :: "tus\n".toList.map .byte)).phase = .returned 0 :=
  (controlReadCommand_takesLines (by decide) _ _).accepts.mpr
    ⟨"status".toList, ⟨.byte '\n', [], Or.inr rfl, by decide, by decide⟩, by decide, by decide⟩

/-! ## What the daemon executes -/

/-- The string in a buffer: the bytes before its first NUL. -/
def bufferString (outLen : Nat) (out : Nat → Char) : CString :=
  (load out 0 outLen).takeWhile (· != nul)

/-- The bytes behind a terminator are no part of the string. -/
theorem bufferString_of_load {outLen : Nat} {out : Nat → Char} {line : CString}
    (stored : load out 0 (line.length + 1) = line ++ [nul]) (fits : line.length + 1 ≤ outLen) :
    bufferString outLen out = line.takeWhile (· != nul) := by
  obtain ⟨behind, rfl⟩ := Nat.exists_eq_add_of_le fits
  rw [bufferString, load_add, stored, List.append_assoc, List.takeWhile_append]
  split
  · rename_i whole
    have all : line.takeWhile (· != nul) = line :=
      (List.takeWhile_prefix _).eq_of_length whole
    rw [all]
    exact List.append_nil line
  · rfl

/-- The command that `handle_client` reads into its 256 bytes. -/
def clientCommand (cmd : Nat → Char) (results : List ReadResult) : Option CString :=
  let call := controlReadCommand 256 cmd results
  if call.phase = .returned 0 then some (bufferString 256 call.out) else none

section Client

variable {cmd : Nat → Char} {results : List ReadResult} {line : CString}

theorem clientCommand_line (sends : SendsLine results line) (some : 1 ≤ line.length)
    (fits : line.length ≤ 254) :
    clientCommand cmd results = Option.some (line.takeWhile (· != nul)) := by
  have room : line.length + 1 < 256 := by omega
  have stored : load (readCommandEnd 256 line.length (store cmd 0 line)).out 0 (line.length + 1) =
      line ++ [nul] := readCommandEnd_load line
  rw [clientCommand, if_pos (controlReadCommand_accepts sends some room),
    controlReadCommand_line sends room, bufferString_of_load stored (Nat.le_of_lt room)]

/-- A command is a line of the client, up to the byte that ends a string. -/
theorem clientCommand_cases (cmd : Nat → Char) (results : List ReadResult) :
    clientCommand cmd results = none ∨
      ∃ line, SendsLine results line ∧ 1 ≤ line.length ∧ line.length ≤ 254 ∧
        clientCommand cmd results = some (line.takeWhile (· != nul)) := by
  rcases controlReadCommand_cases (by decide : 2 ≤ 256) cmd results with
    ⟨used, reading⟩ | ⟨-, line, sends, some, fits⟩ | ⟨refused, -⟩
  · refine Or.inl (if_neg ?_)
    rw [reading]
    exact nofun
  · exact Or.inr ⟨line, sends, some, fits, clientCommand_line sends some fits⟩
  · refine Or.inl (if_neg ?_)
    rw [refused]
    decide

/-- The daemon executes a whole line of its client, or it answers that the command is invalid and
stays as it is. -/
theorem handleClient_whole (cfg : AnsConfig) (daemon : Daemon) (canControl : Bool)
    (cmd : Nat → Char) (results : List ReadResult) :
    (∃ line, SendsLine results line ∧ 1 ≤ line.length ∧ line.length ≤ 254 ∧
      handleClient cfg daemon (clientCommand cmd results) canControl =
        executeCommand cfg daemon (line.takeWhile (· != nul)) canControl) ∨
    handleClient cfg daemon (clientCommand cmd results) canControl =
      (daemon, controlReply "error invalid command\n".toList) := by
  rcases clientCommand_cases cmd results with none | ⟨line, sends, some, fits, command⟩
  · rw [none]
    exact Or.inr rfl
  · rw [command]
    exact Or.inl ⟨line, sends, some, fits, rfl⟩

end Client

end NitroSense
