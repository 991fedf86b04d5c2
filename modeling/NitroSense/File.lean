import Mathlib.Logic.Function.Basic
import NitroSense.Fd

/-!
# Atomic replacement of a file

`write_text_file_atomic` of `util/file.c`: the content goes to a temporary file
that is renamed into place.  The call is a machine over the results of its
system calls, and the files it leaves can be seen in front of each of them.
-/

namespace NitroSense

open Lib

abbrev Files := CString → Option CString

def tmpPath (path : CString) : CString := path ++ ".tmp".toList

theorem tmpPath_ne (path : CString) : tmpPath path ≠ path := by
  intro same
  have length := congrArg List.length same
  rw [tmpPath, List.length_append] at length
  exact absurd length (by simp)

/-- In front of which system call `write_text_file_atomic` stands, or its result. -/
inductive AtomicStage where
  | opening
  | writing (off : Nat)
  | syncing
  | closing
  | replacing
  | discarding
  | unlinking
  | returned (result : Int)
  deriving DecidableEq, Repr

/-- Where the loop of `fd_write_all` leads: a failed write discards the temporary file. -/
def AtomicStage.ofWrite : FdWriteAll → AtomicStage
  | .writing off => writing off
  | .returned result => if result < 0 then discarding else syncing

structure AtomicWrite where
  files : Files
  stage : AtomicStage

/-- The call up to its first system call: `snprintf` must fit the temporary path. -/
def AtomicWrite.start (path : CString) (files : Files) : AtomicWrite :=
  ⟨files, if (tmpPath path).length ≥ 512 then .returned (-1) else .opening⟩

def AtomicWrite.step (path content : CString) (call : AtomicWrite) (result : SysResult) :
    AtomicWrite :=
  let tmp := tmpPath path
  match call.stage, result with
  | .opening, .done _ =>
      ⟨Function.update call.files tmp (some []), .ofWrite (fdWriteLoop content 0)⟩
  | .opening, _ => ⟨call.files, .returned (-1)⟩
  | .writing off, result =>
      ⟨Function.update call.files tmp
          ((call.files tmp).map fun written => written ++ writeTaken content off result),
        .ofWrite (fdWriteNext content off result)⟩
  | .syncing, .done _ => ⟨call.files, .closing⟩
  | .syncing, _ => ⟨call.files, .discarding⟩
  | .closing, .done _ => ⟨call.files, .replacing⟩
  | .closing, _ => ⟨call.files, .unlinking⟩
  | .replacing, .done _ =>
      ⟨Function.update (Function.update call.files path (call.files tmp)) tmp none, .returned 0⟩
  | .replacing, _ => ⟨call.files, .unlinking⟩
  -- the result of this `close` is ignored, and `unlink` is taken to succeed
  | .discarding, _ => ⟨call.files, .unlinking⟩
  | .unlinking, _ => ⟨Function.update call.files tmp none, .returned (-1)⟩
  | .returned _, _ => call

/-- `write_text_file_atomic` after these results of its system calls. -/
def writeTextFileAtomic (path content : CString) (files : Files) (results : List SysResult) :
    AtomicWrite :=
  run (AtomicWrite.step path content) (.start path files) results

/-! ## What the files hold on the way -/

/-- What the temporary file holds in front of each system call. -/
def AtomicStage.Holds (content : CString) : AtomicStage → Option CString → Prop
  | opening, _ => True
  | writing off, tmp => off < content.length ∧ tmp = some (content.take off)
  | syncing, tmp => tmp = some content
  | closing, tmp => tmp = some content
  | replacing, tmp => tmp = some content
  | discarding, _ => True
  | unlinking, _ => True
  | returned _, _ => True

/-- What the call has done to the files: the path changes with the result 0 and only then. -/
structure AtomicFiles (path content : CString) (before : Files) (call : AtomicWrite) : Prop where
  target : call.files path = if call.stage = .returned 0 then some content else before path
  temporary : call.stage.Holds content (call.files (tmpPath path))
  others : ∀ name, name ≠ path → name ≠ tmpPath path → call.files name = before name
  opening : call.stage = .opening → call.files = before
  result : ∀ result, call.stage = .returned result →
    result = 0 ∧ call.files (tmpPath path) = none ∨
      result = -1 ∧ (call.files (tmpPath path) = none ∨ call.files = before)

section Steps

variable {path content : CString} {before : Files} {call : AtomicWrite}

/-- Where the loop of `fd_write_all` leads, the temporary file holds what has been sent. -/
theorem AtomicStage.ofWrite_holds {loop : FdWriteAll} {sent : CString}
    (written : FdWriteSent content loop sent) :
    (AtomicStage.ofWrite loop).Holds content (some sent) ∧
      AtomicStage.ofWrite loop ≠ .opening ∧
        ∀ result, AtomicStage.ofWrite loop ≠ .returned result := by
  cases loop with
  | writing off =>
      obtain ⟨more, first⟩ := written.writing off rfl
      exact ⟨⟨more, congrArg some first⟩, nofun, nofun⟩
  | returned result =>
      rcases written.result result rfl with rfl | rfl
      · exact ⟨congrArg some (written.all rfl), nofun, nofun⟩
      · exact ⟨trivial, nofun, nofun⟩

theorem AtomicFiles.start (path content : CString) (before : Files) :
    AtomicFiles path content before (.start path before) := by
  unfold AtomicWrite.start
  by_cases long : (tmpPath path).length ≥ 512
  · rw [if_pos long]
    refine ⟨rfl, trivial, fun _ _ _ => rfl, nofun, fun result same => ?_⟩
    exact Or.inr ⟨(AtomicStage.returned.inj same).symm, Or.inr rfl⟩
  · rw [if_neg long]
    exact ⟨rfl, trivial, fun _ _ _ => rfl, fun _ => rfl, nofun⟩

/-- A step that does not rename changes nothing but the temporary file. -/
theorem AtomicFiles.move (files : AtomicFiles path content before call)
    (running : call.stage ≠ .returned 0) {tmp : Option CString} {stage : AtomicStage}
    (holds : stage.Holds content tmp) (opened : stage ≠ .opening)
    (fails : ∀ result, stage = .returned result →
      result = -1 ∧ (tmp = none ∨ Function.update call.files (tmpPath path) tmp = before)) :
    AtomicFiles path content before ⟨Function.update call.files (tmpPath path) tmp, stage⟩ where
  target := by
    have kept := files.target
    rw [if_neg running] at kept
    have failed : stage ≠ .returned 0 := fun here => absurd (fails 0 here).1 (by decide)
    rw [if_neg failed]
    exact (Function.update_of_ne (tmpPath_ne path).symm _ _).trans kept
  temporary := by
    dsimp only
    rw [Function.update_self]
    exact holds
  others := by
    intro name notPath notTmp
    exact (Function.update_of_ne notTmp _ _).trans (files.others name notPath notTmp)
  opening := fun here => absurd here opened
  result := by
    intro result here
    obtain ⟨failed, gone⟩ := fails result here
    exact Or.inr ⟨failed, gone.imp_left fun none => (Function.update_self ..).trans none⟩

/-- A step that goes on may leave the temporary file as it is. -/
theorem AtomicFiles.stay (files : AtomicFiles path content before call)
    (running : call.stage ≠ .returned 0) {stage : AtomicStage}
    (holds : stage.Holds content (call.files (tmpPath path))) (opened : stage ≠ .opening)
    (fails : ∀ result, stage = .returned result → result = -1 ∧ call.files = before) :
    AtomicFiles path content before ⟨call.files, stage⟩ := by
  have same : Function.update call.files (tmpPath path) (call.files (tmpPath path)) =
      call.files := Function.update_eq_self _ _
  have moved := files.move running holds opened fun result here =>
    ⟨(fails result here).1, Or.inr (same.trans (fails result here).2)⟩
  rw [same] at moved
  exact moved

/-- `rename` puts the whole content in place at once. -/
theorem AtomicFiles.replace (files : AtomicFiles path content before call)
    (written : call.files (tmpPath path) = some content) :
    AtomicFiles path content before
      ⟨Function.update (Function.update call.files path (call.files (tmpPath path)))
        (tmpPath path) none, .returned 0⟩ where
  target := by
    dsimp only
    rw [if_pos rfl, Function.update_of_ne (tmpPath_ne path).symm, Function.update_self, written]
  temporary := trivial
  others := by
    intro name notPath notTmp
    dsimp only
    rw [Function.update_of_ne notTmp, Function.update_of_ne notPath]
    exact files.others name notPath notTmp
  opening := nofun
  result := by
    intro result here
    exact Or.inl ⟨(AtomicStage.returned.inj here).symm, Function.update_self ..⟩

/-- Every system call keeps the promise about the files. -/
theorem AtomicFiles.step (files : AtomicFiles path content before call) (result : SysResult) :
    AtomicFiles path content before (call.step path content result) := by
  obtain ⟨now, stage⟩ := call
  cases stage with
  | opening =>
      have same : now = before := files.opening rfl
      have failed : AtomicFiles path content before ⟨now, .returned (-1)⟩ :=
        files.stay nofun trivial nofun fun result here =>
          ⟨(AtomicStage.returned.inj here).symm, same⟩
      cases result with
      | done count =>
          obtain ⟨holds, opened, goesOn⟩ := AtomicStage.ofWrite_holds (fdWriteLoop_sent content 0)
          exact files.move nofun holds opened fun result here => absurd here (goesOn result)
      | failed => exact failed
      | interrupted => exact failed
  | writing off =>
      obtain ⟨more, written⟩ := files.temporary
      obtain ⟨holds, opened, goesOn⟩ :=
        AtomicStage.ofWrite_holds (fdWriteNext_sent more result)
      have moved := files.move nofun holds opened fun result here => absurd here (goesOn result)
      unfold AtomicWrite.step
      dsimp only at written ⊢
      rw [written]
      exact moved
  | syncing =>
      cases result with
      | done count => exact files.stay nofun files.temporary nofun nofun
      | failed => exact files.stay nofun trivial nofun nofun
      | interrupted => exact files.stay nofun trivial nofun nofun
  | closing =>
      cases result with
      | done count => exact files.stay nofun files.temporary nofun nofun
      | failed => exact files.stay nofun trivial nofun nofun
      | interrupted => exact files.stay nofun trivial nofun nofun
  | replacing =>
      cases result with
      | done count => exact files.replace files.temporary
      | failed => exact files.stay nofun trivial nofun nofun
      | interrupted => exact files.stay nofun trivial nofun nofun
  | discarding => exact files.stay nofun trivial nofun nofun
  | unlinking =>
      refine files.move nofun trivial nofun fun result here => ?_
      exact ⟨(AtomicStage.returned.inj here).symm, Or.inl rfl⟩
  | returned result => exact files

end Steps

/-! ## The whole call -/

/-- How many system calls other than interrupted writes the call can still make. -/
def AtomicStage.rank (content : CString) : AtomicStage → Nat
  | opening => content.length + 5
  | writing off => content.length - off + 4
  | syncing => 4
  | closing => 3
  | replacing => 2
  | discarding => 2
  | unlinking => 1
  | returned _ => 0

theorem AtomicStage.ofWrite_rank (content : CString) (loop : FdWriteAll) :
    (AtomicStage.ofWrite loop).rank content ≤ loop.rank content + 4 := by
  cases loop with
  | writing off => exact le_refl _
  | returned result =>
      unfold AtomicStage.ofWrite
      dsimp only
      split
      · exact Nat.le_add_left 2 _
      · exact le_refl _

/-- Every system call but an interrupted `write` brings the call closer to its end. -/
theorem AtomicWrite.step_rank (path content : CString) (call : AtomicWrite)
    (result : SysResult) :
    (call.step path content result).stage.rank content ≤
      call.stage.rank content - if result.settled then 1 else 0 := by
  obtain ⟨now, stage⟩ := call
  cases stage with
  | opening =>
      have written := AtomicStage.ofWrite_rank content (fdWriteLoop content 0)
      have loop := fdWriteLoop_rank content 0
      cases result with
      | done count =>
          change (AtomicStage.ofWrite (fdWriteLoop content 0)).rank content ≤ content.length + 5 - 1
          omega
      | failed => exact Nat.zero_le _
      | interrupted => exact Nat.zero_le _
  | writing off =>
      change (AtomicStage.ofWrite (fdWriteNext content off result)).rank content ≤
        content.length - off + 4 - _
      cases settled : result.settled with
      | false =>
          have interrupted : result = .interrupted := by simpa [SysResult.settled] using settled
          rw [interrupted]
          exact le_refl _
      | true =>
          rw [if_pos rfl]
          rcases fdWriteNext_settled content off settled with returned | ⟨n, positive, room, next⟩
          · rw [returned]
            exact le_trans (by decide : 2 ≤ 4 - 1) (Nat.sub_le_sub_right (Nat.le_add_left 4 _) 1)
          · have written := AtomicStage.ofWrite_rank content (fdWriteLoop content (off + n))
            have loop := fdWriteLoop_rank content (off + n)
            rw [next]
            omega
  | syncing => cases result <;> exact Nat.le_of_ble_eq_true rfl
  | closing => cases result <;> exact Nat.le_of_ble_eq_true rfl
  | replacing => cases result <;> exact Nat.le_of_ble_eq_true rfl
  | discarding => cases result <;> exact Nat.le_of_ble_eq_true rfl
  | unlinking => cases result <;> exact Nat.le_of_ble_eq_true rfl
  | returned result => exact Nat.zero_le _

theorem writeTextFileAtomic_files (path content : CString) (before : Files)
    (results : List SysResult) :
    AtomicFiles path content before (writeTextFileAtomic path content before results) :=
  run_preserves (AtomicFiles path content before) (.start path content before)
    (fun _ result files => files.step result) results

/-- With enough results other than `EINTR` the call has returned. -/
theorem writeTextFileAtomic_returns {path content : CString} {before : Files}
    {results : List SysResult}
    (enough : content.length + 5 ≤ results.countP SysResult.settled) :
    ∃ result, (writeTextFileAtomic path content before results).stage = .returned result := by
  have rank : (writeTextFileAtomic path content before results).stage.rank content ≤
      (AtomicWrite.start path before).stage.rank content - results.countP SysResult.settled :=
    run_rank (fun call : AtomicWrite => call.stage.rank content) SysResult.settled
      (AtomicWrite.step_rank path content) results
  have start : (AtomicWrite.start path before).stage.rank content ≤ content.length + 5 := by
    unfold AtomicWrite.start
    dsimp only
    split
    · exact Nat.zero_le _
    · exact le_refl _
  have used : (writeTextFileAtomic path content before results).stage.rank content = 0 := by omega
  generalize (writeTextFileAtomic path content before results).stage = stage at used
  cases stage with
  | returned result => exact ⟨result, rfl⟩
  | opening => cases used
  | writing off => cases used
  | syncing => cases used
  | closing => cases used
  | replacing => cases used
  | discarding => cases used
  | unlinking => cases used

/-- At any point of a call the path holds the old or the new content, in the end by its result. -/
structure ReplacesAtomically (path content : CString) (before : Files) (call : AtomicWrite) :
    Prop where
  replaced : call.stage = .returned 0 →
    call.files path = some content ∧ call.files (tmpPath path) = none
  kept : call.stage = .returned (-1) →
    call.files path = before path ∧ (call.files (tmpPath path) = none ∨ call.files = before)
  between : call.files path = before path ∨ call.files path = some content
  others : ∀ name, name ≠ path → name ≠ tmpPath path → call.files name = before name
  result : ∀ result, call.stage = .returned result → result = 0 ∨ result = -1

theorem AtomicFiles.promised {path content : CString} {before : Files}
    {call : AtomicWrite} (files : AtomicFiles path content before call) :
    ReplacesAtomically path content before call where
  replaced := by
    intro succeeded
    have target := files.target
    rw [if_pos succeeded] at target
    rcases files.result 0 succeeded with ⟨-, gone⟩ | ⟨failed, -⟩
    · exact ⟨target, gone⟩
    · exact absurd failed (by decide)
  kept := by
    intro failed
    have target := files.target
    rw [if_neg (by rw [failed]; decide)] at target
    rcases files.result (-1) failed with ⟨succeeded, -⟩ | ⟨-, gone⟩
    · exact absurd succeeded (by decide)
    · exact ⟨target, gone⟩
  between := by
    rw [files.target]
    split
    · exact Or.inr rfl
    · exact Or.inl rfl
  others := files.others
  result := fun result here => (files.result result here).imp And.left And.left

/--
Whatever its system calls return, `write_text_file_atomic` replaces the content
of the path as a whole or not at all, and `fd_write_all` sends its bytes once
and in order; both return unless they are interrupted for ever.
-/
theorem replacesAtomically :
    (∀ path content before results, ReplacesAtomically path content before
      (writeTextFileAtomic path content before results)) ∧
    (∀ path content before results, content.length + 5 ≤ results.countP SysResult.settled →
      ∃ result, (writeTextFileAtomic path content before results).stage = .returned result) ∧
    (∀ bytes results,
      FdWriteSent bytes (fdWriteAll bytes results).loop (fdWriteAll bytes results).sent) ∧
    ∀ bytes results, bytes.length ≤ results.countP SysResult.settled →
      ∃ result, (fdWriteAll bytes results).loop = .returned result :=
  ⟨fun path content before results =>
      (writeTextFileAtomic_files path content before results).promised,
    fun _ _ _ _ => writeTextFileAtomic_returns, fdWriteAll_sent, fun _ _ => fdWriteAll_returns⟩

/-- The content arrives in two writes, one of them interrupted. -/
example :
    (writeTextFileAtomic "state".toList "on".toList (fun _ => none)
      [.done 3, .done 1, .interrupted, .done 9, .done 0, .done 0, .done 0]).stage =
        .returned 0 := by rfl

end NitroSense
