import NitroSense.Lib.Latest
import NitroSense.Daemon.Schedule
import NitroSense.Daemon.StatusRoom

/-!
# The files of the loop

`write_runtime_status` follows every update and every client.  What it was
called with in a run decides what the files hold afterwards, and the last call
is never behind what the daemon does with the fans.
-/

namespace NitroSense

open Lib

/-- A call of `write_runtime_status`: the daemon, and which of the files can be replaced. -/
structure RuntimeReport where
  daemon : Daemon
  files : FileResults

namespace DaemonLoop

section Reports

variable (cfg : AnsConfig) (backend : CString) (names : HardwareNames)

/-- The call behind the update of an iteration. -/
def updateReports (loop : DaemonLoop) (iteration : Iteration) : List RuntimeReport :=
  if loop.nextUpdateMs ≤ iteration.nowMs then
    let daemon := loop.daemon.meet iteration.update
    [⟨(daemon.beforeFans cfg (loop.activity iteration.nowMs)).updateFans cfg, iteration.files⟩]
  else []

def serveReports (loop : DaemonLoop) : Option Accepted → List RuntimeReport
  | none => []
  | some accepted =>
      [⟨(serveClient cfg accepted.accounts accepted.cmd (loop.daemon.meet accepted.meeting)
          accepted.client).1, accepted.files⟩]

/-- The call behind a client. -/
def selectReports (loop : DaemonLoop) : Selected → List RuntimeReport
  | .failed | .interrupted | .timedOut => []
  | .ready inputs activeMs tickMs tick accepted =>
      (loop.wake cfg inputs activeMs tickMs tick).serveReports cfg accepted

def iterationReports (loop : DaemonLoop) (iteration : Iteration) : List RuntimeReport :=
  if loop.going then
    loop.updateReports cfg iteration ++
      (loop.update cfg backend names iteration).selectReports cfg iteration.selected
  else []

/-- The calls of a run, in their order. -/
def reports (loop : DaemonLoop) : List Iteration → List RuntimeReport
  | [] => []
  | iteration :: iterations =>
      loop.iterationReports cfg backend names iteration ++
        reports (loop.iterate cfg backend names iteration) iterations

end Reports

end DaemonLoop

namespace RuntimeReport

/-- The text a call leaves in the status file, unless it is too long or cannot be written. -/
def statusText (cfg : AnsConfig) (backend : CString) (names : HardwareNames)
    (report : RuntimeReport) : Option CString :=
  if report.files.status then statusFileText cfg backend names report.daemon else none

def cacheText (cfg : AnsConfig) (report : RuntimeReport) : Option CString :=
  if report.files.cache then temperatureCacheText cfg report.daemon.states else none

end RuntimeReport

namespace DaemonLoop

/-- What the calls of `write_runtime_status` say of a loop: they are not behind the fans, and each
file holds the last text that was left in it. -/
structure Reported (cfg : AnsConfig) (backend : CString) (names : HardwareNames)
    (before : DaemonLoop) (reports : List RuntimeReport) (after : DaemonLoop) : Prop where
  fans : after.daemon.fanControl =
    { ((reports.getLast?.map (·.daemon)).getD before.daemon).fanControl with
      ec := after.daemon.ec }
  status : after.statusFile =
    (reports.filterMap (RuntimeReport.statusText cfg backend names)).getLast?.or before.statusFile
  cache : after.cacheFile =
    (reports.filterMap (RuntimeReport.cacheText cfg)).getLast?.or before.cacheFile

section Reported

variable {cfg : AnsConfig} {backend : CString} {names : HardwareNames}
  {before middle after : DaemonLoop} {first second : List RuntimeReport}

/-- Without a call the files stay as they are, and so must the fans. -/
theorem Reported.silent
    (kept : after.daemon.fanControl = { before.daemon.fanControl with ec := after.daemon.ec })
    (statusFile : after.statusFile = before.statusFile)
    (cacheFile : after.cacheFile = before.cacheFile) :
    Reported cfg backend names before [] after where
  fans := kept
  status := statusFile
  cache := cacheFile

theorem Reported.trans (one : Reported cfg backend names before first middle)
    (two : Reported cfg backend names middle second after) :
    Reported cfg backend names before (first ++ second) after where
  fans := by
    rw [two.fans, List.getLast?_append]
    cases last : second.getLast? with
    | none =>
        rw [Option.none_or, Option.map_none, Option.getD_none, one.fans]
    | some report => rfl
  status := by rw [two.status, one.status, getLast?_filterMap_append]
  cache := by rw [two.cache, one.cache, getLast?_filterMap_append]

/-- One call. -/
theorem saveRuntimeStatus_reported (loop : DaemonLoop) (report : RuntimeReport) :
    Reported cfg backend names loop [report]
      (loop.saveRuntimeStatus cfg backend names report.daemon report.files) where
  fans := rfl
  status := by
    rw [getLast?_filterMap_singleton, saveRuntimeStatus, RuntimeReport.statusText]
    cases report.files.status <;> rfl
  cache := by
    rw [getLast?_filterMap_singleton, saveRuntimeStatus, RuntimeReport.cacheText]
    cases report.files.cache <;> rfl

theorem wake_fanControl (loop : DaemonLoop) (inputs : ReadyInputs) (activeMs tickMs : Int)
    (tick : Meeting) :
    (loop.wake cfg inputs activeMs tickMs tick).daemon.fanControl =
      { loop.daemon.fanControl with
        ec := (loop.wake cfg inputs activeMs tickMs tick).daemon.ec } := by
  unfold wake
  dsimp only
  by_cases devices : (inputActivityHandleReady inputs activeMs loop.monitor).fdLen > 0
  · rw [if_pos devices]
    exact (tickKeyboard_keepsFans cfg _ _).fanControl
  · rw [if_neg devices]
    rfl

/-- A keyboard tick in between does not touch what the files say about the fans. -/
theorem wake_reported (loop : DaemonLoop) (inputs : ReadyInputs) (activeMs tickMs : Int)
    (tick : Meeting) :
    Reported cfg backend names loop [] (loop.wake cfg inputs activeMs tickMs tick) := by
  refine .silent (wake_fanControl loop inputs activeMs tickMs tick) ?_ ?_
  · rw [wake_eq]
  · rw [wake_eq]

theorem update_reported (loop : DaemonLoop) (iteration : Iteration) :
    Reported cfg backend names loop (loop.updateReports cfg iteration)
      (loop.update cfg backend names iteration) := by
  unfold update updateReports
  split
  · have saved := @saveRuntimeStatus_reported cfg backend names loop
      ⟨((loop.daemon.meet iteration.update).beforeFans cfg
        (loop.activity iteration.nowMs)).updateFans cfg, iteration.files⟩
    exact ⟨saved.fans, saved.status, saved.cache⟩
  · exact .silent rfl rfl rfl

theorem serve_reported (loop : DaemonLoop) (accepted : Option Accepted) :
    Reported cfg backend names loop (loop.serveReports cfg accepted)
      (loop.serve cfg backend names accepted) := by
  cases accepted with
  | none => exact .silent rfl rfl rfl
  | some accepted =>
      have saved := @saveRuntimeStatus_reported cfg backend names loop
        ⟨(serveClient cfg accepted.accounts accepted.cmd (loop.daemon.meet accepted.meeting)
          accepted.client).1, accepted.files⟩
      exact saved

theorem select_reported (loop : DaemonLoop) (selected : Selected) :
    Reported cfg backend names loop (loop.selectReports cfg selected)
      (loop.select cfg backend names selected) := by
  cases selected with
  | failed => exact .silent rfl rfl rfl
  | interrupted => exact .silent rfl rfl rfl
  | timedOut => exact .silent rfl rfl rfl
  | ready inputs activeMs tickMs tick accepted =>
      exact (wake_reported loop inputs activeMs tickMs tick).trans (serve_reported _ accepted)

theorem signal_reported (loop : DaemonLoop) (signalled : Bool) :
    Reported cfg backend names loop [] (loop.signal signalled) := by
  unfold signal
  split
  · exact .silent rfl rfl rfl
  · exact .silent rfl rfl rfl

theorem iterate_reported (loop : DaemonLoop) (iteration : Iteration) :
    Reported cfg backend names loop (loop.iterationReports cfg backend names iteration)
      (loop.iterate cfg backend names iteration) := by
  unfold iterate iterationReports
  split
  · have updated : Reported cfg backend names loop (loop.updateReports cfg iteration)
        (loop.update cfg backend names iteration) := update_reported loop iteration
    have selected := updated.trans (select_reported _ iteration.selected)
    have whole := selected.trans (signal_reported _ iteration.signalled)
    rwa [List.append_nil] at whole
  · exact .silent rfl rfl rfl

theorem run_reported (loop : DaemonLoop) (iterations : List Iteration) :
    Reported cfg backend names loop (loop.reports cfg backend names iterations)
      (run (iterate cfg backend names) loop iterations) := by
  induction iterations generalizing loop with
  | nil => exact .silent rfl rfl rfl
  | cons iteration iterations ih =>
      rw [reports, run_cons]
      exact (iterate_reported loop iteration).trans (ih _)

/-- A loop whose update is due reports. -/
theorem reports_ne_nil {loop : DaemonLoop} {iteration : Iteration} (going : loop.going = true)
    (due : loop.nextUpdateMs ≤ iteration.nowMs) (iterations : List Iteration) :
    loop.reports cfg backend names (iteration :: iterations) ≠ [] := by
  rw [reports, iterationReports, if_pos going, updateReports, if_pos due]
  exact List.cons_ne_nil _ _

end Reported

/-- What the files hold after a run.  With the last report that could be saved and whose values are
of their C types, the status file is a document that says what the report says; the temperature
cache has the temperatures of now.  A loop whose update is due reports. -/
structure Current (cfg : AnsConfig) (backend : CString) (names : HardwareNames)
    (before : DaemonLoop) (iterations : List Iteration) (after : DaemonLoop) : Prop where
  reported : Reported cfg backend names before (before.reports cfg backend names iterations) after
  status : ∀ last ∈ (before.reports cfg backend names iterations).getLast?,
    last.files.status = true → (readStatusReport cfg backend names last.daemon).2.InTypes →
      ∃ document : Json, after.statusFile = some (document.text ++ "\n".toList) ∧
        document.data? = some (readStatusReport cfg backend names last.daemon).2.data
  cache : ∀ last ∈ (before.reports cfg backend names iterations).getLast?,
    last.files.cache = true → ∀ text, temperatureCacheText cfg after.daemon.states = some text →
      after.cacheFile = some text
  reports : ∀ first later, iterations = first :: later → before.going = true →
    before.nextUpdateMs ≤ first.nowMs → before.reports cfg backend names iterations ≠ []

section Current

variable {cfg : AnsConfig} {backend : CString} {names : HardwareNames} {before after : DaemonLoop}
  {reports : List RuntimeReport} {last : RuntimeReport}

theorem Reported.status_last (reported : Reported cfg backend names before reports after)
    (final : reports.getLast? = some last) (saved : last.files.status = true) {text : CString}
    (fits : statusFileText cfg backend names last.daemon = some text) :
    after.statusFile = some text := by
  have written : last.statusText cfg backend names = some text := (if_pos saved).trans fits
  rw [reported.status, getLast?_filterMap_last final written, Option.some_or]

theorem Reported.cache_last (reported : Reported cfg backend names before reports after)
    (final : reports.getLast? = some last) (saved : last.files.cache = true) {text : CString}
    (fits : temperatureCacheText cfg after.daemon.states = some text) :
    after.cacheFile = some text := by
  have fans := reported.fans
  rw [final] at fans
  have states : after.daemon.states = last.daemon.states := congrArg (·.states) fans
  have written : last.cacheText cfg = some text := by
    rw [RuntimeReport.cacheText, if_pos saved, ← states, fits]
  rw [reported.cache, getLast?_filterMap_last final written, Option.some_or]

end Current

end DaemonLoop

/--
After every run of the loop the files hold what the daemon reported last, and
that is not behind what the daemon does with the fans, whatever happens in which
order.
-/
theorem daemonLoop_files_current (cfg : AnsConfig) (backend : CString) (names : HardwareNames)
    (loop : DaemonLoop) (iterations : List Iteration) :
    DaemonLoop.Current cfg backend names loop iterations
      (run (DaemonLoop.iterate cfg backend names) loop iterations) := by
  have reported := @DaemonLoop.run_reported cfg backend names loop iterations
  refine ⟨reported, ?_, ?_, ?_⟩
  · intro last final saved types
    refine ⟨_, reported.status_last final saved ?_, StatusReport.document_data _⟩
    rw [statusFileText, StatusReport.format_eq, if_pos types.fits]
  · intro last final saved text fits
    exact reported.cache_last final saved fits
  · rintro first later rfl going due
    exact DaemonLoop.reports_ne_nil going due later

end NitroSense
