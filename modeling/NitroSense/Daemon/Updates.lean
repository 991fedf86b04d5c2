import NitroSense.Daemon.Schedule

/-!
# When the fans are updated

The deadline of `run_daemon_loop` moves with its updates only, so neither a
client nor a key can delay an update or bring it forward.
-/

namespace NitroSense

open Lib

/-- The readings of the clock around an update. -/
def Iteration.look (iteration : Iteration) : Look := ⟨iteration.nowMs, iteration.doneMs⟩

namespace DaemonLoop

section Looks

variable (cfg : AnsConfig) (backend : CString) (names : HardwareNames)

def looks : DaemonLoop → List Iteration → List Look
  | _, [] => []
  | loop, iteration :: iterations =>
      if loop.going then
        iteration.look :: looks (loop.iterate cfg backend names iteration) iterations
      else []

def updates : DaemonLoop → List Iteration → List Look
  | _, [] => []
  | loop, iteration :: iterations =>
      (if loop.going ∧ loop.nextUpdateMs ≤ iteration.nowMs then [iteration.look] else []) ++
        updates (loop.iterate cfg backend names iteration) iterations

/-- An iteration begins soon after the deadline that the loop waits for. -/
def Prompt (slack : Int) (loop : DaemonLoop) (iteration : Iteration) : Prop :=
  loop.going = true → iteration.nowMs ≤ loop.nextUpdateMs + slack

/-- `select` waits no longer than the poll interval, and exactly until the deadline. -/
def Sleeps (loop : DaemonLoop) (iteration : Iteration) : Prop :=
  loop.going = true →
    let updated := loop.update cfg backend names iteration
    let timeout := updated.selectTimeout iteration
    0 ≤ timeout.1 ∧ 0 ≤ timeout.2 ∧ timeout.2 < 1000000 ∧
      timeout.1 * 1000000 + timeout.2 ≤ cfg.pollIntervalMs * 1000 ∧
      iteration.waitMs * 1000 + (timeout.1 * 1000000 + timeout.2) =
        max updated.nextUpdateMs iteration.waitMs * 1000

end Looks

section Deadline

variable {cfg : AnsConfig} {backend : CString} {names : HardwareNames} {loop : DaemonLoop}
  {slack : Int}

theorem update_deadline (loop : DaemonLoop) (iteration : Iteration) :
    (loop.update cfg backend names iteration).nextUpdateMs =
      deadline cfg.pollIntervalMs loop.nextUpdateMs iteration.look := by
  unfold update deadline
  split
  · exact (if_pos ‹_›).symm
  · exact (if_neg ‹_›).symm

/-- Only an update moves the deadline. -/
theorem iterate_deadline (going : loop.going = true) (iteration : Iteration) :
    (loop.iterate cfg backend names iteration).nextUpdateMs =
      deadline cfg.pollIntervalMs loop.nextUpdateMs iteration.look := by
  have select_deadline (other : DaemonLoop) (selected : Selected) :
      (other.select cfg backend names selected).nextUpdateMs = other.nextUpdateMs := by
    cases selected with
    | failed => rfl
    | interrupted => rfl
    | timedOut => rfl
    | ready inputs activeMs tickMs tick accepted =>
        have woken : (other.wake cfg inputs activeMs tickMs tick).nextUpdateMs =
            other.nextUpdateMs := by
          rw [wake_eq]
        cases accepted with
        | none => exact woken
        | some accepted => exact woken
  have signal_deadline (other : DaemonLoop) :
      (other.signal iteration.signalled).nextUpdateMs = other.nextUpdateMs := by
    unfold signal
    split
    · rfl
    · rfl
  rw [iterate, if_pos going, signal_deadline, select_deadline, update_deadline]

theorem run_stopped (stopped : loop.going = false) (iterations : List Iteration) :
    updates cfg backend names loop iterations = [] := by
  induction iterations with
  | nil => rfl
  | cons iteration iterations ih =>
      have same : loop.iterate cfg backend names iteration = loop := if_neg (by simp [stopped])
      rw [updates, same, ih, if_neg (by simp [stopped]), List.append_nil]

/-- The updates are the looks at which the deadline has come. -/
theorem updates_eq (loop : DaemonLoop) (iterations : List Iteration) :
    loop.updates cfg backend names iterations =
      dueLooks cfg.pollIntervalMs loop.nextUpdateMs (loop.looks cfg backend names iterations) := by
  induction iterations generalizing loop with
  | nil => rfl
  | cons iteration iterations ih =>
      cases going : loop.going with
      | false =>
          rw [run_stopped going, looks, going, if_neg Bool.false_ne_true]
          rfl
      | true =>
          rw [updates, ih, iterate_deadline going, looks, if_pos going, dueLooks]
          by_cases due : loop.nextUpdateMs ≤ iteration.nowMs
          · rw [if_pos ⟨going, due⟩, if_pos (show loop.nextUpdateMs ≤ iteration.look.now from due)]
            rfl
          · rw [if_neg (fun both => due both.2),
              if_neg (show ¬ loop.nextUpdateMs ≤ iteration.look.now from due)]
            rfl

theorem mem_updates {look : Look} {iterations : List Iteration}
    (member : look ∈ loop.updates cfg backend names iterations) :
    ∃ iteration ∈ iterations, look = iteration.look := by
  induction iterations generalizing loop with
  | nil => exact absurd member List.not_mem_nil
  | cons iteration iterations ih =>
      rw [updates, List.mem_append] at member
      rcases member with here | later
      · split at here
        · exact ⟨iteration, List.mem_cons_self, List.mem_singleton.mp here⟩
        · exact absurd here List.not_mem_nil
      · obtain ⟨other, inLater, same⟩ := ih later
        exact ⟨other, List.mem_cons_of_mem _ inLater, same⟩

theorem looks_prompt {iterations : List Iteration}
    (prompt : Along (iterate cfg backend names) (Prompt slack) loop iterations) :
    Along (deadline cfg.pollIntervalMs) (fun next look => look.now ≤ next + slack)
      loop.nextUpdateMs (loop.looks cfg backend names iterations) := by
  induction iterations generalizing loop with
  | nil => trivial
  | cons iteration iterations ih =>
      obtain ⟨here, later⟩ := prompt
      rw [looks]
      split
      · rename_i going
        have rest := ih later
        rw [iterate_deadline going] at rest
        exact ⟨here going, rest⟩
      · trivial

/-- `timeout_from_ms` keeps the milliseconds that are left. -/
theorem timeoutFromMs_spec (ms : Int) :
    0 ≤ (timeoutFromMs ms).1 ∧ 0 ≤ (timeoutFromMs ms).2 ∧ (timeoutFromMs ms).2 < 1000000 ∧
      (timeoutFromMs ms).1 * 1000000 + (timeoutFromMs ms).2 = max ms 0 * 1000 := by
  have nonneg : 0 ≤ max ms 0 := le_max_right ms 0
  have clamped : (if ms < 0 then 0 else ms) = max ms 0 := by omega
  rw [timeoutFromMs]
  dsimp only
  rw [clamped, Int.tdiv_eq_ediv_of_nonneg nonneg, Int.tmod_eq_emod_of_nonneg nonneg]
  omega

theorem update_sleeps (interval : 0 ≤ cfg.pollIntervalMs) {iteration : Iteration}
    (soon : loop.nextUpdateMs ≤ iteration.nowMs + cfg.pollIntervalMs)
    (readings : iteration.nowMs ≤ iteration.doneMs ∧ iteration.doneMs ≤ iteration.waitMs) :
    (loop.update cfg backend names iteration).nextUpdateMs ≤
        iteration.waitMs + cfg.pollIntervalMs ∧
      Sleeps cfg backend names loop iteration := by
  have next : (loop.update cfg backend names iteration).nextUpdateMs ≤
      iteration.waitMs + cfg.pollIntervalMs := by
    rw [update_deadline, deadline]
    split
    · exact Int.add_le_add_right readings.2 _
    · omega
  refine ⟨next, fun _ => ?_⟩
  obtain ⟨seconds, micros, below, total⟩ := timeoutFromMs_spec
    ((loop.update cfg backend names iteration).nextUpdateMs - iteration.waitMs)
  refine ⟨seconds, micros, below, ?_, ?_⟩
  · rw [selectTimeout, total]
    omega
  · rw [selectTimeout, total]
    omega

theorem run_sleeps (interval : 0 ≤ cfg.pollIntervalMs) {iterations : List Iteration}
    (soon : ∀ first ∈ iterations.head?,
      loop.nextUpdateMs ≤ first.nowMs + cfg.pollIntervalMs)
    (readings : ∀ iteration ∈ iterations,
      iteration.nowMs ≤ iteration.doneMs ∧ iteration.doneMs ≤ iteration.waitMs)
    (clock : iterations.IsChain fun before after => before.waitMs ≤ after.nowMs) :
    Along (iterate cfg backend names) (Sleeps cfg backend names) loop iterations := by
  induction iterations generalizing loop with
  | nil => trivial
  | cons iteration iterations ih =>
      obtain ⟨here, others⟩ := List.forall_mem_cons.mp readings
      obtain ⟨head, rest⟩ := List.isChain_cons.mp clock
      obtain ⟨next, sleeps⟩ := update_sleeps interval (soon iteration rfl) here
      refine ⟨sleeps, ih (fun first same => ?_) others rest⟩
      have later := head first same
      cases going : loop.going with
      | true =>
          rw [iterate_deadline going, ← @update_deadline cfg backend names loop]
          omega
      | false =>
          have stays : loop.iterate cfg backend names iteration = loop := if_neg (by simp [going])
          have before := soon iteration rfl
          rw [stays]
          omega

end Deadline

/-- The updates of a run: every one follows the one before after the poll interval and not much
later, which gives the time between the first and the last of them, and the loop only sleeps until
the next one. -/
structure RegularUpdates (cfg : AnsConfig) (backend : CString) (names : HardwareNames)
    (slack work : Int) (loop : DaemonLoop) (first : Iteration) (later : List Iteration) : Prop where
  follows : (loop.updates cfg backend names (first :: later)).IsChain
    (Paced cfg.pollIntervalMs slack)
  span : ∃ others, loop.updates cfg backend names (first :: later) = first.look :: others ∧
    let last := (first.look :: others).getLast (List.cons_ne_nil _ _)
    others.length * cfg.pollIntervalMs ≤ last.now - first.nowMs ∧
      last.now - first.nowMs ≤ others.length * (cfg.pollIntervalMs + slack + work)
  sleeps : Along (iterate cfg backend names) (Sleeps cfg backend names) loop (first :: later)

end DaemonLoop

/--
Updates of the fans come at regular times.  Whatever the clients send and
whichever keys are pressed, no update comes before the poll interval is over;
and in a run whose iterations begin soon after the deadlines they wait for,
none comes late.
-/
theorem daemonLoop_updates_regular {cfg : AnsConfig} {backend : CString} {names : HardwareNames}
    {loop : DaemonLoop} {slack work : Int} {first : Iteration} {later : List Iteration}
    (valid : cfg.Valid) (going : loop.going = true) (due : loop.nextUpdateMs ≤ first.nowMs)
    (readings : ∀ iteration ∈ first :: later,
      iteration.nowMs ≤ iteration.doneMs ∧ iteration.doneMs ≤ iteration.waitMs)
    (clock : (first :: later).IsChain fun before after => before.waitMs ≤ after.nowMs)
    (works : ∀ iteration ∈ first :: later, iteration.doneMs ≤ iteration.nowMs + work)
    (prompt : Along (DaemonLoop.iterate cfg backend names) (DaemonLoop.Prompt slack)
      (loop.iterate cfg backend names first) later) :
    DaemonLoop.RegularUpdates cfg backend names slack work loop first later := by
  have interval : 0 ≤ cfg.pollIntervalMs := le_trans (by decide) valid.pollIntervalMs.1
  have heads := DaemonLoop.looks_prompt prompt
  rw [DaemonLoop.iterate_deadline going] at heads
  have all : loop.updates cfg backend names (first :: later) =
      dueLooks cfg.pollIntervalMs loop.nextUpdateMs (first.look ::
        (loop.iterate cfg backend names first).looks cfg backend names later) := by
    rw [DaemonLoop.updates_eq, DaemonLoop.looks, if_pos going]
  have isDue : loop.nextUpdateMs ≤ first.look.now := due
  have follows := dueLooks_cons_follow isDue heads
  rw [← all] at follows
  refine ⟨follows, ?_, DaemonLoop.run_sleeps interval ?_ readings clock⟩
  · have begins : loop.updates cfg backend names (first :: later) = first.look ::
        (loop.iterate cfg backend names first).updates cfg backend names later := by
      rw [DaemonLoop.updates, if_pos ⟨going, due⟩]
      rfl
    have times : ∀ look ∈ loop.updates cfg backend names (first :: later),
        look.now ≤ look.done ∧ look.done ≤ look.now + work := by
      intro look member
      obtain ⟨iteration, inRun, rfl⟩ := DaemonLoop.mem_updates member
      exact ⟨(readings iteration inRun).1, works iteration inRun⟩
    rw [begins] at follows times
    exact ⟨_, begins, follows_span follows times⟩
  · intro head same
    cases same
    omega

/-- Two updates of the shipped daemon, the second a little late. -/
theorem daemonLoop_updates_regular_shipped :
    DaemonLoop.RegularUpdates AcerNitroAn517.config [] ⟨[], []⟩ 20 5
      (DaemonLoop.start AcerNitroAn517.config (heldDaemon true "auto".toList) none 0 0)
      ⟨10, ⟨(heldDaemon true "auto".toList).host, fun _ => none⟩, ⟨true, true⟩, 14, 15, .timedOut,
        false⟩
      [⟨3020, ⟨(heldDaemon true "auto".toList).host, fun _ => none⟩, ⟨true, true⟩, 3021, 3022,
        .timedOut, false⟩] := by
  refine daemonLoop_updates_regular AcerNitroAn517.config_valid rfl ?_ ?_ ?_ ?_ ?_
  · decide
  · simp
  · simp
  · simp
  · refine ⟨fun _ => ?_, trivial⟩
    rw [DaemonLoop.iterate_deadline rfl]
    decide

end NitroSense
