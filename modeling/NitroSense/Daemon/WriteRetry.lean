import NitroSense.Daemon.Polls
import NitroSense.Fan.DaemonPoll
import NitroSense.Fan.ForcedReason

/-!
# Retrying failed EC writes

A fan whose EC writes keep failing is given the critical speed, which makes the
next poll try again, because a failed write leaves the recorded percents as
they were.  It does not when those already are the critical speed and the
target: then nothing differs, and the count of failures stays where it is.
-/

namespace NitroSense

open Lib EcDevice

/-- The EC after it has recovered: no later write fails. -/
def EcDevice.recovered (ec : EcDevice) : EcDevice := { ec with writeFails := fun _ => false }

/--
The poll tries to write the speed of fan `i`, and on a recovered EC it resets
the fan's count of failed writes.
-/
structure Retries (cfg : AnsConfig) (bank : FanBank) (sensors : Sensors) (autoMode : Bool)
    (preset : CString) (i : Nat) : Prop where
  attempts : ∃ write ∈ writesSince bank.ec (updateFanStates bank sensors cfg autoMode preset).ec,
    write.reg = (cfg.fan i).writeRegister
  recovers : ((updateFanStates { bank with ec := bank.ec.recovered } sensors cfg autoMode
    preset).states i).ecWriteFailures = 0

def retrySpeed (cfg : AnsConfig) (autoMode : Bool) (observed : Observation) (i : Nat) : Int :=
  criticalSafetyPercent cfg (cfg.fan i) (clampInt (pollTarget cfg autoMode observed i) 1 100)
    (if observed.forcedReason.hasValue then observed.forcedReason else .ecWriteFailure)

/-- The critical speed or the target of fan `i` is not what its last successful write recorded. -/
def RetryDiffers (cfg : AnsConfig) (bank : FanBank) (sensors : Sensors) (autoMode : Bool)
    (i : Nat) : Prop :=
  let observed := refreshFanObservations bank.ec sensors cfg bank.states
  retrySpeed cfg autoMode observed i ≠ (bank.states i).percent ∨
    pollTarget cfg autoMode observed i ≠ (bank.states i).requestedPercent

instance (cfg : AnsConfig) (bank : FanBank) (sensors : Sensors) (autoMode : Bool) (i : Nat) :
    Decidable (RetryDiffers cfg bank sensors autoMode i) :=
  inferInstanceAs (Decidable (_ ∨ _))

/-! ## Observing a recovered EC -/

section Recovered

variable (ec : EcDevice) (sensors : Sensors) (cfg : AnsConfig)

theorem ecReadWord_recovered (reg : Int) :
    ecReadWord ec.recovered reg = ((ecReadWord ec reg).1.recovered, (ecReadWord ec reg).2) := by
  have low : ecReadByte ec.recovered reg =
      ((ecReadByte ec reg).1.recovered, (ecReadByte ec reg).2) := rfl
  simp only [ecReadWord, low]
  split
  · rfl
  · have high : ecReadByte (ecReadByte ec reg).1.recovered (reg + 1) =
        ((ecReadByte (ecReadByte ec reg).1 (reg + 1)).1.recovered,
          (ecReadByte (ecReadByte ec reg).1 (reg + 1)).2) := rfl
    rw [high]
    split
    · rfl
    · rfl

theorem readEcTemperatureC_recovered (reg : Int) :
    readEcTemperatureC ec.recovered reg =
      ((readEcTemperatureC ec reg).1.recovered, (readEcTemperatureC ec reg).2) := by
  unfold readEcTemperatureC
  split
  · rfl
  · rfl

theorem readFan_recovered (fan : FanConfig) :
    readFan ec.recovered sensors cfg fan =
      ((readFan ec sensors cfg fan).1.recovered, (readFan ec sensors cfg fan).2) := by
  have readByte (ec : EcDevice) (reg : Int) :
      ecReadByte ec.recovered reg = ((ecReadByte ec reg).1.recovered, (ecReadByte ec reg).2) := rfl
  unfold readFan
  cases cfg.readWords with
  | true =>
      simp only [if_true, ecReadWord_recovered, readByte, readEcTemperatureC_recovered]
  | false =>
      simp only [Bool.false_eq_true, if_false, readByte, readEcTemperatureC_recovered]

/-- A poll observes the same on a recovered EC. -/
theorem refreshFanObservations_recovered (states : FanStates) :
    refreshFanObservations ec.recovered sensors cfg states =
      ⟨(refreshFanObservations ec sensors cfg states).ec.recovered,
        (refreshFanObservations ec sensors cfg states).states,
        (refreshFanObservations ec sensors cfg states).forcedReason⟩ := by
  refine (@loop_map _ _ (fun acc : Observation => ⟨acc.ec.recovered, acc.states, acc.forcedReason⟩)
    cfg.fanLen _ (observeRound sensors cfg) ⟨ec, states, .none⟩ ?_).symm
  intro i acc
  simp only [observeRound, readFan_recovered]

end Recovered

/-! ## Which failing fans are retried -/

section Retry

variable {cfg : AnsConfig} {bank : FanBank} {sensors : Sensors} {autoMode : Bool}
  {preset : CString} {i : Nat}

/-- A fan whose writes keep failing is given the critical speed. -/
theorem pollSpeed_of_failing {observed : Observation}
    (failing : WritesFailing cfg (observed.states i)) :
    pollSpeed cfg autoMode observed i = retrySpeed cfg autoMode observed i := by
  have reason : criticalReason cfg (observed.states i) observed.forcedReason =
      if observed.forcedReason.hasValue then observed.forcedReason else .ecWriteFailure := by
    unfold criticalReason
    split
    · rfl
    · exact if_pos failing
  have critical : criticalReason cfg (observed.states i) observed.forcedReason ≠ .none := by
    rw [reason]
    split
    · rename_i forced
      exact SafetyReason.hasValue_eq_true.mp forced
    · simp
  rw [pollSpeed, pollDecision, fanSafetyAdjustPercent_of_critical critical, reason]
  rfl

theorem needsWrite_iff_retryDiffers (failing : WritesFailing cfg (bank.states i)) :
    NeedsWrite cfg autoMode (refreshFanObservations bank.ec sensors cfg bank.states) i ↔
      RetryDiffers cfg bank sensors autoMode i := by
  obtain ⟨percent, requested, -⟩ := refreshFanObservations_recorded bank.ec sensors cfg bank.states i
  rw [NeedsWrite, pollSpeed_of_failing (observed_writesFailing_iff.mpr failing), percent, requested]
  rfl

/-- A failing fan is retried exactly when its critical speed or its target differs. -/
theorem retries_iff (valid : cfg.Valid) (daemon : firmwareAutoMode autoMode preset = false)
    (below : i < cfg.fanLen) (failing : WritesFailing cfg (bank.states i)) :
    Retries cfg bank sensors autoMode preset i ↔ RetryDiffers cfg bank sensors autoMode i := by
  have limit := valid.safety.maxEcWriteFailures.1
  have reliable : bank.ec.recovered.WritesSucceed := fun _ => rfl
  obtain ⟨ok, worked, state⟩ := @updateFanStates_daemon_state cfg
    { bank with ec := bank.ec.recovered } sensors autoMode preset daemon i below
  obtain ⟨-, -, failures⟩ := refreshFanObservations_recorded bank.ec sensors cfg bank.states i
  rw [worked (reliable.worked _), refreshFanObservations_recovered] at state
  change _ = roundState cfg autoMode (refreshFanObservations bank.ec sensors cfg bank.states) i
    true at state
  rw [← needsWrite_iff_retryDiffers failing]
  constructor
  · intro retries
    by_contra calm
    have recovers := retries.recovers
    rw [state, roundState, if_neg calm] at recovers
    have kept : (bank.states i).ecWriteFailures = 0 := failures.symm.trans recovers
    rw [WritesFailing, kept] at failing
    omega
  · intro needs
    refine ⟨updateFanStates_daemon_writes_mem daemon below needs, ?_⟩
    rw [state, roundState, if_pos needs]
    rfl

end Retry

/-! ## Runs of the daemon -/

section Runs

variable (cfg : AnsConfig) (daemon : Daemon) (event : Event)

/-- `P` holds of every fan whose EC writes keep failing when a poll of a daemon-owned mode begins. -/
def Daemon.AtFailingFans (P : Daemon → Nat → Prop) : Prop :=
  daemon.running = true → ∀ activity, event.action = .poll activity →
    let polled := (daemon.found event).beforeFans cfg activity
    firmwareAutoMode polled.autoMode polled.preset = false →
      ∀ i < cfg.fanLen, WritesFailing cfg (polled.states i) → P polled i

/-- A poll retries every fan whose EC writes keep failing. -/
def Daemon.RetriesFailing : Prop :=
  daemon.AtFailingFans cfg event fun polled i =>
    Retries cfg polled.toFanBank polled.host.sensors polled.autoMode polled.preset i

/-- No fan whose EC writes keep failing is recorded at its critical speed and its target. -/
def Daemon.FailingDiffer : Prop :=
  daemon.AtFailingFans cfg event fun polled i =>
    RetryDiffers cfg polled.toFanBank polled.host.sensors polled.autoMode i

variable {cfg daemon event}

theorem retriesFailing_iff (valid : cfg.Valid) :
    daemon.RetriesFailing cfg event ↔ daemon.FailingDiffer cfg event := by
  refine forall_congr' fun _ => forall_congr' fun activity => forall_congr' fun _ =>
    forall_congr' fun owned => forall_congr' fun i => forall_congr' fun below =>
      forall_congr' fun failing => ?_
  exact retries_iff valid owned below failing

theorem atFailingFans_command (P : Daemon → Nat → Prop) (host : Host) (line : CString) :
    daemon.AtFailingFans cfg (.command host line) P := by
  intro _ activity isPoll
  cases isPoll

theorem atFailingFans_poll {P : Daemon → Nat → Prop} {host : Host} :
    daemon.AtFailingFans cfg (.poll host) P ↔
      (daemon.running = true →
        let polled := (daemon.found (.poll host)).beforeFans cfg none
        firmwareAutoMode polled.autoMode polled.preset = false →
          ∀ i < cfg.fanLen, WritesFailing cfg (polled.states i) → P polled i) := by
  constructor
  · intro each running
    exact each running none rfl
  · intro each running activity isPoll
    cases isPoll
    exact each running

/-- In every run the failing fans are retried exactly while none of them is recorded so. -/
theorem retriesFailing_along_iff (valid : cfg.Valid) (boot : Boot) (events : List Event) :
    Along (Daemon.step cfg) (Daemon.RetriesFailing cfg) (startDaemon cfg boot) events ↔
      Along (Daemon.step cfg) (Daemon.FailingDiffer cfg) (startDaemon cfg boot) events :=
  along_congr fun _ _ => retriesFailing_iff valid

end Runs

/-! ## The shipped profile -/

def coolHost : Host := { sensors := AcerNitroAn517.cpuSensors 50 }

/-- The shipped daemon starts on an EC with this pattern of failing writes. -/
def coolBoot (writeFails : Nat → Bool) : Boot :=
  ⟨{ regs := fun _ => 0, writeFails := writeFails }, coolHost, none, none, none⟩

def commanded (writeFails : Nat → Bool) (lines : List CString) : Daemon :=
  run (Daemon.step AcerNitroAn517.config) (startDaemon AcerNitroAn517.config (coolBoot writeFails))
    (lines.map (.command coolHost))

/-- The daemon as `update_fan_states` finds it in a poll at 50 °C. -/
def Daemon.polledCool (daemon : Daemon) : Daemon :=
  (daemon.found (.poll coolHost)).beforeFans AcerNitroAn517.config none

/-- After three failed requests for 40 % the CPU fan, recorded at 50 %, is retried. -/
theorem retriesFailing_recorded :
    Along (Daemon.step AcerNitroAn517.config) (Daemon.RetriesFailing AcerNitroAn517.config)
      (startDaemon AcerNitroAn517.config
        (coolBoot fun index => index == 7 || index == 10 || index == 13))
      (["set cpu 40".toList, "set cpu 40".toList, "set cpu 40".toList].map (.command coolHost) ++
        [.poll coolHost]) := by
  refine (retriesFailing_along_iff AcerNitroAn517.config_valid _ _).mpr ?_
  refine (along_concat _ _).mpr ⟨⟨?_, ?_, ?_, trivial⟩, atFailingFans_poll.mpr ?_⟩
  · exact atFailingFans_command _ _ _
  · exact atFailingFans_command _ _ _
  · exact atFailingFans_command _ _ _
  · have differ : let polled := (commanded (fun index => index == 7 || index == 10 || index == 13)
          ["set cpu 40".toList, "set cpu 40".toList, "set cpu 40".toList]).polledCool
        ∀ i < 2, RetryDiffers AcerNitroAn517.config polled.toFanBank polled.host.sensors
          polled.autoMode i := by
      decide +kernel
    exact fun _ _ i below _ => differ i below

/--
Both fans are set to 100 %, then three requests for 50 % of the CPU fan fail.
The EC works again, but the poll finds the fan at its critical speed and its
request, and writes nothing.
-/
theorem retriesFailing_fails :
    ¬ ∀ (cfg : AnsConfig) (boot : Boot) (events : List Event), cfg.Valid →
      Along (Daemon.step cfg) (Daemon.RetriesFailing cfg) (startDaemon cfg boot) events := by
  intro claim
  let lines := ["set all 100".toList, "set cpu 50".toList, "set cpu 50".toList, "set cpu 50".toList]
  let fails : Nat → Bool := fun index => index == 11 || index == 14 || index == 17
  have along := claim AcerNitroAn517.config (coolBoot fails)
    (lines.map (.command coolHost) ++ [.poll coolHost]) AcerNitroAn517.config_valid
  have retries : (commanded fails lines).RetriesFailing AcerNitroAn517.config (.poll coolHost) :=
    ((along_concat _ _).mp along).2
  have stuck : (commanded fails lines).running = true ∧
      let polled := (commanded fails lines).polledCool
      firmwareAutoMode polled.autoMode polled.preset = false ∧
        WritesFailing AcerNitroAn517.config (polled.states 0) ∧
        ¬ ∃ write ∈ writesSince polled.ec (updateFanStates polled.toFanBank polled.host.sensors
          AcerNitroAn517.config polled.autoMode polled.preset).ec, write.reg = 55 := by
    decide +kernel
  obtain ⟨running, owned, failing, silent⟩ := stuck
  exact silent (atFailingFans_poll.mp retries running owned 0 (by decide) failing).attempts

end NitroSense
