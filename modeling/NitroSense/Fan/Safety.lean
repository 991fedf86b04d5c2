import NitroSense.Lib.Loop
import NitroSense.Fan.SafetyPolicy

/-!
# Writing a fan target

`fan/safety.c` and `fan/lifecycle.c`.  `FanBank` is what the fan functions work
on: the EC and the states of the fans.  A fan function of the source gets a
fan's configuration and state by pointer, always for one index; here it gets
the index.
-/

namespace NitroSense

open Lib EcDevice

structure FanBank where
  ec : EcDevice
  states : FanStates

def fanWritePercentRaw (ec : EcDevice) (fan : FanConfig) (percent : Int) : EcDevice × Bool :=
  ecWriteByte ec fan.writeRegister (clampInt percent fan.writeMin fan.writeMax)

/-- What `set_fan_percent` leaves in the state, by the policy's decision and the write's outcome. -/
def recordFanWrite (cfg : AnsConfig) (state : FanState) (requestedPercent : Int)
    (adjusted : Int × SafetyReason) (ok : Bool) : FanState :=
  if ok then
    fanUpdateSafetyState
      { state with
        ecWriteFailures := 0
        requestedPercent := clampInt requestedPercent 1 100
        percent := adjusted.1
        writeValue := adjusted.1 }
      adjusted.2
  else
    fanUpdateSafetyState
      { state with
        ecWriteFailures :=
          if state.ecWriteFailures < cfg.safety.maxEcWriteFailures + 1 then
            state.ecWriteFailures + 1
          else state.ecWriteFailures }
      .ecWriteFailure

/-- `set_fan_percent` for fan `i`: the effective percent, or -1 when the write failed. -/
def setFanPercent (cfg : AnsConfig) (bank : FanBank) (i : Nat) (requestedPercent : Int)
    (forcedReason : SafetyReason) : FanBank × Int :=
  let fan := cfg.fan i
  let state := bank.states i
  let adjusted := fanSafetyAdjustPercent cfg fan state requestedPercent forcedReason
  let written := fanWritePercentRaw bank.ec fan adjusted.1
  (⟨written.1, Function.update bank.states i
      (recordFanWrite cfg state requestedPercent adjusted written.2)⟩,
    if written.2 then adjusted.1 else -1)

/-- The loop of `global_safety_reason` over the remaining fans. -/
def globalSafetyReasonFrom (cfg : AnsConfig) (states : FanStates) :
    List Nat → SafetyReason → SafetyReason
  | [], reason => reason
  | i :: rest, reason =>
      if (states i).ecReadFailures ≥ cfg.safety.maxEcReadFailures then .ecReadFailure
      else if (states i).ecWriteFailures ≥ cfg.safety.maxEcWriteFailures then .ecWriteFailure
      else
        globalSafetyReasonFrom cfg states rest
          (if (states i).criticalTempSamples ≥ cfg.safety.criticalConsecutiveSamples then
            .criticalTemperature
          else reason)

def globalSafetyReason (cfg : AnsConfig) (states : FanStates) : SafetyReason :=
  globalSafetyReasonFrom cfg states (List.range cfg.fanLen) .none

def autoRampBypassTemperatureReached (cfg : AnsConfig) (state : FanState) : Bool :=
  cfg.safety.autoRampBypassTemperatureC > 0 && state.controlTempAvailable &&
    state.controlTempC ≥ cfg.safety.autoRampBypassTemperatureC

def autoRampedPercent (cfg : AnsConfig) (state : FanState) (targetPercent : Int)
    (forcedReason : SafetyReason) : Int :=
  let step := cfg.safety.autoRampUpPercent
  let currentPercent := state.statusRequestedPercent
  if step ≤ 0 ∨ targetPercent ≤ currentPercent then targetPercent
  else if forcedReason.hasValue then targetPercent
  else if autoRampBypassTemperatureReached cfg state then targetPercent
  else clampInt (currentPercent + step) 1 targetPercent

/-- `apply_init_writes`: the results of the writes are ignored. -/
def applyInitWrites (ec : EcDevice) (cfg : AnsConfig) : EcDevice :=
  cfg.initWrites.foldl (fun ec write => (ecWriteByte ec write.reg write.value).1) ec

def InitRegister (cfg : AnsConfig) (reg : Int) : Prop := ∃ write ∈ cfg.initWrites, reg = write.reg

theorem foldl_ecWriteByte_writesWithin {allowed : Int → Prop} {writes : List EcWriteConfig}
    (inside : ∀ write ∈ writes, allowed write.reg) (ec : EcDevice) :
    WritesWithin allowed ec
      (writes.foldl (fun ec write => (ecWriteByte ec write.reg write.value).1) ec) := by
  induction writes generalizing ec with
  | nil => exact WritesWithin.refl ec
  | cons write rest ih =>
      have first := ecWriteByte_writesWithin ec write.value (inside write List.mem_cons_self)
      exact first.trans (ih (fun later member => inside later (List.mem_cons_of_mem _ member)) _)

theorem applyInitWrites_writesWithin (ec : EcDevice) (cfg : AnsConfig) :
    WritesWithin (InitRegister cfg) ec (applyInitWrites ec cfg) :=
  foldl_ecWriteByte_writesWithin (fun write member => ⟨write, member, rfl⟩) ec

/-! ## What one fan write does -/

section SetFanPercent

variable (cfg : AnsConfig) (bank : FanBank) (i : Nat) (requestedPercent : Int)
  (forcedReason : SafetyReason)

def setFanDecision : Int × SafetyReason :=
  fanSafetyAdjustPercent cfg (cfg.fan i) (bank.states i) requestedPercent forcedReason

@[simp] theorem setFanPercent_ec :
    (setFanPercent cfg bank i requestedPercent forcedReason).1.ec =
      (ecWriteByte bank.ec (cfg.fan i).writeRegister
        (clampInt (setFanDecision cfg bank i requestedPercent forcedReason).1
          (cfg.fan i).writeMin (cfg.fan i).writeMax)).1 := rfl

@[simp] theorem setFanPercent_state_self :
    (setFanPercent cfg bank i requestedPercent forcedReason).1.states i =
      recordFanWrite cfg (bank.states i) requestedPercent
        (setFanDecision cfg bank i requestedPercent forcedReason) bank.ec.nextWriteOk :=
  Function.update_self _ _ _

theorem setFanPercent_state_ne {j : Nat} (ne : j ≠ i) :
    (setFanPercent cfg bank i requestedPercent forcedReason).1.states j = bank.states j :=
  Function.update_of_ne ne _ _

theorem setFanPercent_result :
    (setFanPercent cfg bank i requestedPercent forcedReason).2 =
      if bank.ec.nextWriteOk then (setFanDecision cfg bank i requestedPercent forcedReason).1
      else -1 := rfl

theorem setFanPercent_writesWithin {allowed : Int → Prop}
    (inside : allowed (cfg.fan i).writeRegister) :
    WritesWithin allowed bank.ec (setFanPercent cfg bank i requestedPercent forcedReason).1.ec :=
  ecWriteByte_writesWithin bank.ec _ inside

end SetFanPercent

/-- The result tells whether the write worked. -/
theorem setFanPercent_nonneg_iff {cfg : AnsConfig} {i : Nat} (valid : cfg.Valid)
    (below : i < cfg.fanLen) (bank : FanBank) (requestedPercent : Int) (forcedReason : SafetyReason) :
    (setFanPercent cfg bank i requestedPercent forcedReason).2 ≥ 0 ↔ bank.ec.nextWriteOk = true := by
  have speed : 0 ≤ (setFanDecision cfg bank i requestedPercent forcedReason).1 :=
    (fanSafetyAdjustPercent_speed valid.safety (valid.fan below) _ _ _).1
  rw [setFanPercent_result]
  split
  · rename_i works
    exact ⟨fun _ => works, fun _ => speed⟩
  · rename_i failed
    exact ⟨fun nonneg => absurd nonneg (by decide), fun works => absurd works failed⟩

/-- A failed write keeps every request. -/
theorem setFanPercent_requested_of_failed {cfg : AnsConfig} {bank : FanBank} (i : Nat)
    (requestedPercent : Int) (forcedReason : SafetyReason) (failed : bank.ec.nextWriteOk = false)
    (j : Nat) :
    ((setFanPercent cfg bank i requestedPercent forcedReason).1.states j).requestedPercent =
      (bank.states j).requestedPercent := by
  by_cases here : j = i
  · rw [here, setFanPercent_state_self, failed]
    rfl
  · rw [setFanPercent_state_ne cfg bank i requestedPercent forcedReason here]

theorem recordFanWrite_sameObservation (cfg : AnsConfig) (state : FanState)
    (requestedPercent : Int) (adjusted : Int × SafetyReason) (ok : Bool) :
    state.SameObservation (recordFanWrite cfg state requestedPercent adjusted ok) := by
  unfold recordFanWrite
  split <;> exact ⟨rfl, rfl, rfl, rfl, rfl, rfl, rfl⟩

theorem update_sameObservations {states : FanStates} {i : Nat} {state : FanState}
    (same : (states i).SameObservation state) :
    SameObservations states (Function.update states i state) := by
  intro j
  by_cases here : j = i
  · rw [here, Function.update_self]
    exact same
  · rw [Function.update_of_ne here]

/-! ## What fan control changes -/

/-- Between the banks only registers in `allowed` were written, and nothing was observed. -/
structure FanChanges (allowed : Int → Prop) (before after : FanBank) : Prop where
  states : SameObservations before.states after.states
  ec : WritesWithin allowed before.ec after.ec

namespace FanChanges

variable {allowed wider : Int → Prop} {first second third : FanBank}

@[refl] theorem refl (bank : FanBank) : FanChanges allowed bank bank :=
  ⟨SameObservations.refl _, WritesWithin.refl _⟩

theorem trans (left : FanChanges allowed first second) (right : FanChanges allowed second third) :
    FanChanges allowed first third :=
  ⟨left.states.trans right.states, left.ec.trans right.ec⟩

theorem mono (changes : FanChanges allowed first second)
    (weaken : ∀ reg, allowed reg → wider reg) : FanChanges wider first second :=
  ⟨changes.states, changes.ec.mono weaken⟩

theorem writesSucceed (changes : FanChanges allowed first second)
    (reliable : first.ec.WritesSucceed) : second.ec.WritesSucceed :=
  changes.ec.writesSucceed reliable

end FanChanges

theorem setFanPercent_changes {allowed : Int → Prop} (cfg : AnsConfig) (bank : FanBank) (i : Nat)
    (requestedPercent : Int) (forcedReason : SafetyReason)
    (inside : allowed (cfg.fan i).writeRegister) :
    FanChanges allowed bank (setFanPercent cfg bank i requestedPercent forcedReason).1 :=
  ⟨update_sameObservations (recordFanWrite_sameObservation cfg _ _ _ _),
    setFanPercent_writesWithin cfg bank i _ _ inside⟩

/-! ## Loops over the fans -/

/-- A loop that sets some fans, each from the bank the earlier rounds left. -/
def setFans (cfg : AnsConfig) (selected : Nat → Bool) (percent : FanBank → Nat → Int)
    (forced : FanBank → SafetyReason) (bank : FanBank) : FanBank :=
  loop cfg.fanLen
    (fun i bank =>
      if selected i then (setFanPercent cfg bank i (percent bank i) (forced bank)).1 else bank) bank

/-- A relation between banks that one fan write keeps is kept by a loop of fan writes. -/
theorem setFans_rel {cfg : AnsConfig} {selected : Nat → Bool} {percent : FanBank → Nat → Int}
    {forced : FanBank → SafetyReason} {start : FanBank} (R : FanBank → Prop) (initial : R start)
    (round : ∀ i bank, i < cfg.fanLen → selected i = true → R bank →
      R (setFanPercent cfg bank i (percent bank i) (forced bank)).1) :
    R (setFans cfg selected percent forced start) := by
  refine loop_preserves R initial fun i bank below before => ?_
  by_cases chosen : selected i = true
  · rw [if_pos chosen]
    exact round i bank below chosen before
  · rw [if_neg chosen]
    exact before

/-- A loop of fan writes only touches the write registers of the selected fans. -/
theorem setFans_changes {cfg : AnsConfig} {selected : Nat → Bool}
    {percent : FanBank → Nat → Int} {forced : FanBank → SafetyReason} {start : FanBank}
    {allowed : Int → Prop}
    (inside : ∀ i < cfg.fanLen, selected i = true → allowed (cfg.fan i).writeRegister) :
    FanChanges allowed start (setFans cfg selected percent forced start) := by
  refine setFans_rel (fun bank => FanChanges allowed start bank) (FanChanges.refl _) ?_
  intro i bank below chosen before
  exact before.trans (setFanPercent_changes cfg bank i _ _ (inside i below chosen))

end NitroSense
