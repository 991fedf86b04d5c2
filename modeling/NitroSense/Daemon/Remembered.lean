import NitroSense.Daemon.Loop

/-!
# What requests leave to the loop

Beside the fans the loop works with the remembered power source and the runtime
flags.  No request changes the source, and only three kinds of requests change
the flags.
-/

namespace NitroSense

/-- The runtime flags before and after a request. -/
inductive RuntimeChange : RuntimeState → RuntimeState → Prop where
  | none (runtime : RuntimeState) : RuntimeChange runtime runtime
  | powerSource (runtime : RuntimeState) (enabled : Bool) :
      RuntimeChange runtime { runtime with powerSourceAutoApply := enabled }
  | timeout (runtime : RuntimeState) (enabled : Bool) :
      RuntimeChange runtime
        { runtime with
          keyboardBacklightTimeoutEnabled := enabled
          keyboardBacklightTimedOff := enabled && runtime.keyboardBacklightTimedOff }
  | manualSet (runtime : RuntimeState) (percent : Int) :
      RuntimeChange runtime (keyboardBacklightTimeoutNoteManualSet runtime percent)

/-- What `after` remembers of the power source and the runtime is `before`'s, or a request's. -/
structure Remembers (before after : Daemon) : Prop where
  lastPowerSource : after.lastPowerSource = before.lastPowerSource
  runtime : RuntimeChange before.runtime after.runtime

namespace Remembers

variable {first second third : Daemon}

@[refl] theorem refl (daemon : Daemon) : Remembers daemon daemon := ⟨rfl, .none _⟩

/-- A daemon with the same source and flags remembers the same. -/
theorem of_eq (source : second.lastPowerSource = first.lastPowerSource)
    (runtime : second.runtime = first.runtime) : Remembers first second :=
  ⟨source, runtime ▸ .none _⟩

theorem saved (cfg : AnsConfig) (remembers : Remembers first second) :
    Remembers first (writeControlState cfg second) := by
  rw [writeControlState_eq]
  exact ⟨remembers.lastPowerSource, remembers.runtime⟩

end Remembers

section Requests

variable {cfg : AnsConfig} {daemon : Daemon}

theorem prepareDaemonControl_remembers (cfg : AnsConfig) (daemon : Daemon) :
    (fanCommandPrepareDaemonControl cfg daemon).1.lastPowerSource = daemon.lastPowerSource ∧
      (fanCommandPrepareDaemonControl cfg daemon).1.runtime = daemon.runtime := by
  unfold fanCommandPrepareDaemonControl disableCoolboostIfNeeded
  dsimp only
  split
  · exact ⟨rfl, rfl⟩
  · exact ⟨rfl, rfl⟩

/-- Every request leaves the remembered source alone and changes the flags in one of four ways. -/
theorem Request.perform_remembers (request : Request) :
    Remembers daemon (request.perform cfg daemon).1 := by
  obtain ⟨source, runtime⟩ := prepareDaemonControl_remembers cfg daemon
  cases request with
  | set fan percent accepted =>
      unfold Request.perform setFan
      dsimp only
      split
      · exact .of_eq source runtime
      · split
        · exact .of_eq source runtime
        · exact .saved cfg (.of_eq source runtime)
  | preset name accepted =>
      unfold Request.perform usePreset
      dsimp only
      split
      · exact .refl daemon
      · split
        · exact .of_eq source runtime
        · exact .saved cfg (.of_eq source runtime)
  | auto =>
      unfold Request.perform startAuto
      dsimp only
      split
      · exact .of_eq source runtime
      · exact .saved cfg (.of_eq source runtime)
  | firmwareAuto =>
      unfold Request.perform startFirmwareAuto
      dsimp only
      split
      · exact .refl daemon
      · split
        · exact .of_eq rfl rfl
        · exact .saved cfg (.of_eq rfl rfl)
  | fanMode mode =>
      unfold Request.perform useFanMode
      dsimp only
      split
      · exact .refl daemon
      · split
        · exact .of_eq rfl rfl
        · refine .saved cfg ?_
          cases mode <;> exact .of_eq rfl rfl
  | coolboost enabled =>
      unfold Request.perform setCoolboost
      dsimp only
      split
      · exact .refl daemon
      · split
        · exact .of_eq rfl rfl
        · exact .saved cfg (.of_eq rfl rfl)
  | profile name =>
      unfold Request.perform useProfile
      dsimp only
      split
      · exact .refl daemon
      · split
        · exact .refl daemon
        · split
          · exact .of_eq rfl rfl
          · exact .of_eq rfl rfl
  | powerSourceApply =>
      unfold Request.perform usePowerSourceProfile
      dsimp only
      split
      · exact .refl daemon
      · split
        · exact .of_eq rfl rfl
        · exact .of_eq rfl rfl
  | powerSourceAuto enabled =>
      have set : Remembers daemon
          { daemon with
            runtime := { daemon.runtime with powerSourceAutoApply := enabled }
            ec := (powerSourceAutoWrite cfg daemon enabled).1 } :=
        ⟨rfl, .powerSource _ enabled⟩
      unfold Request.perform setPowerSourceAuto
      dsimp only
      split
      · exact .refl daemon
      · split
        · exact set
        · exact .saved cfg set
  | gpuTemp policy =>
      unfold Request.perform setGpuTempPolicy
      dsimp only
      split
      · exact .of_eq rfl rfl
      · exact .of_eq rfl rfl
  | keyboardSet percent =>
      unfold Request.perform setKeyboardBacklight
      dsimp only
      split
      · exact .refl daemon
      · split
        · exact .of_eq rfl rfl
        · exact ⟨rfl, .manualSet _ _⟩
  | keyboardTimeout enabled =>
      unfold Request.perform setKeyboardBacklightTimeout
      dsimp only
      split
      · exact .refl daemon
      · exact .saved cfg ⟨rfl, .timeout _ enabled⟩
  | resume =>
      unfold Request.perform NitroSense.resume
      dsimp only
      split
      · exact .of_eq rfl rfl
      · exact .of_eq rfl rfl
  | stop => exact .of_eq rfl rfl

/-- A client's line changes what the loop remembers as its request does. -/
theorem handleClient_remembers (cfg : AnsConfig) (daemon : Daemon) (line : Option CString)
    (canControl : Bool) : Remembers daemon (handleClient cfg daemon line canControl).1 := by
  rcases handleClient_outcome cfg daemon line canControl with
    inspected | ⟨request, -, performed⟩
  · rw [inspected.rest]
    exact .of_eq rfl rfl
  · rw [performed]
    exact request.perform_remembers

end Requests

/-- Following the power source leaves the runtime flags alone. -/
theorem maybeApply_runtime (cfg : AnsConfig) (daemon : Daemon) :
    (maybeApplyPowerSourceProfile cfg daemon).runtime = daemon.runtime := by
  unfold maybeApplyPowerSourceProfile
  dsimp only
  split
  · rfl
  · split
    · rfl
    · split
      · rfl
      · rfl

end NitroSense
