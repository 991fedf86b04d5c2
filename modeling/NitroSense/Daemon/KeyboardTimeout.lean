import NitroSense.Daemon.Loop
import NitroSense.Keyboard.Timeout

/-!
# The idle timeout among the commands

The daemon's flag says that the timeout has switched the keyboard off.  A
restoring tick and a command that sets the brightness write the register when
they clear the flag; turning the timeout off clears it without a write.
-/

namespace NitroSense

open Lib EcDevice

/-- What happens to the keyboard: ticks and the commands that change something about it. -/
inductive BacklightEvent where
  | tick (idle : Bool)
  | set (percent : Int)
  | timeout (enabled : Bool)
  deriving DecidableEq, Repr

/-- The percent of a command is one. -/
def BacklightEvent.Accepted : BacklightEvent → Prop
  | .set percent => 0 ≤ percent ∧ percent ≤ 100
  | _ => True

namespace Backlight

variable (keyboard : KeyboardBacklightConfig) (backlight : Backlight)

def step : BacklightEvent → Backlight
  | .tick idle => backlight.tick keyboard idle
  | .set percent => backlight.set keyboard percent
  | .timeout enabled => backlight.useTimeout enabled

/-- A keyboard that is timed off has its lowest brightness, and would not be restored to it. -/
structure SleepsDark : Prop where
  restores : backlight.RestoresPercent
  dark : backlight.timedOff = true → backlight.value = keyboard.minValue
  lit : 0 < backlight.restorePercent →
    keyboard.minValue < keyboardBacklightValueFromPercent keyboard backlight.restorePercent

/-- An event that clears the flag leaves the brightness it sets, or the one to restore. -/
def WakesLit (event : BacklightEvent) : Prop :=
  backlight.timedOff = true → (backlight.step keyboard event).timedOff = false →
    (∃ percent, event = .set percent ∧
      (backlight.step keyboard event).value =
        keyboardBacklightValueFromPercent keyboard percent) ∨
    (backlight.step keyboard event).value =
      keyboardBacklightValueFromPercent keyboard (backlight.step keyboard event).restorePercent

/-- The timeout is not turned off while the keyboard is off and has a percent to restore. -/
def KeepsTimeout (event : BacklightEvent) : Prop :=
  event = .timeout false → backlight.timedOff = true → backlight.restorePercent ≤ 0

end Backlight

section Machine

variable {keyboard : KeyboardBacklightConfig} {backlight : Backlight}

theorem Backlight.remember_sleepsDark (range : keyboard.minValue < keyboard.maxValue)
    (sleeps : backlight.SleepsDark keyboard) :
    (backlight.remember keyboard).SleepsDark keyboard := by
  unfold Backlight.remember
  split
  · rename_i lit
    refine ⟨percentOf_bounds range lit.2.1, fun asleep => ?_,
      fun positive => valueFromPercent_percentOf range lit.2.1 positive⟩
    exact sleeps.dark asleep
  · exact sleeps

/-- Every event keeps a sleeping keyboard dark. -/
theorem Backlight.step_sleepsDark (range : keyboard.minValue < keyboard.maxValue)
    (sleeps : backlight.SleepsDark keyboard) {event : BacklightEvent} (accepted : event.Accepted) :
    (backlight.step keyboard event).SleepsDark keyboard := by
  cases event with
  | tick idle =>
      have seen := Backlight.remember_sleepsDark range sleeps
      unfold Backlight.step Backlight.tick
      dsimp only
      split
      · exact sleeps
      · split
        · exact ⟨seen.restores, fun _ => rfl, seen.lit⟩
        · split
          · exact ⟨seen.restores, fun asleep => (Bool.false_ne_true asleep).elim, seen.lit⟩
          · exact seen
  | set percent =>
      have inside := valueFromPercent_inRange range accepted
      refine ⟨?_, fun asleep => (Bool.false_ne_true asleep).elim, ?_⟩
      · unfold Backlight.RestoresPercent Backlight.step Backlight.set
        dsimp only
        split
        · exact percentOf_bounds range inside
        · exact ⟨le_refl 0, by decide⟩
      · unfold Backlight.step Backlight.set
        dsimp only
        split
        · rename_i positive
          exact fun _ => valueFromPercent_percentOf range inside positive
        · exact fun none => absurd none (lt_irrefl 0)
  | timeout enabled =>
      refine ⟨sleeps.restores, fun asleep => sleeps.dark ?_, sleeps.lit⟩
      exact (Bool.and_eq_true _ _ ▸ asleep : _ ∧ _).2

/-- Only turning the timeout off strands a keyboard in the dark. -/
theorem Backlight.wakesLit_iff (sleeps : backlight.SleepsDark keyboard) (event : BacklightEvent) :
    backlight.WakesLit keyboard event ↔ backlight.KeepsTimeout event := by
  cases event with
  | tick idle =>
      refine ⟨fun _ strands => (by cases strands), fun _ asleep awake => Or.inr ?_⟩
      unfold Backlight.step Backlight.tick at awake ⊢
      have unseen : backlight.remember keyboard = backlight := by
        rw [Backlight.remember, if_neg (by simp [asleep])]
      dsimp only at awake ⊢
      rw [unseen] at awake ⊢
      by_cases disabled : backlight.enabled = false
      · rw [if_pos disabled, asleep] at awake
        cases awake
      · rw [if_neg disabled, if_neg (by simp [asleep])] at awake ⊢
        split at awake
        · rename_i restoring
          rw [if_pos restoring]
        · rw [asleep] at awake
          cases awake
  | set percent =>
      exact ⟨fun _ strands => (by cases strands), fun _ _ _ => Or.inl ⟨percent, rfl, rfl⟩⟩
  | timeout enabled =>
      constructor
      · intro wakes off asleep
        cases off
        have left : backlight.value =
            keyboardBacklightValueFromPercent keyboard backlight.restorePercent := by
          rcases wakes asleep rfl with ⟨percent, set, _⟩ | value
          · cases set
          · exact value
        rw [sleeps.dark asleep] at left
        by_contra positive
        have lit := sleeps.lit (lt_of_not_ge positive)
        omega
      · intro keeps asleep awake
        have off : enabled = false := by
          cases enabled with
          | false => rfl
          | true =>
              have still : backlight.timedOff = false := awake
              rw [asleep] at still
              cases still
        have none : backlight.restorePercent = 0 := by
          have low := keeps (by rw [off]) asleep
          have nonneg := sleeps.restores.1
          omega
        right
        change backlight.value =
          keyboardBacklightValueFromPercent keyboard backlight.restorePercent
        rw [none, valueFromPercent_zero, sleeps.dark asleep]

end Machine

/-! ## The daemon's events -/

def Request.backlightEvent : Request → Option BacklightEvent
  | .keyboardSet percent => some (.set percent)
  | .keyboardTimeout enabled => some (.timeout enabled)
  | _ => none

/-- What an event of the loop is for the keyboard, if it is a tick or a keyboard command. -/
def Daemon.backlightEvent (daemon : Daemon) (event : Event) : Option BacklightEvent :=
  match event.action with
  | .input activity =>
      some (.tick (tickIsIdle daemon.runtime activity.nowMs activity.lastActivityMs))
  | action => action.request.bind Request.backlightEvent

/-- A tick or a keyboard command, while the EC leaves the brightness to the daemon. -/
structure KeyboardEvent (cfg : AnsConfig) (event : Event) : Prop where
  keyboard : EcKeyboard cfg event.host.leds
  untouched : event.refreshed cfg.keyboardBacklight.reg = none
  isKeyboard : (∃ activity, event.action = .input activity) ∨
    (∃ percent, event.action.request = some (.keyboardSet percent)) ∨
    ∃ enabled, event.action.request = some (.keyboardTimeout enabled)

def Daemon.backlight (cfg : AnsConfig) (daemon : Daemon) : Backlight :=
  backlightOf cfg daemon.ec daemon.runtime

/-- The EC works, the loop runs, and the timeout has a limit. -/
structure KeyboardRuns (daemon : Daemon) : Prop where
  works : daemon.ec.AccessesSucceed
  running : daemon.running = true
  seconds : 0 < daemon.runtime.keyboardBacklightTimeoutSeconds

section Events

variable {cfg : AnsConfig} {daemon : Daemon} {event : Event}

theorem backlightEvent_of_request {request : Request}
    (asked : event.action.request = some request) :
    daemon.backlightEvent event = request.backlightEvent := by
  unfold Daemon.backlightEvent
  split
  · rename_i activity isInput
    rw [isInput] at asked
    cases asked
  · rw [asked]
    rfl

/-- The machine's commands are requests of clients. -/
theorem request_of_backlightEvent {happens : BacklightEvent}
    (isEvent : daemon.backlightEvent event = some happens) :
    (∃ idle, happens = .tick idle ∧ event.action.request = none) ∨
      ∃ request, event.action.request = some request ∧
        request.backlightEvent = some happens := by
  unfold Daemon.backlightEvent at isEvent
  split at isEvent
  · rename_i activity isInput
    cases isEvent
    rw [isInput]
    exact Or.inl ⟨_, rfl, rfl⟩
  · exact Or.inr (Option.bind_eq_some_iff.mp isEvent)

theorem backlightEvent_set_iff {percent : Int} :
    daemon.backlightEvent event = some (.set percent) ↔
      event.action.request = some (.keyboardSet percent) := by
  refine ⟨fun isEvent => ?_, fun asked => backlightEvent_of_request asked⟩
  rcases request_of_backlightEvent isEvent with ⟨idle, isTick, _⟩ | ⟨request, asked, happens⟩
  · cases isTick
  · cases request with
    | keyboardSet value =>
        cases happens
        exact asked
    | _ => cases happens

theorem backlightEvent_timeout_iff {enabled : Bool} :
    daemon.backlightEvent event = some (.timeout enabled) ↔
      event.action.request = some (.keyboardTimeout enabled) := by
  refine ⟨fun isEvent => ?_, fun asked => backlightEvent_of_request asked⟩
  rcases request_of_backlightEvent isEvent with ⟨idle, isTick, _⟩ | ⟨request, asked, happens⟩
  · cases isTick
  · cases request with
    | keyboardTimeout value =>
        cases happens
        exact asked
    | _ => cases happens

/-- A command that sets the brightness has one of the accepted percents. -/
theorem request_keyboardSet {action : Action} {percent : Int}
    (asked : action.request = some (.keyboardSet percent)) : 0 ≤ percent ∧ percent ≤ 100 := by
  unfold Action.request at asked
  split at asked
  · exact commandRequest_keyboardSet_percent asked
  · cases asked

/-- What the status at the end of a command reads changes nothing of the keyboard. -/
theorem writeRuntimeStatus_keyboard (cfg : AnsConfig) (runs : KeyboardRuns daemon) :
    KeyboardRuns (writeRuntimeStatus cfg daemon) ∧
      (writeRuntimeStatus cfg daemon).backlight cfg = daemon.backlight cfg := by
  have reads : OnlyRead daemon.ec (writeRuntimeStatus cfg daemon).ec :=
    ((readFanMode_onlyRead _ _).trans (readPlatformProfile_onlyRead _ _)).trans
      (keyboardBacklightReadAny_onlyRead _ _ _)
  refine ⟨⟨reads.accessesSucceed runs.works, runs.running, runs.seconds⟩, ?_⟩
  rw [Daemon.backlight, backlightOf, reads.byte]
  rfl

theorem setKeyboardBacklight_keyboard {leds : Option (List Led)} (keyboard : EcKeyboard cfg leds)
    (runs : KeyboardRuns daemon) {percent : Int} (bounds : 0 ≤ percent ∧ percent ≤ 100) :
    KeyboardRuns (setKeyboardBacklight cfg daemon percent).1 ∧
      (setKeyboardBacklight cfg daemon percent).1.backlight cfg =
        (daemon.backlight cfg).set cfg.keyboardBacklight percent := by
  obtain ⟨works, value, available, read⟩ :=
    keyboardBacklightSetPercent_works keyboard runs.works bounds
  unfold setKeyboardBacklight
  dsimp only
  rw [if_neg (by simp [keyboard.available]), if_neg (by simp [available])]
  refine ⟨⟨works, runs.running, runs.seconds⟩, ?_⟩
  simp only [Daemon.backlight, backlightOf, keyboardBacklightTimeoutNoteManualSet, value, read]
  rfl

theorem setKeyboardBacklightTimeout_keyboard (cfg : AnsConfig) (runs : KeyboardRuns daemon)
    (enabled : Bool) :
    KeyboardRuns (setKeyboardBacklightTimeout cfg daemon enabled).1 ∧
      (setKeyboardBacklightTimeout cfg daemon enabled).1.backlight cfg =
        (daemon.backlight cfg).useTimeout enabled := by
  unfold setKeyboardBacklightTimeout
  dsimp only
  rw [writeControlState_eq]
  exact ⟨⟨runs.works, runs.running, runs.seconds⟩, rfl⟩

/-- A tick or a keyboard command of the loop is an event of the machine. -/
theorem step_backlight (runs : KeyboardRuns daemon)
    (restores : (daemon.backlight cfg).RestoresPercent) (isKeyboard : KeyboardEvent cfg event) :
    ∃ happens, daemon.backlightEvent event = some happens ∧ happens.Accepted ∧
      KeyboardRuns (daemon.step cfg event) ∧
      (daemon.step cfg event).backlight cfg =
        (daemon.backlight cfg).step cfg.keyboardBacklight happens := by
  have found : KeyboardRuns (daemon.found event) :=
    ⟨⟨runs.works.writes, runs.works.reads⟩, runs.running, runs.seconds⟩
  have same : (daemon.found event).backlight cfg = daemon.backlight cfg := by
    rw [Daemon.backlight, backlightOf, Daemon.found]
    dsimp only
    rw [refresh_byte isKeyboard.untouched]
    rfl
  have goes : ¬ daemon.running = false := by simp [runs.running]
  rw [← same] at restores ⊢
  rw [Daemon.step, if_neg goes]
  rcases isKeyboard.isKeyboard with ⟨activity, isInput⟩ | ⟨percent, isSet⟩ | ⟨enabled, isTimeout⟩
  · obtain ⟨works, sameSeconds, machine⟩ := keyboardBacklightTimeoutTick_works isKeyboard.keyboard
      found.works restores found.seconds activity.nowMs activity.lastActivityMs
    rw [Daemon.backlightEvent, isInput]
    exact ⟨_, rfl, trivial, ⟨works, runs.running, sameSeconds ▸ runs.seconds⟩, machine⟩
  · have bounds : 0 ≤ percent ∧ percent ≤ 100 := request_keyboardSet isSet
    obtain ⟨performed, machine⟩ :=
      setKeyboardBacklight_keyboard isKeyboard.keyboard found bounds
    obtain ⟨later, status⟩ := writeRuntimeStatus_keyboard cfg performed
    rw [act_request isSet, backlightEvent_of_request isSet]
    exact ⟨.set percent, rfl, bounds, later, status.trans machine⟩
  · obtain ⟨performed, machine⟩ := setKeyboardBacklightTimeout_keyboard cfg found enabled
    obtain ⟨later, status⟩ := writeRuntimeStatus_keyboard cfg performed
    have perform : (Request.keyboardTimeout enabled).perform cfg (daemon.found event) =
        setKeyboardBacklightTimeout cfg (daemon.found event) enabled :=
      if_neg (by simp [isKeyboard.keyboard.timeoutSupported])
    rw [act_request isTimeout, backlightEvent_of_request isTimeout, perform]
    exact ⟨.timeout enabled, rfl, trivial, later, status.trans machine⟩

/-! ## Runs of the daemon -/

/--
A step that clears the flag leaves the register at the brightness it was asked
to set, or at the one of the percent to restore.
-/
def StepWakesLit (cfg : AnsConfig) (daemon : Daemon) (event : Event) : Prop :=
  daemon.runtime.keyboardBacklightTimedOff = true →
    (daemon.step cfg event).runtime.keyboardBacklightTimedOff = false →
      (∃ percent, event.action.request = some (.keyboardSet percent) ∧
        (daemon.step cfg event).ec.byte cfg.keyboardBacklight.reg =
          keyboardBacklightValueFromPercent cfg.keyboardBacklight percent) ∨
      (daemon.step cfg event).ec.byte cfg.keyboardBacklight.reg =
        keyboardBacklightValueFromPercent cfg.keyboardBacklight
          (daemon.step cfg event).runtime.keyboardBacklightRestorePercent

/-- No command turns the timeout off while the keyboard is off and has a percent to restore. -/
def StepKeepsTimeout (daemon : Daemon) (event : Event) : Prop :=
  event.action.request = some (.keyboardTimeout false) →
    daemon.runtime.keyboardBacklightTimedOff = true →
      daemon.runtime.keyboardBacklightRestorePercent ≤ 0

/-- On the sleeping keyboard of a running daemon one step wakes lit when it keeps the timeout. -/
theorem stepWakesLit_iff (runs : KeyboardRuns daemon)
    (sleeps : (daemon.backlight cfg).SleepsDark cfg.keyboardBacklight)
    (isKeyboard : KeyboardEvent cfg event) :
    StepWakesLit cfg daemon event ↔ StepKeepsTimeout daemon event := by
  obtain ⟨happens, isEvent, _, _, machine⟩ := step_backlight runs sleeps.restores isKeyboard
  have set : ∀ percent, event.action.request = some (.keyboardSet percent) ↔
      happens = .set percent := fun percent => by
    rw [← backlightEvent_set_iff, isEvent, Option.some_inj]
  have timeout : event.action.request = some (.keyboardTimeout false) ↔
      happens = .timeout false := by
    rw [← backlightEvent_timeout_iff, isEvent, Option.some_inj]
  have wakes : StepWakesLit cfg daemon event ↔
      (daemon.backlight cfg).WakesLit cfg.keyboardBacklight happens := by
    rw [Backlight.WakesLit, ← machine]
    simp only [StepWakesLit, set]
    rfl
  have keeps : StepKeepsTimeout daemon event ↔ (daemon.backlight cfg).KeepsTimeout happens := by
    rw [StepKeepsTimeout, timeout]
    rfl
  rw [wakes, keeps]
  exact Backlight.wakesLit_iff sleeps happens

/-- The timeout at the start of the daemon: nothing is timed off, and 100 % would be restored. -/
structure FreshTimeout (cfg : AnsConfig) (runtime : RuntimeState) : Prop where
  timedOff : runtime.keyboardBacklightTimedOff = false
  restorePercent : runtime.keyboardBacklightRestorePercent = 100
  seconds : runtime.keyboardBacklightTimeoutSeconds = cfg.keyboardBacklight.timeoutSeconds

theorem applyDefaultPreset_runtime (cfg : AnsConfig) (daemon : Daemon) :
    (applyDefaultPreset cfg daemon).runtime = daemon.runtime := by
  rw [applyDefaultPreset_eq]

/-- A fresh timeout is not asleep, and 100 % is the highest brightness. -/
theorem FreshTimeout.sleepsDark (fresh : FreshTimeout cfg daemon.runtime)
    (range : cfg.keyboardBacklight.minValue < cfg.keyboardBacklight.maxValue) :
    (daemon.backlight cfg).SleepsDark cfg.keyboardBacklight := by
  have awake : (daemon.backlight cfg).timedOff = false := fresh.timedOff
  have full : (daemon.backlight cfg).restorePercent = 100 := fresh.restorePercent
  refine ⟨?_, fun asleep => ?_, fun _ => ?_⟩
  · rw [Backlight.RestoresPercent, full]
    decide
  · rw [awake] at asleep
    cases asleep
  · rw [full, valueFromPercent_eq range (by decide)]
    omega

/--
From a fresh timeout, along every run of ticks and keyboard commands, the steps
wake lit exactly when they keep the timeout.
-/
theorem wakesLit_along_iff {leds : Option (List Led)} (keyboard : EcKeyboard cfg leds)
    (runs : KeyboardRuns daemon) (fresh : FreshTimeout cfg daemon.runtime) {events : List Event}
    (isKeyboard : ∀ event ∈ events, KeyboardEvent cfg event) :
    Along (Daemon.step cfg) (StepWakesLit cfg) daemon events ↔
      Along (Daemon.step cfg) StepKeepsTimeout daemon events := by
  have range := keyboard.range
  have sleeps := fresh.sleepsDark range
  clear fresh
  induction events generalizing daemon with
  | nil => exact Iff.rfl
  | cons event rest ih =>
      have here := isKeyboard event List.mem_cons_self
      obtain ⟨happens, _, accepted, next, machine⟩ := step_backlight runs sleeps.restores here
      have later := Backlight.step_sleepsDark range sleeps accepted
      rw [← machine] at later
      exact and_congr (stepWakesLit_iff runs sleeps here)
        (ih next (fun other member => isKeyboard other (List.mem_cons_of_mem _ member)) later)

end Events

/-! ## The shipped profile -/

/-- The shipped daemon as the loop begins, with the lowest brightness but one. -/
def litDaemon : Daemon :=
  { heldDaemon false "manual".toList with
    ec := evenEc 1
    runtime := timeoutStart AcerNitroAn517.config {} }

def litEvent (action : Action) : Event := { host := litDaemon.host, action := action }

/-- Half a minute without input. -/
def idleInput : Event := litEvent (.input ⟨30000, 0⟩)

theorem litDaemon_runs : KeyboardRuns litDaemon := ⟨⟨fun _ => rfl, fun _ => rfl⟩, rfl, by decide⟩

theorem litDaemon_fresh : FreshTimeout AcerNitroAn517.config litDaemon.runtime := ⟨rfl, rfl, rfl⟩

theorem litEvent_input (activity : InputActivity) :
    KeyboardEvent AcerNitroAn517.config (litEvent (.input activity)) :=
  ⟨shippedKeyboard, rfl, Or.inl ⟨activity, rfl⟩⟩

/-- Turning the timeout off after half a minute without input leaves the keyboard dark. -/
theorem wakesLit_along_fails :
    ¬ ∀ (cfg : AnsConfig) (leds : Option (List Led)) (daemon : Daemon) (events : List Event),
      EcKeyboard cfg leds → KeyboardRuns daemon → FreshTimeout cfg daemon.runtime →
        (∀ event ∈ events, KeyboardEvent cfg event) →
          Along (Daemon.step cfg) (StepWakesLit cfg) daemon events := by
  intro claim
  let off := litEvent (.client (some "keyboard-backlight timeout off".toList) true)
  have isOff : off.action.request = some (.keyboardTimeout false) := by decide
  have isKeyboard : KeyboardEvent AcerNitroAn517.config off :=
    ⟨shippedKeyboard, rfl, Or.inr (Or.inr ⟨false, isOff⟩)⟩
  have wakes := claim AcerNitroAn517.config none litDaemon [idleInput, off] shippedKeyboard
    litDaemon_runs litDaemon_fresh ?_
  · obtain ⟨-, wakesLit, -⟩ := wakes
    let asleep := litDaemon.step AcerNitroAn517.config idleInput
    have runs : KeyboardRuns asleep := ⟨⟨fun _ => rfl, fun _ => rfl⟩, rfl, by decide⟩
    have sleeps : (asleep.backlight AcerNitroAn517.config).SleepsDark
        AcerNitroAn517.config.keyboardBacklight :=
      ⟨⟨by decide, by decide⟩, fun _ => by decide, fun _ => by decide⟩
    have keeps := (stepWakesLit_iff runs sleeps isKeyboard).mp wakesLit isOff (by decide)
    exact absurd keeps (by decide)
  · intro event member
    rcases List.mem_pair.mp member with rfl | rfl
    · exact litEvent_input _
    · exact isKeyboard

/-- Input after half a minute without it lights the keyboard again. -/
theorem wakesLit_along_input :
    Along (Daemon.step AcerNitroAn517.config) (StepWakesLit AcerNitroAn517.config) litDaemon
      [idleInput, litEvent (.input ⟨30000, 30000⟩)] := by
  refine (wakesLit_along_iff shippedKeyboard litDaemon_runs litDaemon_fresh ?_).mpr ?_
  · intro event member
    rcases List.mem_pair.mp member with rfl | rfl
    · exact litEvent_input _
    · exact litEvent_input _
  · exact ⟨nofun, nofun, trivial⟩

end NitroSense
