import Mathlib.Tactic.Linarith
import NitroSense.Keyboard
import NitroSense.Models
import NitroSense.Lib.Run

/-!
# The idle timeout of the keyboard

What the timeout remembers of a brightness is its percent, so a brightness
passes through two roundings before it comes back.  `Backlight` is the timeout
as a machine on the register's content and the daemon's fields; while EC
accesses succeed and no LED of the kernel is read, the code computes it.
-/

namespace NitroSense

open Lib EcDevice

namespace KeyboardBacklightConfig

variable (keyboard : KeyboardBacklightConfig)

/-- The percent of a brightness in the register. -/
def percentOf (value : Int) : Int :=
  keyboardBacklightPercentFromRange value keyboard.minValue keyboard.maxValue

/-- The register content reads as a brightness. -/
def InRange (value : Int) : Prop := keyboard.minValue ≤ value ∧ value ≤ keyboard.maxValue

instance (value : Int) : Decidable (keyboard.InRange value) :=
  inferInstanceAs (Decidable (_ ∧ _))

end KeyboardBacklightConfig

/-! ## The two roundings -/

section Rounding

variable {keyboard : KeyboardBacklightConfig} {value percent : Int}

theorem percentOf_eq (range : keyboard.minValue < keyboard.maxValue)
    (inside : keyboard.InRange value) :
    keyboard.percentOf value =
      ((value - keyboard.minValue) * 100 + (keyboard.maxValue - keyboard.minValue) / 2) /
        (keyboard.maxValue - keyboard.minValue) := by
  obtain ⟨lower, upper⟩ := inside
  have half : (keyboard.maxValue - keyboard.minValue).tdiv 2 =
      (keyboard.maxValue - keyboard.minValue) / 2 := Int.tdiv_eq_ediv_of_nonneg (by omega)
  rw [KeyboardBacklightConfig.percentOf, keyboardBacklightPercentFromRange]
  rw [if_neg (by omega), half]
  exact Int.tdiv_eq_ediv_of_nonneg (by omega)

/-- The percent of a brightness in terms of the product the second rounding starts from. -/
theorem percentOf_mul (range : keyboard.minValue < keyboard.maxValue)
    (inside : keyboard.InRange value) :
    let product := keyboard.percentOf value * (keyboard.maxValue - keyboard.minValue)
    product ≤ (value - keyboard.minValue) * 100 + (keyboard.maxValue - keyboard.minValue) / 2 ∧
      (value - keyboard.minValue) * 100 + (keyboard.maxValue - keyboard.minValue) / 2 <
        product + (keyboard.maxValue - keyboard.minValue) := by
  intro product
  have positive : 0 < keyboard.maxValue - keyboard.minValue := by omega
  have division := Int.mul_ediv_add_emod
    ((value - keyboard.minValue) * 100 + (keyboard.maxValue - keyboard.minValue) / 2)
    (keyboard.maxValue - keyboard.minValue)
  rw [← percentOf_eq range inside, mul_comm] at division
  have lower := Int.emod_nonneg
    ((value - keyboard.minValue) * 100 + (keyboard.maxValue - keyboard.minValue) / 2)
    (ne_of_gt positive)
  have upper := Int.emod_lt_of_pos
    ((value - keyboard.minValue) * 100 + (keyboard.maxValue - keyboard.minValue) / 2) positive
  constructor
  · omega
  · omega

theorem percentOf_bounds (range : keyboard.minValue < keyboard.maxValue)
    (inside : keyboard.InRange value) :
    0 ≤ keyboard.percentOf value ∧ keyboard.percentOf value ≤ 100 := by
  obtain ⟨lower, upper⟩ := percentOf_mul range inside
  obtain ⟨above, below⟩ := inside
  constructor
  · by_contra negative
    have product : keyboard.percentOf value * (keyboard.maxValue - keyboard.minValue) ≤
        -1 * (keyboard.maxValue - keyboard.minValue) :=
      mul_le_mul_of_nonneg_right (by omega) (by omega)
    omega
  · by_contra large
    have product : 101 * (keyboard.maxValue - keyboard.minValue) ≤
        keyboard.percentOf value * (keyboard.maxValue - keyboard.minValue) :=
      mul_le_mul_of_nonneg_right (by omega) (by omega)
    omega

theorem valueFromPercent_eq (range : keyboard.minValue < keyboard.maxValue) (nonneg : 0 ≤ percent) :
    keyboardBacklightValueFromPercent keyboard percent =
      keyboard.minValue + (percent * (keyboard.maxValue - keyboard.minValue) + 50) / 100 := by
  have product : 0 ≤ percent * (keyboard.maxValue - keyboard.minValue) :=
    mul_nonneg nonneg (by omega)
  rw [keyboardBacklightValueFromPercent]
  rw [Int.tdiv_eq_ediv_of_nonneg (by omega)]

/-- A percent becomes a brightness. -/
theorem valueFromPercent_inRange (range : keyboard.minValue < keyboard.maxValue)
    (bounds : 0 ≤ percent ∧ percent ≤ 100) :
    keyboard.InRange (keyboardBacklightValueFromPercent keyboard percent) := by
  have lower : 0 ≤ percent * (keyboard.maxValue - keyboard.minValue) :=
    mul_nonneg bounds.1 (by omega)
  have upper : percent * (keyboard.maxValue - keyboard.minValue) ≤
      100 * (keyboard.maxValue - keyboard.minValue) :=
    mul_le_mul_of_nonneg_right bounds.2 (by omega)
  rw [KeyboardBacklightConfig.InRange, valueFromPercent_eq range bounds.1]
  omega

theorem valueFromPercent_zero (keyboard : KeyboardBacklightConfig) :
    keyboardBacklightValueFromPercent keyboard 0 = keyboard.minValue := by
  simp [keyboardBacklightValueFromPercent]

/-- A positive percent of a brightness comes back above the lowest brightness. -/
theorem valueFromPercent_percentOf (range : keyboard.minValue < keyboard.maxValue)
    (inside : keyboard.InRange value) (positive : 0 < keyboard.percentOf value) :
    keyboard.minValue < keyboardBacklightValueFromPercent keyboard (keyboard.percentOf value) := by
  obtain ⟨lower, upper⟩ := percentOf_mul range inside
  have wide : 1 * (keyboard.maxValue - keyboard.minValue) ≤
      keyboard.percentOf value * (keyboard.maxValue - keyboard.minValue) :=
    mul_le_mul_of_nonneg_right positive (by omega)
  rw [valueFromPercent_eq range (by omega)]
  obtain ⟨above, below⟩ := inside
  by_cases lowest : value = keyboard.minValue
  · omega
  · omega

/-- In a range of at most 100 steps a brightness survives both roundings. -/
theorem valueFromPercent_percentOf_small (range : keyboard.minValue < keyboard.maxValue)
    (small : keyboard.maxValue - keyboard.minValue ≤ 100) (inside : keyboard.InRange value) :
    keyboardBacklightValueFromPercent keyboard (keyboard.percentOf value) = value := by
  obtain ⟨lower, upper⟩ := percentOf_mul range inside
  rw [valueFromPercent_eq range (percentOf_bounds range inside).1]
  by_cases full : keyboard.maxValue - keyboard.minValue = 100
  · rw [full] at lower upper ⊢
    omega
  · omega

end Rounding

/-! ## The timeout as a machine -/

/-- The register's content and the fields the timeout works with. -/
structure Backlight where
  value : Int
  enabled : Bool
  timedOff : Bool
  restorePercent : Int
  deriving DecidableEq, Repr

namespace Backlight

variable (keyboard : KeyboardBacklightConfig) (backlight : Backlight)

/-- The percent of a lit keyboard becomes the one to restore. -/
def remember : Backlight :=
  if backlight.timedOff = false ∧ keyboard.InRange backlight.value ∧
      0 < keyboard.percentOf backlight.value then
    { backlight with restorePercent := keyboard.percentOf backlight.value }
  else backlight

/-- A tick after a time without input that is over the limit, or not. -/
def tick (idle : Bool) : Backlight :=
  if backlight.enabled = false then backlight
  else
    let seen := backlight.remember keyboard
    if idle ∧ seen.timedOff = false then
      { seen with value := keyboard.minValue, timedOff := true }
    else if idle = false ∧ seen.timedOff = true ∧ 0 < seen.restorePercent then
      { seen with
        value := keyboardBacklightValueFromPercent keyboard seen.restorePercent
        timedOff := false }
    else seen

/-- Setting the brightness by hand; the percent read back is the one to restore. -/
def set (percent : Int) : Backlight :=
  let value := keyboardBacklightValueFromPercent keyboard percent
  { backlight with
    value := value
    timedOff := false
    restorePercent := if keyboard.percentOf value > 0 then keyboard.percentOf value else 0 }

def useTimeout (enabled : Bool) : Backlight :=
  { backlight with enabled := enabled, timedOff := enabled && backlight.timedOff }

end Backlight

structure EcDevice.AccessesSucceed (ec : EcDevice) : Prop where
  writes : ec.WritesSucceed
  reads : ∀ index, ec.readFails index = false

/-- A profile with a keyboard register, and no LED of the kernel in its place. -/
structure EcKeyboard (cfg : AnsConfig) (leds : Option (List Led)) : Prop where
  valid : cfg.keyboardBacklight.Valid
  available : cfg.keyboardBacklight.available = true
  timeoutSupported : cfg.keyboardBacklight.timeoutSupported = true
  noLed : (keyboardBacklightReadSysfs leds).available = false

/-- The machine behind the EC and the daemon's fields. -/
def backlightOf (cfg : AnsConfig) (ec : EcDevice) (runtime : RuntimeState) : Backlight where
  value := ec.byte cfg.keyboardBacklight.reg
  enabled := runtime.keyboardBacklightTimeoutEnabled
  timedOff := runtime.keyboardBacklightTimedOff
  restorePercent := runtime.keyboardBacklightRestorePercent

def Backlight.RestoresPercent (backlight : Backlight) : Prop :=
  0 ≤ backlight.restorePercent ∧ backlight.restorePercent ≤ 100

section Refinement

variable {cfg : AnsConfig} {leds : Option (List Led)} {ec : EcDevice} {runtime : RuntimeState}

theorem EcKeyboard.range (keyboard : EcKeyboard cfg leds) :
    cfg.keyboardBacklight.minValue < cfg.keyboardBacklight.maxValue :=
  keyboard.valid.range keyboard.available

theorem EcDevice.OnlyRead.accessesSucceed {after : EcDevice} (only : OnlyRead ec after)
    (works : ec.AccessesSucceed) : after.AccessesSucceed :=
  ⟨fun index => only.writeFails ▸ works.writes index,
    fun index => only.readFails ▸ works.reads index⟩

/-- A successful read finds a brightness of the register available. -/
theorem keyboardBacklightReadEc_works (keyboard : EcKeyboard cfg leds)
    (works : ec.AccessesSucceed) :
    let read := (keyboardBacklightReadEc ec cfg).2
    (read.available = true ↔
        cfg.keyboardBacklight.InRange (ec.byte cfg.keyboardBacklight.reg)) ∧
      (read.available = true →
        read.percent = cfg.keyboardBacklight.percentOf (ec.byte cfg.keyboardBacklight.reg)) := by
  have value : (ecReadByte ec cfg.keyboardBacklight.reg).2 =
      ec.byte cfg.keyboardBacklight.reg := if_neg (by simp [works.reads])
  unfold keyboardBacklightReadEc KeyboardBacklightConfig.InRange
  dsimp only
  rw [if_neg (by simp [keyboard.available]), value]
  split
  · rename_i outside
    exact ⟨⟨fun no => (Bool.false_ne_true no).elim, fun inside => by omega⟩,
      fun no => (Bool.false_ne_true no).elim⟩
  · rename_i inside
    exact ⟨⟨fun _ => by omega, fun _ => rfl⟩, fun _ => rfl⟩

/-- Writing a percent leaves its brightness in the register and reads it back. -/
theorem keyboardBacklightSetPercent_works (keyboard : EcKeyboard cfg leds)
    (works : ec.AccessesSucceed) {percent : Int} (bounds : 0 ≤ percent ∧ percent ≤ 100) :
    let set := keyboardBacklightSetPercent ec cfg percent
    let value := keyboardBacklightValueFromPercent cfg.keyboardBacklight percent
    set.1.AccessesSucceed ∧ set.1.byte cfg.keyboardBacklight.reg = value ∧
      set.2.available = true ∧ set.2.percent = cfg.keyboardBacklight.percentOf value := by
  intro set value
  have range := keyboard.range
  have inside : cfg.keyboardBacklight.InRange value := valueFromPercent_inRange range bounds
  have byte : clampInt value 0 255 = value := clamp_of_mem
    (le_trans keyboard.valid.minValue.1 inside.1) (le_trans inside.2 keyboard.valid.maxValue.2)
  let written := ecWriteByte ec cfg.keyboardBacklight.reg value
  have stored : written.1.byte cfg.keyboardBacklight.reg = value := by
    rw [ecWriteByte_byte_self _ _ _ works.writes.nextWriteOk, byte]
  have later : written.1.AccessesSucceed := ⟨works.writes, works.reads⟩
  have only := keyboardBacklightReadEc_onlyRead written.1 cfg
  have result : set = keyboardBacklightReadEc written.1 cfg := by
    have usable : ¬ (cfg.keyboardBacklight.available = false ∨
        cfg.keyboardBacklight.maxValue - cfg.keyboardBacklight.minValue ≤ 0) := by
      rw [keyboard.available]
      simp only [Bool.true_eq_false, false_or]
      omega
    change keyboardBacklightSetPercent ec cfg percent = _
    unfold keyboardBacklightSetPercent
    dsimp only
    rw [if_neg usable, ecWriteByte_ok, works.writes.nextWriteOk, if_neg Bool.true_eq_false.mp]
  obtain ⟨available, percentRead⟩ := keyboardBacklightReadEc_works keyboard later
  rw [stored] at available percentRead
  rw [result]
  refine ⟨only.accessesSucceed later, ?_, available.mpr inside, percentRead (available.mpr inside)⟩
  rw [only.byte, stored]

theorem keyboardBacklightReadAny_eq (keyboard : EcKeyboard cfg leds) :
    keyboardBacklightReadAny ec cfg leds = keyboardBacklightReadEc ec cfg := by
  unfold keyboardBacklightReadAny
  dsimp only
  rw [if_neg (by simp [keyboard.noLed]), if_pos keyboard.available]

/-- Remembering a percent is the machine's. -/
theorem keyboardBacklightUpdateRestorePercent_works (keyboard : EcKeyboard cfg leds)
    (works : ec.AccessesSucceed) (runtime : RuntimeState) :
    let updated := keyboardBacklightUpdateRestorePercent ec cfg leds runtime
    updated.1.AccessesSucceed ∧
      updated.2.keyboardBacklightTimeoutSeconds = runtime.keyboardBacklightTimeoutSeconds ∧
      backlightOf cfg updated.1 updated.2 =
        (backlightOf cfg ec runtime).remember cfg.keyboardBacklight := by
  have only := keyboardBacklightReadEc_onlyRead ec cfg
  obtain ⟨available, percent⟩ := keyboardBacklightReadEc_works keyboard works
  have kept : (keyboardBacklightReadEc ec cfg).1.byte cfg.keyboardBacklight.reg =
      ec.byte cfg.keyboardBacklight.reg := only.byte _
  unfold keyboardBacklightUpdateRestorePercent Backlight.remember
  dsimp only
  rw [keyboardBacklightReadAny_eq keyboard]
  by_cases timedOff : runtime.keyboardBacklightTimedOff = true
  · have dark : ¬ (backlightOf cfg ec runtime).timedOff = false := by
      simp [backlightOf, timedOff]
    rw [if_pos timedOff, if_neg fun all => dark all.1]
    exact ⟨works, rfl, rfl⟩
  · have awake : (backlightOf cfg ec runtime).timedOff = false := by
      simpa [backlightOf] using timedOff
    rw [if_neg timedOff]
    by_cases lit : (keyboardBacklightReadEc ec cfg).2.available = true ∧
        0 < (keyboardBacklightReadEc ec cfg).2.percent
    · have remembered : cfg.keyboardBacklight.InRange (ec.byte cfg.keyboardBacklight.reg) ∧
          0 < cfg.keyboardBacklight.percentOf (ec.byte cfg.keyboardBacklight.reg) :=
        ⟨available.mp lit.1, percent lit.1 ▸ lit.2⟩
      rw [if_pos (by simpa using lit), if_pos ⟨awake, remembered⟩]
      refine ⟨only.accessesSucceed works, rfl, ?_⟩
      simp only [backlightOf, kept, percent lit.1]
    · have dark : ¬ (cfg.keyboardBacklight.InRange (ec.byte cfg.keyboardBacklight.reg) ∧
          0 < cfg.keyboardBacklight.percentOf (ec.byte cfg.keyboardBacklight.reg)) := by
        rintro ⟨inside, positive⟩
        have read := available.mpr inside
        exact lit ⟨read, (percent read).symm ▸ positive⟩
      rw [if_neg (by simpa using lit), if_neg fun all => dark all.2]
      refine ⟨only.accessesSucceed works, rfl, ?_⟩
      simp only [backlightOf, kept]

/-- The tick with the given times finds the time without input over its limit. -/
def tickIsIdle (runtime : RuntimeState) (nowMs lastActivityMs : Int) : Bool :=
  decide (nowMs - lastActivityMs ≥ runtime.keyboardBacklightTimeoutSeconds * 1000)

theorem tickIsIdle_iff {nowMs lastActivityMs : Int} :
    tickIsIdle runtime nowMs lastActivityMs = true ↔
      nowMs - lastActivityMs ≥ runtime.keyboardBacklightTimeoutSeconds * 1000 :=
  decide_eq_true_iff

theorem tickIsIdle_eq_false {nowMs lastActivityMs : Int} :
    tickIsIdle runtime nowMs lastActivityMs = false ↔
      nowMs - lastActivityMs < runtime.keyboardBacklightTimeoutSeconds * 1000 :=
  decide_eq_false_iff_not.trans not_le

theorem Backlight.remember_restoresPercent {keyboard : KeyboardBacklightConfig}
    {backlight : Backlight} (range : keyboard.minValue < keyboard.maxValue)
    (restores : backlight.RestoresPercent) : (backlight.remember keyboard).RestoresPercent := by
  unfold Backlight.remember
  split
  · rename_i lit
    exact percentOf_bounds range lit.2.1
  · exact restores

/-- While EC accesses succeed the code's tick is the machine's. -/
theorem keyboardBacklightTimeoutTick_works (keyboard : EcKeyboard cfg leds)
    (works : ec.AccessesSucceed) (restores : (backlightOf cfg ec runtime).RestoresPercent)
    (seconds : 0 < runtime.keyboardBacklightTimeoutSeconds) (nowMs lastActivityMs : Int) :
    let ticked := keyboardBacklightTimeoutTick ec cfg leds runtime nowMs lastActivityMs
    ticked.1.AccessesSucceed ∧
      ticked.2.keyboardBacklightTimeoutSeconds = runtime.keyboardBacklightTimeoutSeconds ∧
      backlightOf cfg ticked.1 ticked.2 = (backlightOf cfg ec runtime).tick cfg.keyboardBacklight
        (tickIsIdle runtime nowMs lastActivityMs) := by
  obtain ⟨later, sameSeconds, seen⟩ :=
    keyboardBacklightUpdateRestorePercent_works keyboard works runtime
  have runs : keyboardBacklightTimeoutCanRun cfg runtime =
      runtime.keyboardBacklightTimeoutEnabled := by
    simp [keyboardBacklightTimeoutCanRun, keyboard.available, keyboard.timeoutSupported, seconds]
  have remembered := Backlight.remember_restoresPercent keyboard.range restores
  rw [← seen] at remembered
  unfold keyboardBacklightTimeoutTick Backlight.tick
  dsimp only
  rw [runs, ← seen]
  by_cases disabled : runtime.keyboardBacklightTimeoutEnabled = false
  · rw [if_pos disabled, if_pos (show (backlightOf cfg ec runtime).enabled = false from disabled)]
    exact ⟨works, rfl, rfl⟩
  · rw [if_neg disabled,
      if_neg (show ¬ (backlightOf cfg ec runtime).enabled = false from disabled)]
    generalize keyboardBacklightUpdateRestorePercent ec cfg leds runtime = updated at *
    have off : (nowMs - lastActivityMs ≥ runtime.keyboardBacklightTimeoutSeconds * 1000 ∧
        updated.2.keyboardBacklightTimedOff = false) ↔
        (tickIsIdle runtime nowMs lastActivityMs = true ∧
          (backlightOf cfg updated.1 updated.2).timedOff = false) := by
      rw [tickIsIdle_iff]
      rfl
    have back : (nowMs - lastActivityMs < runtime.keyboardBacklightTimeoutSeconds * 1000 ∧
        updated.2.keyboardBacklightTimedOff = true ∧
          updated.2.keyboardBacklightRestorePercent > 0) ↔
        (tickIsIdle runtime nowMs lastActivityMs = false ∧
          (backlightOf cfg updated.1 updated.2).timedOff = true ∧
            0 < (backlightOf cfg updated.1 updated.2).restorePercent) := by
      rw [tickIsIdle_eq_false]
      rfl
    by_cases turnsOff : nowMs - lastActivityMs ≥ runtime.keyboardBacklightTimeoutSeconds * 1000 ∧
        updated.2.keyboardBacklightTimedOff = false
    · obtain ⟨works, value, available, _⟩ := @keyboardBacklightSetPercent_works cfg leds updated.1
        keyboard later 0 ⟨le_refl 0, by decide⟩
      rw [if_pos turnsOff, if_pos (off.mp turnsOff), if_pos available]
      refine ⟨works, sameSeconds, ?_⟩
      rw [valueFromPercent_zero] at value
      simp only [backlightOf, value]
    · rw [if_neg turnsOff, if_neg fun idle => turnsOff (off.mpr idle)]
      by_cases restoring : nowMs - lastActivityMs < runtime.keyboardBacklightTimeoutSeconds * 1000 ∧
          updated.2.keyboardBacklightTimedOff = true ∧
            updated.2.keyboardBacklightRestorePercent > 0
      · obtain ⟨works, value, available, _⟩ := keyboardBacklightSetPercent_works keyboard later
          (show 0 ≤ updated.2.keyboardBacklightRestorePercent ∧ _ from remembered)
        rw [if_pos restoring, if_pos (back.mp restoring), if_pos available]
        refine ⟨works, sameSeconds, ?_⟩
        simp only [backlightOf, value]
      · rw [if_neg restoring, if_neg fun active => restoring (back.mpr active)]
        exact ⟨later, sameSeconds, rfl⟩

end Refinement

/-! ## A brightness through a cycle -/

/-- The percent of the brightness is positive and gives the brightness back. -/
def SurvivesTimeout (keyboard : KeyboardBacklightConfig) (value : Int) : Prop :=
  0 < keyboard.percentOf value ∧
    keyboardBacklightValueFromPercent keyboard (keyboard.percentOf value) = value

instance (keyboard : KeyboardBacklightConfig) (value : Int) :
    Decidable (SurvivesTimeout keyboard value) :=
  inferInstanceAs (Decidable (_ ∧ _))

section Cycle

variable {keyboard : KeyboardBacklightConfig} {backlight : Backlight} {value : Int}

/-- A keyboard that was lit with `value` and is timed off remembers the percent of `value`. -/
structure Backlight.Remembers (keyboard : KeyboardBacklightConfig) (value : Int)
    (backlight : Backlight) : Prop where
  awake : backlight.timedOff = false → backlight.value = value
  asleep : backlight.timedOff = true → backlight.restorePercent = keyboard.percentOf value

theorem Backlight.tick_remembers (inside : keyboard.InRange value)
    (survives : SurvivesTimeout keyboard value) (remembers : backlight.Remembers keyboard value)
    (idle : Bool) : (backlight.tick keyboard idle).Remembers keyboard value := by
  unfold Backlight.tick
  split
  · exact remembers
  · have seen : (backlight.remember keyboard).Remembers keyboard value ∧
        (backlight.remember keyboard).restorePercent = keyboard.percentOf value := by
      unfold Backlight.remember
      cases timedOff : backlight.timedOff with
      | true =>
          rw [if_neg (by simp)]
          exact ⟨remembers, remembers.asleep timedOff⟩
      | false =>
          rw [remembers.awake timedOff, if_pos ⟨rfl, inside, survives.1⟩]
          exact ⟨⟨fun _ => rfl, fun _ => rfl⟩, rfl⟩
    obtain ⟨kept, restore⟩ := seen
    dsimp only
    split
    · exact ⟨fun awake => (Bool.true_eq_false.mp awake).elim, fun _ => restore⟩
    · split
      · refine ⟨fun _ => ?_, fun asleep => (Bool.false_ne_true asleep).elim⟩
        rw [restore]
        exact survives.2
      · exact kept

/-- One idle and one active tick leave the brightness of the percent remembered before them. -/
theorem Backlight.run_cycle (inside : keyboard.InRange value) :
    run (Backlight.tick keyboard) ⟨value, true, false, 100⟩ [true, false] =
      let restore := if 0 < keyboard.percentOf value then keyboard.percentOf value else 100
      ⟨keyboardBacklightValueFromPercent keyboard restore, true, false, restore⟩ := by
  by_cases positive : 0 < keyboard.percentOf value
  · simp [Backlight.tick, Backlight.remember, inside, positive]
  · simp [Backlight.tick, Backlight.remember, positive]

theorem percentOf_max (range : keyboard.minValue < keyboard.maxValue) :
    0 < keyboard.percentOf keyboard.maxValue := by
  have top : keyboard.InRange keyboard.maxValue := ⟨le_of_lt range, le_refl _⟩
  obtain ⟨_, above⟩ := percentOf_mul range top
  by_contra low
  have product : keyboard.percentOf keyboard.maxValue * (keyboard.maxValue - keyboard.minValue) ≤
      0 * (keyboard.maxValue - keyboard.minValue) :=
    mul_le_mul_of_nonneg_right (by omega) (by omega)
  omega

/-- In a range of at most 100 steps every brightness but the lowest survives. -/
theorem survivesTimeout_small (range : keyboard.minValue < keyboard.maxValue)
    (small : keyboard.maxValue - keyboard.minValue ≤ 100) (inside : keyboard.InRange value) :
    SurvivesTimeout keyboard value ↔ value ≠ keyboard.minValue := by
  obtain ⟨lower, upper⟩ := percentOf_mul range inside
  constructor
  · rintro ⟨positive, back⟩ lowest
    have lit := valueFromPercent_percentOf range inside positive
    omega
  · intro above
    refine ⟨?_, valueFromPercent_percentOf_small range small inside⟩
    by_contra low
    have product : keyboard.percentOf value * (keyboard.maxValue - keyboard.minValue) ≤
        0 * (keyboard.maxValue - keyboard.minValue) :=
      mul_le_mul_of_nonneg_right (by omega) (by omega)
    obtain ⟨above, below⟩ := inside
    omega

/-- A cycle gives back exactly the brightnesses that survive. -/
theorem survivesTimeout_of_cycle (range : keyboard.minValue < keyboard.maxValue)
    (inside : keyboard.InRange value)
    (back : (run (Backlight.tick keyboard) ⟨value, true, false, 100⟩ [true, false]).value =
      value) :
    SurvivesTimeout keyboard value := by
  rw [Backlight.run_cycle inside] at back
  by_cases positive : 0 < keyboard.percentOf value
  · rw [if_pos positive] at back
    exact ⟨positive, back⟩
  · rw [if_neg positive] at back
    have full : keyboardBacklightValueFromPercent keyboard 100 = keyboard.maxValue := by
      rw [valueFromPercent_eq range (by decide)]
      omega
    have top : value = keyboard.maxValue := back.symm.trans full
    rw [top] at positive
    exact absurd (percentOf_max range) positive

end Cycle

/-! ## The code's ticks -/

/-- `keyboard_backlight_timeout_tick` on the EC and the runtime state. -/
def timeoutTick (cfg : AnsConfig) (leds : Option (List Led)) (state : EcDevice × RuntimeState)
    (times : InputActivity) : EcDevice × RuntimeState :=
  keyboardBacklightTimeoutTick state.1 cfg leds state.2 times.nowMs times.lastActivityMs

/-- `keyboard_backlight_timeout_init` with the timeout on, by the profile or by hand. -/
def timeoutStart (cfg : AnsConfig) (runtime : RuntimeState) : RuntimeState :=
  { keyboardBacklightTimeoutInit cfg runtime with keyboardBacklightTimeoutEnabled := true }

section Ticks

variable {cfg : AnsConfig} {leds : Option (List Led)}

theorem Backlight.tick_restoresPercent {keyboard : KeyboardBacklightConfig} {backlight : Backlight}
    (range : keyboard.minValue < keyboard.maxValue) (restores : backlight.RestoresPercent)
    (idle : Bool) : (backlight.tick keyboard idle).RestoresPercent := by
  have remembered := Backlight.remember_restoresPercent range restores
  unfold Backlight.tick
  dsimp only
  split
  · exact restores
  · split
    · exact remembered
    · split
      · exact remembered
      · exact remembered

/-- A run of the code's ticks is one of the machine's. -/
theorem timeoutTick_run (keyboard : EcKeyboard cfg leds) {state : EcDevice × RuntimeState}
    (works : state.1.AccessesSucceed) (restores : (backlightOf cfg state.1 state.2).RestoresPercent)
    (seconds : 0 < state.2.keyboardBacklightTimeoutSeconds) (ticks : List InputActivity) :
    let after := run (timeoutTick cfg leds) state ticks
    backlightOf cfg after.1 after.2 =
      run (Backlight.tick cfg.keyboardBacklight) (backlightOf cfg state.1 state.2)
        (ticks.map fun times => tickIsIdle state.2 times.nowMs times.lastActivityMs) := by
  induction ticks generalizing state with
  | nil => rfl
  | cons times rest ih =>
      obtain ⟨later, sameSeconds, machine⟩ := keyboardBacklightTimeoutTick_works keyboard works
        restores seconds times.nowMs times.lastActivityMs
      have kept := Backlight.tick_restoresPercent keyboard.range restores
        (tickIsIdle state.2 times.nowMs times.lastActivityMs)
      rw [← machine] at kept
      have run := @ih (timeoutTick cfg leds state times) later kept (sameSeconds ▸ seconds)
      have idles : ∀ other : InputActivity,
          tickIsIdle (timeoutTick cfg leds state times).2 other.nowMs other.lastActivityMs =
            tickIsIdle state.2 other.nowMs other.lastActivityMs := by
        intro other
        rw [tickIsIdle, timeoutTick, sameSeconds, tickIsIdle]
      simp only [idles] at run
      rw [timeoutTick, machine] at run
      exact run

/--
Along every sequence of ticks a keyboard that is not timed off holds its first
brightness, exactly when this brightness survives.
-/
theorem brightnessReturns_iff {ec : EcDevice} (keyboard : EcKeyboard cfg leds)
    (works : ec.AccessesSucceed) (runtime : RuntimeState)
    (inside : cfg.keyboardBacklight.InRange (ec.byte cfg.keyboardBacklight.reg)) :
    (∀ ticks : List InputActivity,
      let after := run (timeoutTick cfg leds) (ec, timeoutStart cfg runtime) ticks
      after.2.keyboardBacklightTimedOff = false →
        after.1.byte cfg.keyboardBacklight.reg = ec.byte cfg.keyboardBacklight.reg) ↔
      SurvivesTimeout cfg.keyboardBacklight (ec.byte cfg.keyboardBacklight.reg) := by
  have seconds : 0 < (timeoutStart cfg runtime).keyboardBacklightTimeoutSeconds :=
    lt_of_lt_of_le (by decide) keyboard.valid.timeoutSeconds.1
  have machine := fun ticks => @timeoutTick_run cfg leds keyboard (ec, timeoutStart cfg runtime)
    works (show (0 : Int) ≤ 100 ∧ (100 : Int) ≤ 100 by decide) seconds ticks
  constructor
  · intro returns
    let limit := (timeoutStart cfg runtime).keyboardBacklightTimeoutSeconds * 1000
    have cycle := machine [⟨limit, 0⟩, ⟨0, 0⟩]
    have idles : [(⟨limit, 0⟩ : InputActivity), ⟨0, 0⟩].map
        (fun times => tickIsIdle (timeoutStart cfg runtime) times.nowMs times.lastActivityMs) =
          [true, false] := by
      have idle : tickIsIdle (timeoutStart cfg runtime) limit 0 = true :=
        tickIsIdle_iff.mpr (by simp [limit])
      have active : tickIsIdle (timeoutStart cfg runtime) 0 0 = false :=
        tickIsIdle_eq_false.mpr (by omega)
      simp [idle, active]
    rw [idles] at cycle
    refine survivesTimeout_of_cycle keyboard.range inside ?_
    have awake := congrArg Backlight.timedOff cycle
    have value := congrArg Backlight.value cycle
    have start : backlightOf cfg ec (timeoutStart cfg runtime) =
        ⟨ec.byte cfg.keyboardBacklight.reg, true, false, 100⟩ := rfl
    rw [start] at awake value
    refine value.symm.trans (returns _ ?_)
    refine awake.trans ?_
    rw [Backlight.run_cycle inside]
  · intro survives ticks after awake
    have initial : (backlightOf cfg ec (timeoutStart cfg runtime)).Remembers
        cfg.keyboardBacklight (ec.byte cfg.keyboardBacklight.reg) :=
      ⟨fun _ => rfl, fun asleep => (Bool.false_ne_true asleep).elim⟩
    have remembers : (backlightOf cfg after.1 after.2).Remembers cfg.keyboardBacklight
        (ec.byte cfg.keyboardBacklight.reg) := by
      rw [machine ticks]
      refine run_preserves (Backlight.Remembers cfg.keyboardBacklight _) initial ?_ _
      intro backlight idle before
      exact backlight.tick_remembers inside survives before idle
    exact remembers.awake awake

end Ticks

/-! ## The shipped profile -/

/-- A faultless EC whose registers all hold `value`. -/
def evenEc (value : UInt8) : EcDevice := { regs := fun _ => value }

theorem shippedKeyboard : EcKeyboard AcerNitroAn517.config none where
  valid := AcerNitroAn517.config_valid.keyboardBacklight
  available := rfl
  timeoutSupported := rfl
  noLed := rfl

/-- A keyboard that is dark when it times off comes back with full brightness. -/
theorem brightnessReturns_fails :
    ¬ ∀ (cfg : AnsConfig) (leds : Option (List Led)) (ec : EcDevice) (runtime : RuntimeState)
      (ticks : List InputActivity), EcKeyboard cfg leds → ec.AccessesSucceed →
        cfg.keyboardBacklight.InRange (ec.byte cfg.keyboardBacklight.reg) →
          let after := run (timeoutTick cfg leds) (ec, timeoutStart cfg runtime) ticks
          after.2.keyboardBacklightTimedOff = false →
            after.1.byte cfg.keyboardBacklight.reg = ec.byte cfg.keyboardBacklight.reg := by
  intro claim
  have back := claim AcerNitroAn517.config none (evenEc 0) {} [⟨30000, 0⟩, ⟨30000, 30000⟩]
    shippedKeyboard ⟨fun _ => rfl, fun _ => rfl⟩ (by decide) (by decide)
  exact absurd back (by decide)

/-- The second of four brightnesses comes back after half a minute without input. -/
theorem brightnessReturns_half :
    (run (timeoutTick AcerNitroAn517.config none)
      (evenEc 2, timeoutStart AcerNitroAn517.config {}) [⟨30000, 0⟩, ⟨30000, 30000⟩]).1.byte
        AcerNitroAn517.config.keyboardBacklight.reg = 2 :=
  (brightnessReturns_iff shippedKeyboard ⟨fun _ => rfl, fun _ => rfl⟩ {} (by decide)).mpr
    (by decide) _ (by decide)

end NitroSense
