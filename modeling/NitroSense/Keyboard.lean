import NitroSense.Config
import NitroSense.Ec

/-!
# The keyboard backlight

`keyboard/`: the backlight read from a sysfs LED or from the EC, set through
the EC, and switched off by the daemon after a time without input.
-/

namespace NitroSense

open EcDevice

/-- `struct keyboard_backlight_status`; the defaults are those of `keyboard_backlight_init_status`. -/
structure KeyboardBacklightStatus where
  available : Bool := false
  name : CString := []
  backend : CString := "none".toList
  reg : Int := -1
  brightness : Int := -1
  maxBrightness : Int := -1
  percent : Int := -1
  deriving DecidableEq, Repr

/-- An entry of `/sys/class/leds` with its two brightness files. -/
structure Led where
  entry : CString
  brightness : Option CString
  maxBrightness : Option CString
  deriving DecidableEq, Repr

/-- The keyboard part of `daemon_runtime_state`, and the power-source flag. -/
structure RuntimeState where
  powerSourceAutoApply : Bool := false
  keyboardBacklightTimeoutEnabled : Bool := false
  keyboardBacklightTimedOff : Bool := false
  keyboardBacklightTimeoutSeconds : Int := 0
  keyboardBacklightRestorePercent : Int := 0
  deriving DecidableEq, Repr

def keyboardBacklightPercentFromRange (value minValue maxValue : Int) : Int :=
  let range := maxValue - minValue
  if range ≤ 0 then -1 else ((value - minValue) * 100 + range.tdiv 2).tdiv range

def keyboardBacklightValueFromPercent (keyboard : KeyboardBacklightConfig) (percent : Int) : Int :=
  let range := keyboard.maxValue - keyboard.minValue
  keyboard.minValue + (percent * range + 50).tdiv 100

def candidateName (name : CString) : Bool :=
  stringContainsCase name "kbd_backlight".toList ||
    (stringContainsCase name "keyboard".toList && stringContainsCase name "backlight".toList) ||
    stringContainsCase name "::kbd".toList || stringContainsCase name "platform::kbd".toList

def readIntFile (file : Option CString) : Int :=
  match file with
  | none => -1
  | some text =>
      let parsed := strtol 10 (text.take 64)
      if !parsed.converted || parsed.value < 0 || parsed.value > 100000 then -1 else parsed.value

/-- `keyboard_backlight_read_sysfs`: the first candidate LED decides. -/
def keyboardBacklightReadSysfs (leds : Option (List Led)) : KeyboardBacklightStatus :=
  match leds.bind (List.find? fun led =>
      led.entry.head? ≠ some '.' && candidateName led.entry && decide (led.entry.length < 128)) with
  | none => { backend := "sysfs".toList }
  | some led =>
      let brightness := readIntFile led.brightness
      let maxBrightness := readIntFile led.maxBrightness
      let available := decide (brightness ≥ 0) && decide (maxBrightness > 0)
      { available := available
        name := led.entry
        backend := "sysfs".toList
        brightness := brightness
        maxBrightness := maxBrightness
        percent :=
          if available then keyboardBacklightPercentFromRange brightness 0 maxBrightness else -1 }

def keyboardBacklightReadEc (ec : EcDevice) (cfg : AnsConfig) :
    EcDevice × KeyboardBacklightStatus :=
  let keyboard := cfg.keyboardBacklight
  let unread : KeyboardBacklightStatus :=
    { backend := "ec".toList
      name := "acer-ec".toList
      reg := keyboard.reg
      maxBrightness := keyboard.maxValue }
  if keyboard.available = false then (ec, unread)
  else
    let value := ecReadByte ec keyboard.reg
    if value.2 < keyboard.minValue ∨ value.2 > keyboard.maxValue then (value.1, unread)
    else
      (value.1,
        { unread with
          available := true
          brightness := value.2
          percent :=
            keyboardBacklightPercentFromRange value.2 keyboard.minValue keyboard.maxValue })

def keyboardBacklightReadAny (ec : EcDevice) (cfg : AnsConfig) (leds : Option (List Led)) :
    EcDevice × KeyboardBacklightStatus :=
  let sysfs := keyboardBacklightReadSysfs leds
  if sysfs.available then (ec, sysfs)
  else if cfg.keyboardBacklight.available then keyboardBacklightReadEc ec cfg
  else (ec, sysfs)

/-- `keyboard_backlight_set_percent`: the status read back, available when all went well. -/
def keyboardBacklightSetPercent (ec : EcDevice) (cfg : AnsConfig) (percent : Int) :
    EcDevice × KeyboardBacklightStatus :=
  let keyboard := cfg.keyboardBacklight
  if keyboard.available = false ∨ keyboard.maxValue - keyboard.minValue ≤ 0 then (ec, {})
  else
    let written := ecWriteByte ec keyboard.reg (keyboardBacklightValueFromPercent keyboard percent)
    if written.2 = false then (written.1, {}) else keyboardBacklightReadEc written.1 cfg

def keyboardBacklightReason (status : KeyboardBacklightStatus) : CString :=
  if status.available then "ok".toList
  else if status.backend = "ec".toList then "ec-read-failed".toList
  else if status.name ≠ [] then "sysfs-led-read-failed".toList
  else "no-sysfs-led".toList

/-! ## The timeout -/

def keyboardBacklightTimeoutInit (cfg : AnsConfig) (runtime : RuntimeState) : RuntimeState :=
  { runtime with
    keyboardBacklightTimeoutEnabled :=
      cfg.keyboardBacklight.timeoutSupported && cfg.keyboardBacklight.timeoutDefaultEnabled
    keyboardBacklightTimeoutSeconds := cfg.keyboardBacklight.timeoutSeconds
    keyboardBacklightTimedOff := false
    keyboardBacklightRestorePercent := 100 }

def keyboardBacklightTimeoutNoteManualSet (runtime : RuntimeState) (percent : Int) :
    RuntimeState :=
  { runtime with
    keyboardBacklightTimedOff := false
    keyboardBacklightRestorePercent := if percent > 0 then percent else 0 }

def keyboardBacklightTimeoutCanRun (cfg : AnsConfig) (runtime : RuntimeState) : Bool :=
  cfg.keyboardBacklight.available && cfg.keyboardBacklight.timeoutSupported &&
    runtime.keyboardBacklightTimeoutEnabled && decide (runtime.keyboardBacklightTimeoutSeconds > 0)

def keyboardBacklightUpdateRestorePercent (ec : EcDevice) (cfg : AnsConfig)
    (leds : Option (List Led)) (runtime : RuntimeState) : EcDevice × RuntimeState :=
  if runtime.keyboardBacklightTimedOff then (ec, runtime)
  else
    let read := keyboardBacklightReadAny ec cfg leds
    if read.2.available && decide (read.2.percent > 0) then
      (read.1, { runtime with keyboardBacklightRestorePercent := read.2.percent })
    else (read.1, runtime)

/-- The two times of `keyboard_backlight_timeout_tick`, when an input device is open. -/
structure InputActivity where
  nowMs : Int
  lastActivityMs : Int

def keyboardBacklightTimeoutTick (ec : EcDevice) (cfg : AnsConfig) (leds : Option (List Led))
    (runtime : RuntimeState) (nowMs lastActivityMs : Int) : EcDevice × RuntimeState :=
  let idleMs := nowMs - lastActivityMs
  let timeoutMs := runtime.keyboardBacklightTimeoutSeconds * 1000
  if keyboardBacklightTimeoutCanRun cfg runtime = false then (ec, runtime)
  else
    let updated := keyboardBacklightUpdateRestorePercent ec cfg leds runtime
    let runtime := updated.2
    if idleMs ≥ timeoutMs ∧ runtime.keyboardBacklightTimedOff = false then
      let off := keyboardBacklightSetPercent updated.1 cfg 0
      (off.1,
        if off.2.available then { runtime with keyboardBacklightTimedOff := true } else runtime)
    else if idleMs < timeoutMs ∧ runtime.keyboardBacklightTimedOff = true ∧
        runtime.keyboardBacklightRestorePercent > 0 then
      let restored :=
        keyboardBacklightSetPercent updated.1 cfg runtime.keyboardBacklightRestorePercent
      (restored.1,
        if restored.2.available then { runtime with keyboardBacklightTimedOff := false }
        else runtime)
    else (updated.1, runtime)

/-! ## What the backlight touches -/

theorem keyboardBacklightReadEc_onlyRead (ec : EcDevice) (cfg : AnsConfig) :
    OnlyRead ec (keyboardBacklightReadEc ec cfg).1 := by
  unfold keyboardBacklightReadEc
  dsimp only
  split
  · exact OnlyRead.refl ec
  · split
    · exact ecReadByte_onlyRead ec _
    · exact ecReadByte_onlyRead ec _

theorem keyboardBacklightReadAny_onlyRead (ec : EcDevice) (cfg : AnsConfig)
    (leds : Option (List Led)) : OnlyRead ec (keyboardBacklightReadAny ec cfg leds).1 := by
  unfold keyboardBacklightReadAny
  dsimp only
  split
  · exact OnlyRead.refl ec
  · split
    · exact keyboardBacklightReadEc_onlyRead ec cfg
    · exact OnlyRead.refl ec

theorem keyboardBacklightSetPercent_writesWithin {allowed : Int → Prop} {ec : EcDevice}
    {cfg : AnsConfig} (percent : Int)
    (inside : cfg.keyboardBacklight.available = true → allowed cfg.keyboardBacklight.reg) :
    WritesWithin allowed ec (keyboardBacklightSetPercent ec cfg percent).1 := by
  unfold keyboardBacklightSetPercent
  dsimp only
  split
  · exact WritesWithin.refl ec
  · rename_i usable
    have available : cfg.keyboardBacklight.available = true := by
      simpa using fun unavailable => usable (Or.inl unavailable)
    have write := ecWriteByte_writesWithin ec
      (keyboardBacklightValueFromPercent cfg.keyboardBacklight percent) (inside available)
    split
    · exact write
    · exact write.trans ((keyboardBacklightReadEc_onlyRead _ cfg).writesWithin _)

theorem keyboardBacklightTimeoutTick_writesWithin {allowed : Int → Prop} {ec : EcDevice}
    {cfg : AnsConfig} (leds : Option (List Led)) (runtime : RuntimeState)
    (nowMs lastActivityMs : Int)
    (inside : cfg.keyboardBacklight.available = true → allowed cfg.keyboardBacklight.reg) :
    WritesWithin allowed ec
      (keyboardBacklightTimeoutTick ec cfg leds runtime nowMs lastActivityMs).1 := by
  have update : WritesWithin allowed ec
      (keyboardBacklightUpdateRestorePercent ec cfg leds runtime).1 := by
    unfold keyboardBacklightUpdateRestorePercent
    dsimp only
    split
    · exact WritesWithin.refl ec
    · split
      · exact (keyboardBacklightReadAny_onlyRead ec cfg leds).writesWithin allowed
      · exact (keyboardBacklightReadAny_onlyRead ec cfg leds).writesWithin allowed
  unfold keyboardBacklightTimeoutTick
  dsimp only
  split
  · exact WritesWithin.refl ec
  · split
    · exact update.trans (keyboardBacklightSetPercent_writesWithin _ inside)
    · split
      · exact update.trans (keyboardBacklightSetPercent_writesWithin _ inside)
      · exact update

end NitroSense
