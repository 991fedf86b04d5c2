import NitroSense.Config

/-!
# The state the daemon keeps for one fan

`daemon/types.h` and `fan/safety_log.c`.  The fields fall into two parts: what
the poll observes and what fan control decides.  The observed part holds two
temperature channels, the component's own and the one that drives control.
-/

namespace NitroSense

/-- The texts a safety reason takes; `none` is the empty string. -/
inductive SafetyReason where
  | none
  | temperatureUnknown
  | minimumSafeSpeed
  | criticalTemperature
  | ecReadFailure
  | ecWriteFailure
  deriving DecidableEq, Repr, Inhabited

namespace SafetyReason

def text : SafetyReason → CString
  | none => []
  | temperatureUnknown => "temperature-unknown".toList
  | minimumSafeSpeed => "minimum-safe-speed".toList
  | criticalTemperature => "critical-temperature".toList
  | ecReadFailure => "ec-read-failure".toList
  | ecWriteFailure => "ec-write-failure".toList

def hasValue (reason : SafetyReason) : Bool := reason ≠ none

theorem hasValue_iff_text (reason : SafetyReason) :
    reason.hasValue = true ↔ reason.text ≠ [] := by
  cases reason <;> decide

@[simp] theorem hasValue_none : SafetyReason.none.hasValue = false := rfl

theorem hasValue_eq_true {reason : SafetyReason} :
    reason.hasValue = true ↔ reason ≠ none := by
  cases reason <;> decide

end SafetyReason

/-- `fan_state`; a new one is all zeroes. -/
structure FanState where
  rpm : Int := 0
  tempC : Int := 0
  sensorTempC : Int := 0
  controlTempC : Int := 0
  controlSensorTempC : Int := 0
  pendingSpikeTempC : Int := 0
  pendingControlSpikeTempC : Int := 0
  writeValue : Int := 0
  tempAvailable : Bool := false
  controlTempAvailable : Bool := false
  tempSeeded : Bool := false
  controlTempSeeded : Bool := false
  percent : Int := 0
  requestedPercent : Int := 0
  criticalTempSamples : Int := 0
  ecReadFailures : Int := 0
  ecWriteFailures : Int := 0
  safetyActive : Bool := false
  safetyReason : SafetyReason := .none
  deriving DecidableEq, Repr, Inhabited

/-- `fan_state states[ANS_MAX_FANS]`; only the first `fan_len` entries are ever used. -/
abbrev FanStates := Nat → FanState

/-- The four fields that one temperature channel of a fan updates. -/
structure TempChannel where
  tempC : Int
  pendingSpikeTempC : Int
  available : Bool
  seeded : Bool
  deriving DecidableEq, Repr

namespace FanState

/-- The requested percent, or the actual one while nothing has been requested. -/
def statusRequestedPercent (state : FanState) : Int :=
  if state.requestedPercent > 0 then state.requestedPercent else state.percent

/-- The component's own temperature. -/
def component (state : FanState) : TempChannel :=
  ⟨state.tempC, state.pendingSpikeTempC, state.tempAvailable, state.tempSeeded⟩

/-- The temperature behind curves and safety. -/
def control (state : FanState) : TempChannel :=
  ⟨state.controlTempC, state.pendingControlSpikeTempC, state.controlTempAvailable,
    state.controlTempSeeded⟩

def setComponent (state : FanState) (channel : TempChannel) : FanState :=
  { state with
    tempC := channel.tempC
    pendingSpikeTempC := channel.pendingSpikeTempC
    tempAvailable := channel.available
    tempSeeded := channel.seeded }

def setControl (state : FanState) (channel : TempChannel) : FanState :=
  { state with
    controlTempC := channel.tempC
    pendingControlSpikeTempC := channel.pendingSpikeTempC
    controlTempAvailable := channel.available
    controlTempSeeded := channel.seeded }

/-- The two states agree in everything a poll observes or counts from observations. -/
structure SameObservation (first second : FanState) : Prop where
  component : second.component = first.component
  control : second.control = first.control
  sensorTempC : second.sensorTempC = first.sensorTempC
  controlSensorTempC : second.controlSensorTempC = first.controlSensorTempC
  rpm : second.rpm = first.rpm
  criticalTempSamples : second.criticalTempSamples = first.criticalTempSamples
  ecReadFailures : second.ecReadFailures = first.ecReadFailures

namespace SameObservation

variable {first second third : FanState}

@[refl] theorem refl (state : FanState) : SameObservation state state :=
  ⟨rfl, rfl, rfl, rfl, rfl, rfl, rfl⟩

theorem trans (left : SameObservation first second) (right : SameObservation second third) :
    SameObservation first third :=
  ⟨right.component.trans left.component, right.control.trans left.control,
    right.sensorTempC.trans left.sensorTempC,
    right.controlSensorTempC.trans left.controlSensorTempC, right.rpm.trans left.rpm,
    right.criticalTempSamples.trans left.criticalTempSamples,
    right.ecReadFailures.trans left.ecReadFailures⟩

end SameObservation

end FanState

/-- Between two polls the daemon leaves alone what a poll observes or counts. -/
def SameObservations (before after : FanStates) : Prop :=
  ∀ i, (before i).SameObservation (after i)

namespace SameObservations

variable {first second third : FanStates}

@[refl] theorem refl (states : FanStates) : SameObservations states states :=
  fun i => FanState.SameObservation.refl (states i)

theorem trans (left : SameObservations first second) (right : SameObservations second third) :
    SameObservations first third :=
  fun i => (left i).trans (right i)

theorem of_eq (same : second = first) : SameObservations first second :=
  same ▸ refl first

end SameObservations

/-- `fan_update_safety_state`, without its transition logs. -/
def fanUpdateSafetyState (state : FanState) (reason : SafetyReason) : FanState :=
  { state with safetyActive := reason.hasValue, safetyReason := reason }

def statusFanFirmwareControlled (firmwareMode safetyActive : Bool) : Bool :=
  firmwareMode && !safetyActive

end NitroSense
